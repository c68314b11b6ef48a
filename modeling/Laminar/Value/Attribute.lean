import Laminar.Node.View

/-!
# Attributes of values

The named parts of a value: the settings of an initializer or operator, the fields of a node, the
parts of a number, the bounds of a range.

* `Value.attributes` are the names with their values, `Value.attribute` is the value of one.
-/

namespace Laminar

/-- The parts of a number; a truth value has those of a whole number. -/
def Number.attributes : Number → List (String × Value)
  | .int n =>
    [("real", .int n), ("imag", .int 0), ("numerator", .int n), ("denominator", .int 1)]
  | .float x => [("real", .float x), ("imag", .float 0.0)]
  | .complex z => [("real", .float z.re), ("imag", .float z.im)]

/-- The parts of a number of fixed width. -/
def Fixed.attributes : Fixed → List (String × Value)
  | .bool b => [("real", .fixed (.bool b)), ("imag", .fixed (.bool false))]
  | .int n => [("real", .fixed (.int n)), ("imag", .fixed (.int 0))]
  | .single x => [("real", .fixed (.single x)), ("imag", .fixed (.single 0.0))]
  | .float x => [("real", .fixed (.float x)), ("imag", .fixed (.float 0.0))]
  | .complex z => [("real", .fixed (.float z.re)), ("imag", .fixed (.float z.im))]

/-- The parts of a number that are the number itself, as an object. -/
def Value.ownParts (v : Value) : List (String × Value) :=
  match v.bare with
  | .int _ => [("real", v), ("numerator", v)]
  | .float _ | .fixed (.int _) | .fixed (.single _) | .fixed (.float _) => [("real", v)]
  | _ => []

/-- The settings of an operator, by name. -/
def Op.settings : Op → List (String × Value)
  | .par dims init opts => [("dims", .tuple dims), ("init", init), ("opts", .ofNamed opts)]
  | .drop rate => [("pdrop", rate)]
  | _ => []

/-- An entry of a parameter block as a value. -/
def Entry.toValue : Entry → Value
  | .keyword name value => .tuple [name, .ofNode value]
  | .other node => .ofNode node

/-- The fields of a node, by name. -/
def Node.fields : Node → List (String × Value)
  | .symbol name => [("name", name)]
  | .const value => [("value", value)]
  | .placeholder name => [("name", .str name)]
  | .splat name => [("name", .str name)]
  | .deferred text _ _ names _ => [("source", .str text), ("namespace", .ofNamed names)]
  | .parameters entries => [("entries", .tuple (entries.map Entry.toValue))]
  | .call callee args =>
    [("callee", callee), ("args", .tuple (args.map Value.ofNode)),
      ("parameters", (parameterBlock? args).elim .null .node)]
  | .assign target value => [("target", .ofNode target), ("value", .ofNode value)]
  | .line number file => [("lineno", .int number), ("filename", file.name?.elim .null .str)]
  | .block statements => [("statements", .tuple (statements.map Value.ofNode))]
  | .raw _ => []

/-- The attributes of a value, by name. -/
def Value.attributes (v : Value) : List (String × Value) :=
  v.ownParts ++ match v.bare with
    | .initializer i => i.settings
    | .op o => ("ninputs", .int o.cls.arity) :: ("name", .str o.cls.name) :: o.settings
    | .node n => n.fields
    | .dict _ => [("get", .getter v)]
    | .range start stop step => [("start", .int start), ("stop", .int stop), ("step", .int step)]
    | .layer name _ => [("name", .str name)]
    | .fixed n => n.attributes
    | v => (v.number?.map Number.attributes).getD []

/-- The value of an attribute. -/
def Value.attribute (v : Value) (field : String) : Except Fault Value :=
  match v.attributes.lookup field, v.bare with
  | some w, _ => pure w
  | none, .initClass c => throw (.noClassAttribute c.name field)
  | none, .builtin name =>
    if Builtin.isClass name then throw (.noClassAttribute name field)
    else throw (.noAttribute v.operandType field)
  | none, v => throw (.noAttribute v.operandType field)

end Laminar
