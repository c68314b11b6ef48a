import Laminar.Decimal.Column
import Laminar.Decimal.Layout
import Laminar.Text.Nested
import Laminar.Text.Quoted
import Laminar.Value.Basic
import Laminar.Value.Builtin

/-!
# The text of values

`Value.repr` writes a value as it would stand in source where it can: text in quotes, a list in
brackets, a tuple in parentheses (a single item keeps its comma), a dictionary in braces in
insertion order.  Operators, initializers, nodes and arrays are written as the call that builds
them.

`Value.display` is the text of a value in running text: a text stands there without quotes, a number
of fixed width without its type.

* `Value.typeName` names the type of a value.
-/

namespace Laminar

/-- Items with a comma and a blank between them. -/
def commaJoin (items : List String) : String := ", ".intercalate items

/-- The text of a tuple whose items are written already. -/
def tupleText (items : List String) : String :=
  match items with
  | [item] => "(" ++ item ++ ",)"
  | items => "(" ++ commaJoin items ++ ")"

/-- The text of a dictionary whose entries are written already. -/
def dictText (entries : List String) : String := "\x7b" ++ commaJoin entries ++ "\x7d"

/-- The text of a shape. -/
def shapeText (shape : List Nat) : String := tupleText (shape.map toString)

/-- A float as text. -/
def floatText (x : Float) : String := Decimal.Layout.standard.write .double x

/-- A truth value as text. -/
def boolText (b : Bool) : String := if b then "True" else "False"

/-- A complex number as text: in parentheses unless its real part is nothing.  A whole part shows no
point. -/
def complexText (z : Complex) : String :=
  let plain : Decimal.Layout := { Decimal.Layout.standard with wholeEnd := "" }
  let im := plain.write .double z.im
  let signed := if z.im.toBits >>> 63 == 1 && !z.im.isNaN then im else "+" ++ im
  if z.re.toBits == 0 then im ++ "j" else "(" ++ plain.write .double z.re ++ signed ++ "j)"

/-- A number of fixed width without its type. -/
def Fixed.text : Fixed → String
  | .bool b => boolText b
  | .int n => toString n
  | .single x => Decimal.Layout.standard.write .single x
  | .float x => floatText x
  | .complex z => complexText z

/-- The name of the type of a number of fixed width. -/
def Fixed.typeName : Fixed → String
  | .bool _ => "bool"
  | .int _ => "int64"
  | .single _ => "float32"
  | .float _ => "float64"
  | .complex _ => "complex128"

/-- A number of fixed width with its type. -/
def Fixed.repr : Fixed → String
  | .bool b => "np." ++ boolText b ++ "_"
  | n =>
    let inside := n.text
    let bare := if inside.startsWith "(" then ((inside.drop 1).dropEnd 1).copy else inside
    "np." ++ n.typeName ++ "(" ++ bare ++ ")"

/-! ### Arrays -/

/-- The name of a level in the text of an array. -/
def Fixed.Level.name : Fixed.Level → String
  | .bool => "bool"
  | .int => "int64"
  | .single => "float32"
  | .float => "float64"
  | .complex => "complex128"

/-- The real part of a number of fixed width. -/
def Fixed.re : Fixed → Float
  | .single x | .float x => x
  | .complex z => z.re
  | _ => 0.0

/-- The imaginary part of a number of fixed width. -/
def Fixed.im : Fixed → Float
  | .complex z => z.im
  | _ => 0.0

/-- The imaginary part of a complex number in its column: the unit stands before the blanks. -/
def imaginaryWord (s : String) : String :=
  let digits := s.toList.takeWhile (· != ' ')
  String.ofList (digits ++ 'j' :: s.toList.drop digits.length)

/-- Numbers of a level as words of one width. -/
def Fixed.Level.column (level : Fixed.Level) (items : List Fixed) : List String :=
  match level with
  | .bool => items.map fun b => if b.text == "True" then " True" else b.text
  | .int =>
    let width := Decimal.longest (items.map (·.text.length))
    items.map fun n => Decimal.padStart width n.text
  | .single => Decimal.column .single false (items.map Fixed.re)
  | .float => Decimal.column .double false (items.map Fixed.re)
  | .complex =>
    List.zipWith (fun re im => re ++ imaginaryWord im)
      (Decimal.column .double false (items.map Fixed.re))
      (Decimal.column .double true (items.map Fixed.im))

/-- The room in a line of the text of an array. -/
def arrayWidth : Nat := 75

/-- An array as it would stand in source, given its items as words. -/
def arrayText (level : Option Fixed.Level) (shape : List Nat) (words : List String) : String :=
  let opening := "array("
  let indent := String.ofList (List.replicate (opening.length + 1) ' ')
  let rows :=
    if words.isEmpty then "[]" else Text.nestedText ", " shape indent (arrayWidth - 1) words
  let shapeNote := if words.isEmpty && shape != [0] then ["shape=" ++ shapeText shape] else []
  let levelNote := match level with
    | none => ["dtype=object"]
    | some l => if words.isEmpty || l == .single then ["dtype=" ++ l.name] else []
  match shapeNote ++ levelNote with
  | [] => opening ++ rows ++ ")"
  | notes =>
    let body := opening ++ rows ++ ","
    let note := commaJoin notes ++ ")"
    let last := (body.toList.reverse.takeWhile (· != '\n')).length
    let gap := if arrayWidth < last + note.length + 1 then
        "\n" ++ String.ofList (List.replicate opening.length ' ')
      else " "
    body ++ gap ++ note

/-- An array in running text, given its items as words. -/
def arrayDisplay (shape : List Nat) (words : List String) : String :=
  if words.isEmpty then "[]" else Text.nestedText " " shape " " arrayWidth words

/-- The numbers of fixed width among some values. -/
def fixedItems (items : List Value) : List Fixed :=
  items.filterMap fun
    | .fixed n => some n
    | _ => none

/-- A built-in name as text. -/
def builtinText (name : String) : String :=
  if Builtin.isClass name then "<class '" ++ name ++ "'>"
  else if Builtin.isFunction name then "<built-in function " ++ name ++ ">"
  else name

mutual

/-- A value as it would stand in source. -/
def Value.repr : Value → String
  | .null => "None"
  | .ellipsis => "Ellipsis"
  | .bool b => boolText b
  | .int n => toString n
  | .float x => floatText x
  | .complex z => complexText z
  | .fixed n => n.repr
  | .str s => Text.quote s
  | .bytes b => Text.quoteBytes b
  | .list items => "[" ++ commaJoin (reprList items) ++ "]"
  | .tuple items => tupleText (reprList items)
  | .set [] => "set()"
  | .set (v :: items) => dictText (v.repr :: reprList items)
  | .dict entries => dictText (reprEntries entries)
  | .range start stop step =>
    "range(" ++ toString start ++ ", " ++ toString stop ++
      (if step = 1 then "" else ", " ++ toString step) ++ ")"
  | .array none shape items => arrayText none shape (reprList items)
  | .array (some level) shape items =>
    arrayText (some level) shape (level.column (fixedItems items))
  | .initializer i => i.repr
  | .op o => o.repr
  | .node n => n.repr
  | .initClass c => "<class 'knet.initializers." ++ c.name ++ "'>"
  | .builtin name => builtinText name
  | .layer .. => "<knet.layer.LayerFunction object>"
  | .getter _ => "<built-in method get of dict object>"
  | .kept _ v => v.repr
termination_by structural v => v

/-- The items of a list as texts. -/
def reprList : List Value → List String
  | [] => []
  | v :: vs => v.repr :: reprList vs
termination_by structural vs => vs

/-- The entries of a dictionary as texts. -/
def reprEntries : List (Value × Value) → List String
  | [] => []
  | (k, v) :: es => (k.repr ++ ": " ++ v.repr) :: reprEntries es
termination_by structural es => es

/-- The entries of a dictionary with text keys as texts. -/
def reprNamed : List (String × Value) → List String
  | [] => []
  | (k, v) :: es => (Text.quote k ++ ": " ++ v.repr) :: reprNamed es
termination_by structural es => es

/-- An initializer as the call that builds it. -/
def Initializer.repr : Initializer → String
  | .base => "Initializer()"
  | .gaussian mean std => "Gaussian(" ++ mean.repr ++ ", " ++ std.repr ++ ")"
  | .uniform low high => "Uniform(" ++ low.repr ++ ", " ++ high.repr ++ ")"
  | .constant value => "Constant(" ++ value.repr ++ ")"
  | .xavier => "Xavier()"
termination_by structural i => i

/-- An operator as the call that builds it; a constant array shows its shape only. -/
def Op.repr : Op → String
  | .generic => "Op()"
  | .input => "Input()"
  | .par dims init [] => "Par(" ++ tupleText (reprList dims) ++ ", " ++ init.repr ++ ")"
  | .par dims init (o :: opts) =>
    "Par(" ++ tupleText (reprList dims) ++ ", " ++ init.repr ++ ", " ++
      dictText (reprNamed (o :: opts)) ++ ")"
  | .arr value => "Arr(shape=" ++ shapeText value.shape ++ ")"
  | .dot => "Dot()"
  | .add => "Add()"
  | .mul => "Mul()"
  | .relu => "Relu()"
  | .sigm => "Sigm()"
  | .tanh => "Tanh()"
  | .soft => "Soft()"
  | .drop rate => "Drop(" ++ rate.repr ++ ")"
termination_by structural o => o

/-- A node as the call that builds it. -/
def Node.repr : Node → String
  | .symbol name => "Symbol(" ++ name.repr ++ ")"
  | .const value => "Const(value=" ++ value.repr ++ ")"
  | .placeholder name => "Placeholder(name=" ++ Text.quote name ++ ")"
  | .splat name => "Splat(name=" ++ Text.quote name ++ ")"
  | .deferred text _ _ names _ =>
    "Deferred(source=" ++ Text.quote text ++ ", namespace=" ++ dictText (reprNamed names) ++ ")"
  | .parameters entries => "Parameters(entries=" ++ tupleText (reprParameters entries) ++ ")"
  | .call callee args =>
    "Call(callee=" ++ callee.repr ++ ", args=" ++ tupleText (reprNodes args) ++ ")"
  | .assign target value =>
    "Assignment(target=" ++ target.repr ++ ", value=" ++ value.repr ++ ")"
  | .line number file =>
    "LineMarker(lineno=" ++ toString number ++ ", filename=" ++
      file.name?.elim "None" Text.quote ++ ")"
  | .block statements => "Block(statements=" ++ tupleText (reprNodes statements) ++ ")"
  | .raw value => value.repr
termination_by structural n => n

/-- Nodes as texts. -/
def reprNodes : List Node → List String
  | [] => []
  | n :: ns => n.repr :: reprNodes ns
termination_by structural ns => ns

/-- An entry of a parameter block as text. -/
def Entry.repr : Entry → String
  | .keyword name value => "(" ++ name.repr ++ ", " ++ value.repr ++ ")"
  | .other node => node.repr
termination_by structural e => e

/-- The entries of a parameter block as texts. -/
def reprParameters : List Entry → List String
  | [] => []
  | e :: es => e.repr :: reprParameters es
termination_by structural es => es

end

/-- A value in running text. -/
def Value.display (v : Value) : String :=
  match v.bare with
  | .str s => s
  | .fixed n => n.text
  | .array none shape items => arrayDisplay shape (reprList items)
  | .array (some _) [] items => String.join ((fixedItems items).map Fixed.text)
  | .array (some level) shape items => arrayDisplay shape (level.column (fixedItems items))
  | v => v.repr

/-- The name of the type of a value. -/
def Value.typeName (v : Value) : String :=
  match v.bare with
  | .null => "NoneType"
  | .ellipsis => "ellipsis"
  | .bool _ => "bool"
  | .int _ => "int"
  | .float _ => "float"
  | .complex _ => "complex"
  | .fixed n => n.typeName
  | .str _ => "str"
  | .bytes _ => "bytes"
  | .list _ => "list"
  | .tuple _ => "tuple"
  | .set _ => "set"
  | .dict _ => "dict"
  | .range .. => "range"
  | .array .. => "ndarray"
  | .initializer i => i.cls.name
  | .op o => o.cls.name
  | .node n => n.kindName
  | .initClass _ => "type"
  | .builtin name => if Builtin.isClass name then "type" else "builtin_function_or_method"
  | .layer .. => "LayerFunction"
  | .getter _ => "builtin_function_or_method"
  | .kept .. => "object"

/-- The name of the type of an operand in a message about an operator: a fixed-width number shows
where it comes from. -/
def Value.operandType (v : Value) : String :=
  match v.bare with
  | .fixed n => "numpy." ++ n.typeName
  | .array .. => "numpy.ndarray"
  | v => v.typeName

/-- The name of the type of what stands at a place of the tree. -/
def Node.typeName : Node → String
  | .raw v => v.typeName
  | n => n.kindName

/-- The text of everything that tells an operator from another one of its class. -/
def Op.keyText : Op → String
  | .par dims init [] => tupleText [tupleText (reprList dims), init.repr]
  | .par dims init (o :: opts) =>
    tupleText [tupleText (reprList dims), init.repr, dictText (reprNamed (o :: opts))]
  | .arr value => tupleText [shapeText value.shape, Text.quoteBytes value.bytes]
  | .drop rate => tupleText [rate.repr]
  | _ => "()"

end Laminar
