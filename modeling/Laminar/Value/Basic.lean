import Laminar.Numeric.Fixed
import Laminar.Source.Expr
import Laminar.Tensor.Basic

/-!
# Values, operators and expression nodes

A layer is parameterised by values of any kind, and everything the compiler handles (an operator, an
initializer, an expression tree) can itself be such a value.  So the types below are declared
together.

* `Value` is a value of the layer language.
* `Initializer` says how a weight array is filled, `Op` is a primitive operator.
* `Node` is a node of the expression tree that a layer call expands to.  A call binds its result to
  a symbol; `Node.line` marks the source line of what follows; `Node.placeholder` and `Node.splat`
  stand for formals and are left over only in trees that no layer produced.
* `Entry` is an entry of a parameter block.

**Dictionaries** are lists of entries in insertion order, each key once; a set is the list of its
items.

**Objects.** An expression can ask whether two values are one and the same object, not-a-number
equals only the object that it is, and so does a deferred expression.  A value that is known as an
object is wrapped by `Value.kept` together with what tells it from others of the same content, its
`Identity`.  The wrapper stands around a value once at most, and what looks at the form of a value
looks inside (`Value.bare`).  A value without it is new, or is of a kind of which there is only one
object each.

**Raw nodes.** A place of the tree may hold a value that is no node.  `Node.raw` wraps such a value
and never a `Value.node`; `Node.ofValue` and `Value.ofNode` keep to that.
-/

namespace Laminar

/-- The kinds of initializer. -/
inductive InitClass where
  | base | gaussian | uniform | constant | xavier
  deriving DecidableEq, Repr

/-- The number of a table of global names. -/
abbrev ScopeId := Nat

/-- The number of a function that a layer definition leaves behind. -/
abbrev LayerId := Nat

/-- What tells an object from others of the same content. -/
inductive Identity where
  /-- It is an object of its own that has no number yet. -/
  | new
  /-- The object with a number.  Objects that last are numbered throughout a workspace; those made
  while the arguments of a call are evaluated are numbered anew for every call. -/
  | object (lasting : Bool) (number : Nat)
  /-- A constant of a source text or of an expression, which are numbered like objects: equal
  constants there are one object. -/
  | constant (lasting : Bool) (number : Nat)
  /-- The one text for a constant that could be a name. -/
  | word
  deriving DecidableEq, Repr

/-- The file that a line mark names. -/
inductive SourceFile where
  /-- The file is given by name, or none is. -/
  | given (name : Option String)
  /-- The source with a number, in which a layer was defined. -/
  | layers (source : Nat)
  deriving DecidableEq, Repr

/-- The name of a file, if it has one. -/
def SourceFile.name? : SourceFile → Option String
  | .given name => name
  | .layers source => some ("<layers " ++ toString source ++ ">")

mutual

/-- A value of the layer language. -/
inductive Value where
  | null
  | ellipsis
  | bool (b : Bool)
  | int (n : Int)
  | float (x : Float)
  | complex (z : Complex)
  | fixed (n : Fixed)
  | str (s : String)
  | bytes (b : List UInt8)
  | list (items : List Value)
  | tuple (items : List Value)
  | set (items : List Value)
  | dict (entries : List (Value × Value))
  | range (start stop step : Int)
  /-- An array that an operator makes of a sequence: the level of its numbers, or none if it holds
  values of any kind; its shape, and its items in row-major order. -/
  | array (level : Option Fixed.Level) (shape : List Nat) (items : List Value)
  | initializer (i : Initializer)
  | op (o : Op)
  | node (n : Node)
  | initClass (c : InitClass)
  | builtin (name : String)
  /-- The function that a layer definition leaves behind. -/
  | layer (name : String) (id : LayerId)
  /-- The look-up function of a dictionary. -/
  | getter (dict : Value)
  /-- A value that is known as an object. -/
  | kept (id : Identity) (value : Value)

/-- How the weights of a parameter are filled. -/
inductive Initializer where
  | base
  | gaussian (mean std : Value)
  | uniform (low high : Value)
  | constant (value : Value)
  | xavier

/-- A primitive operator. -/
inductive Op where
  /-- An operator of no particular kind. -/
  | generic
  /-- Marks a register that a net is given. -/
  | input
  /-- A trainable array: its dimensions, its initializer and further options. -/
  | par (dims : List Value) (init : Value) (opts : List (String × Value))
  /-- A constant array. -/
  | arr (value : Tensor)
  | dot
  | add
  | mul
  | relu
  | sigm
  | tanh
  | soft
  /-- Dropout with a probability. -/
  | drop (rate : Value)

/-- A node of an expression tree. -/
inductive Node where
  | symbol (name : Value)
  | const (value : Value)
  | placeholder (name : String)
  | splat (name : String)
  /-- An expression that is evaluated when its call is resolved: its text and tree, the table of
  globals it sees, the names bound to it, and what tells it from other objects. -/
  | deferred (text : String) (expr : Source.Expr) (scope : ScopeId) (names : List (String × Value))
      (id : Identity)
  | parameters (entries : List Entry)
  | call (callee : Value) (args : List Node)
  | assign (target value : Node)
  | line (number : Int) (file : SourceFile)
  | block (statements : List Node)
  | raw (value : Value)

/-- An entry of a parameter block. -/
inductive Entry where
  | keyword (name : Value) (value : Node)
  | other (node : Node)

end

instance : Inhabited Value := ⟨.null⟩

instance : Inhabited Node := ⟨.raw .null⟩

instance : Inhabited Entry := ⟨.other default⟩

/-- A value as it is, whatever object it is. -/
def Value.bare : Value → Value
  | .kept _ v => v
  | v => v

/-- A value at a place of the tree. -/
def Node.ofValue (v : Value) : Node :=
  match v.bare with
  | .node n => n
  | _ => .raw v

/-- A node as a value. -/
def Value.ofNode : Node → Value
  | .raw v => v
  | n => .node n

/-- The constant of source as a value. -/
def Value.ofLiteral : Source.Literal → Value
  | .null => .null
  | .ellipsis => .ellipsis
  | .bool b => .bool b
  | .int n => .int n
  | .float x => .float x
  | .imaginary x => .complex ⟨0.0, x⟩
  | .str s _ => .str s
  | .bytes b => .bytes b

/-- The value of a dictionary with text keys. -/
def Value.ofNamed (entries : List (String × Value)) : Value :=
  .dict (entries.map fun e => (.str e.1, e.2))

/-- The entries of a parameter block.  A pair given as a value is an entry like any other. -/
def Entry.ofNode (n : Node) : Entry :=
  match n with
  | .raw v =>
    match v.bare with
    | .tuple [name, value] => .keyword name (Node.ofValue value)
    | _ => .other n
  | n => .other n

/-! ### Classes -/

/-- The name of a kind of initializer. -/
def InitClass.name : InitClass → String
  | .base => "Initializer"
  | .gaussian => "Gaussian"
  | .uniform => "Uniform"
  | .constant => "Constant"
  | .xavier => "Xavier"

/-- All kinds of initializer. -/
def InitClass.all : List InitClass := [.base, .gaussian, .uniform, .constant, .xavier]

/-- The kind of initializer with a name. -/
def InitClass.ofName? (name : String) : Option InitClass := all.find? (·.name == name)

/-- The kind of an initializer. -/
def Initializer.cls : Initializer → InitClass
  | .base => .base
  | .gaussian .. => .gaussian
  | .uniform .. => .uniform
  | .constant _ => .constant
  | .xavier => .xavier

/-- The settings of an initializer, by name. -/
def Initializer.settings : Initializer → List (String × Value)
  | .base | .xavier => []
  | .gaussian mean std => [("mean", mean), ("std", std)]
  | .uniform low high => [("low", low), ("high", high)]
  | .constant value => [("value", value)]

/-- The classes of operators. -/
inductive OpClass where
  | generic | input | par | arr | dot | add | mul | relu | sigm | tanh | soft | drop
  deriving DecidableEq, Repr

/-- All classes of operators. -/
def OpClass.all : List OpClass :=
  [.generic, .input, .par, .arr, .dot, .add, .mul, .relu, .sigm, .tanh, .soft, .drop]

/-- The name of a class of operators. -/
def OpClass.name : OpClass → String
  | .generic => "Op"
  | .input => "Input"
  | .par => "Par"
  | .arr => "Arr"
  | .dot => "Dot"
  | .add => "Add"
  | .mul => "Mul"
  | .relu => "Relu"
  | .sigm => "Sigm"
  | .tanh => "Tanh"
  | .soft => "Soft"
  | .drop => "Drop"

/-- The class of operators with a name. -/
def OpClass.ofName? (name : String) : Option OpClass := all.find? (·.name == name)

/-- How many registers an operator of the class reads. -/
def OpClass.arity : OpClass → Nat
  | .input | .par | .arr => 0
  | .dot | .add | .mul => 2
  | .generic | .relu | .sigm | .tanh | .soft | .drop => 1

/-- The class of an operator. -/
def Op.cls : Op → OpClass
  | .generic => .generic
  | .input => .input
  | .par .. => .par
  | .arr _ => .arr
  | .dot => .dot
  | .add => .add
  | .mul => .mul
  | .relu => .relu
  | .sigm => .sigm
  | .tanh => .tanh
  | .soft => .soft
  | .drop _ => .drop

/-- The operator of a class that has no settings. -/
def OpClass.plain? : OpClass → Option Op
  | .generic => some .generic
  | .input => some .input
  | .dot => some .dot
  | .add => some .add
  | .mul => some .mul
  | .relu => some .relu
  | .sigm => some .sigm
  | .tanh => some .tanh
  | .soft => some .soft
  | .par | .arr | .drop => none

/-- The name of a kind of node. -/
def Node.kindName : Node → String
  | .symbol _ => "Symbol"
  | .const _ => "Const"
  | .placeholder _ => "Placeholder"
  | .splat _ => "Splat"
  | .deferred .. => "Deferred"
  | .parameters _ => "Parameters"
  | .call .. => "Call"
  | .assign .. => "Assignment"
  | .line .. => "LineMarker"
  | .block _ => "Block"
  | .raw _ => "object"

end Laminar
