/-!
# Expressions of layer source

The tree of an expression as it is read from layer source.  Layers are written as function bodies in
a small part of Python: this is the expression part of that language.

**Positions.** Only a call and the arguments of a call remember a line, because only they are named
in messages about a layer; no other node carries a position, so two expressions written differently
on the page are the same tree.

* `Expr` is the tree, `Literal` its constants, `Parameter` a formal of a function.
* `Expr.names` lists every name an expression mentions.
-/

namespace Laminar.Source

/-- Constants as they stand in source.  A sign is an operator, so numbers are not negative. -/
inductive Literal where
  | null
  | ellipsis
  | bool (b : Bool)
  | int (n : Nat)
  | float (x : Float)
  | imaginary (x : Float)
  /-- A text, and whether a `u` marks it. -/
  | str (s : String) (marked : Bool)
  | bytes (b : List UInt8)
  deriving DecidableEq, Repr, Inhabited

/-- Operators before one operand. -/
inductive UnaryOp where
  | neg | pos | not | invert
  deriving DecidableEq, Repr

/-- Arithmetic operators. -/
inductive BinaryOp where
  | add | sub | mul | div | floorDiv | mod | pow | matMul
  | shiftLeft | shiftRight | bitOr | bitXor | bitAnd
  deriving DecidableEq, Repr

/-- Comparison operators. -/
inductive CompareOp where
  | lt | le | gt | ge | eq | ne | isIn | notIn | is | isNot
  deriving DecidableEq, Repr

/-- Short-circuit operators. -/
inductive LogicalOp where
  | or | and
  deriving DecidableEq, Repr

/-- How a formal parameter may be given. -/
inductive ParameterKind where
  /-- By position only. -/
  | positional
  /-- By position or by name. -/
  | standard
  /-- Collects the remaining positional values. -/
  | rest
  /-- By name only. -/
  | named
  /-- Collects the remaining named values. -/
  | keywords
  deriving DecidableEq, Repr

mutual

/-- An expression. -/
inductive Expr where
  | name (id : String)
  | literal (value : Literal)
  | list (items : List Expr)
  | tuple (items : List Expr)
  | set (items : List Expr)
  | dict (items : List DictItem)
  | call (line : Nat) (callee : Expr) (args : List Argument) (keywords : List Keyword)
  | attribute (base : Expr) (field : String)
  | subscript (base index : Expr)
  | slice (lower upper step : Option Expr)
  | unary (op : UnaryOp) (operand : Expr)
  | binary (op : BinaryOp) (left right : Expr)
  | compare (first : Expr) (rest : List (CompareOp × Expr))
  | logical (op : LogicalOp) (operands : List Expr)
  | conditional (body test orelse : Expr)
  | starred (value : Expr)
  | lambda (params : List Parameter) (body : Expr)

/-- An item of a dictionary display: a key with its value, or a mapping whose entries are taken. -/
inductive DictItem where
  | entry (key value : Expr)
  | forward (value : Expr)

/-- A positional argument of a call, with the line where it starts. -/
inductive Argument where
  | mk (line : Nat) (value : Expr)

/-- A named argument of a call, or a forwarded mapping of named arguments. -/
inductive Keyword where
  | named (name : String) (line : Nat) (value : Expr)
  | forward (value : Expr)

/-- A formal parameter with its default. -/
inductive Parameter where
  | mk (name : String) (kind : ParameterKind) (default : Option Expr)

end

instance : Inhabited Expr := ⟨.literal .null⟩

/-- The line where a positional argument starts. -/
def Argument.line : Argument → Nat
  | .mk line _ => line

/-- The expression of a positional argument. -/
def Argument.value : Argument → Expr
  | .mk _ value => value

/-- The name of a formal parameter. -/
def Parameter.name : Parameter → String
  | .mk name _ _ => name

/-- The kind of a formal parameter. -/
def Parameter.kind : Parameter → ParameterKind
  | .mk _ kind _ => kind

/-- The default of a formal parameter. -/
def Parameter.default : Parameter → Option Expr
  | .mk _ _ default => default

/-! ### Names mentioned -/

mutual

/-- Every name an expression mentions, in order, with repetitions.  Attribute names and the names of
named arguments are not mentions. -/
def Expr.names : Expr → List String
  | .name id => [id]
  | .literal _ => []
  | .list items => namesOfList items
  | .tuple items => namesOfList items
  | .set items => namesOfList items
  | .dict items => namesOfItems items
  | .call _ callee args keywords =>
    callee.names ++ namesOfArguments args ++ namesOfKeywords keywords
  | .attribute base _ => base.names
  | .subscript base index => base.names ++ index.names
  | .slice lower upper step => namesOfOption lower ++ namesOfOption upper ++ namesOfOption step
  | .unary _ operand => operand.names
  | .binary _ left right => left.names ++ right.names
  | .compare first rest => first.names ++ namesOfComparisons rest
  | .logical _ operands => namesOfList operands
  | .conditional body test orelse => test.names ++ body.names ++ orelse.names
  | .starred value => value.names
  | .lambda params body => namesOfParameters params ++ body.names
termination_by structural e => e

/-- Names of a list of expressions. -/
def namesOfList : List Expr → List String
  | [] => []
  | e :: es => e.names ++ namesOfList es
termination_by structural es => es

/-- Names of the items of a dictionary display. -/
def namesOfItems : List DictItem → List String
  | [] => []
  | .entry k v :: es => k.names ++ v.names ++ namesOfItems es
  | .forward v :: es => v.names ++ namesOfItems es
termination_by structural es => es

/-- Names of positional arguments. -/
def namesOfArguments : List Argument → List String
  | [] => []
  | .mk _ e :: es => e.names ++ namesOfArguments es
termination_by structural es => es

/-- Names of named and forwarded arguments. -/
def namesOfKeywords : List Keyword → List String
  | [] => []
  | .named _ _ e :: es => e.names ++ namesOfKeywords es
  | .forward e :: es => e.names ++ namesOfKeywords es
termination_by structural es => es

/-- Names of the right sides of a comparison chain. -/
def namesOfComparisons : List (CompareOp × Expr) → List String
  | [] => []
  | (_, e) :: es => e.names ++ namesOfComparisons es
termination_by structural es => es

/-- Names of an optional expression. -/
def namesOfOption : Option Expr → List String
  | none => []
  | some e => e.names
termination_by structural e => e

/-- Names of the defaults of formal parameters. -/
def namesOfParameters : List Parameter → List String
  | [] => []
  | .mk _ _ default :: ps => namesOfOption default ++ namesOfParameters ps
termination_by structural ps => ps

end

end Laminar.Source
