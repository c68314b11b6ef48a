import Laminar.Value.Operators

/-!
# Constant expressions

An expression made of constants alone is itself a constant: its value is found once, when the
expression is read, and every evaluation yields the same object.  So the tuple `(1, 2)` and the sum
`600 + 400` are constants like `1000`; displays of lists, sets and dictionaries, comparisons and
calls are not.

**Limits.** What would become large is left to the evaluation: a product, power or shift of whole
numbers beyond 128 bits, a repeated text beyond 4096 characters, a repeated tuple beyond 256 items.
An operation that fails is left to it too.

* `Expr.folded?` is the constant that an expression is, if it is one.
-/

namespace Laminar

open Source (Expr BinaryOp)

/-- The most bits of a whole number that is found in advance. -/
def maxFoldedBits : Nat := 128

/-- The most items of a tuple that is found in advance. -/
def maxFoldedItems : Nat := 256

/-- The most characters of a text that is found in advance. -/
def maxFoldedLength : Nat := 4096

/-- The most items that such a tuple may hold, those of nested tuples included. -/
def maxNestedItems : Nat := 1024

/-- How many bits a whole number takes, apart from its sign. -/
def bitLength (n : Int) : Nat := if n = 0 then 0 else n.natAbs.log2 + 1

mutual

/-- How many items a constant holds, those of nested tuples included. -/
def Value.nestedItems : Value → Nat
  | .tuple items => items.length + nestedItemsSum items
  | _ => 0
termination_by structural v => v

/-- The sum of the items that constants hold. -/
def nestedItemsSum : List Value → Nat
  | [] => 0
  | v :: vs => v.nestedItems + nestedItemsSum vs
termination_by structural vs => vs

end

/-- Is a repetition small enough to be found in advance? -/
def repetitionFolds (n : Int) (sequence : Value) : Bool :=
  match sequence with
  | .tuple [] => true
  | .tuple items =>
    0 ≤ n && n.toNat * items.length ≤ maxFoldedItems &&
      (n = 0 || sequence.nestedItems ≤ maxNestedItems / n.toNat)
  | .str s => s.length = 0 || (0 ≤ n && n.toNat * s.length ≤ maxFoldedLength)
  | .bytes b => b.isEmpty || (0 ≤ n && n.toNat * b.length ≤ maxFoldedLength)
  | _ => true

/-- Is an operation on constants found in advance? -/
def operationFolds (op : BinaryOp) (v w : Value) : Bool :=
  match op, v.index?, w.index? with
  | .mul, some n, some m => n = 0 || m = 0 || bitLength n + bitLength m ≤ maxFoldedBits
  | .mul, some n, none => repetitionFolds n w
  | .mul, none, some m => repetitionFolds m v
  | .pow, some n, some m => n = 0 || m ≤ 0 || bitLength n * m.toNat ≤ maxFoldedBits
  | .shiftLeft, some n, some m =>
    n = 0 || m = 0 || (0 ≤ m && bitLength n + m.toNat ≤ maxFoldedBits)
  | .mod, _, _ => !v.isText
  | .matMul, _, _ => false
  | _, _, _ => true

mutual

/-- The constant that an expression is, if it is one. -/
def Source.Expr.folded? : Expr → Option Value
  | .literal value => some (.ofLiteral value)
  | .tuple items => (foldedItems? items).map .tuple
  | .unary op operand => do
    let v ← operand.folded?
    (v.unary op).toOption
  | .binary op left right => do
    let v ← left.folded?
    let w ← right.folded?
    if operationFolds op v w then (v.binary op w).toOption else none
  | .subscript base index => do
    let v ← base.folded?
    let i ← index.folded?
    (v.item (.value i)).toOption
  | _ => none
termination_by structural e => e

/-- The constants that expressions are, if they all are. -/
def foldedItems? : List Expr → Option (List Value)
  | [] => some []
  | e :: rest => do
    let v ← e.folded?
    let vs ← foldedItems? rest
    some (v :: vs)
termination_by structural es => es

end

end Laminar
