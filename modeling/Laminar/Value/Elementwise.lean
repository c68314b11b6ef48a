import Laminar.Tensor.Convert
import Laminar.Value.FixedArithmetic
import Laminar.Value.Order

/-!
# Operators item by item

Where a number of fixed width or an array meets a sequence, the sequence is read as an array, and
the operator is applied to the items one by one.  The shapes must agree from the last axis on; an
axis of length one is repeated.

**Items** are numbers that meet at one level, texts, or values of any kind.  Texts have no operators
here but equality; among values of any kind a number of fixed width is a plain number.

* `meetItemwise` says whether two operands meet so.
* `arrayBinary`, `arrayUnary` and `arrayCompare` apply an operator.
-/

namespace Laminar

open Source (BinaryOp UnaryOp)

/-! ### Operands -/

/-- What the items of an operand are. -/
inductive ItemKind where
  | level (l : Fixed.Level)
  | bytes
  | text
  | any
  deriving DecidableEq, Repr

/-- The least kind that holds the items of two. -/
def ItemKind.join : ItemKind → ItemKind → ItemKind
  | .level a, .level b => .level (a.join b)
  | .any, _ | _, .any => .any
  | .text, _ | _, .text => .text
  | _, _ => .bytes

/-- The name of a kind in messages about rules of operators. -/
def ItemKind.loopType : ItemKind → String
  | .level l => l.loopType
  | .bytes => "BytesDType"
  | .text => "StrDType"
  | .any => "ObjectDType"

/-- The kind of a value as an item of a sequence. -/
def Value.itemKind (v : Value) : ItemKind :=
  match v.bare with
  | .int n =>
    if Fixed.fits n then .level .int else if 0 ≤ n && n < Int.pow 2 64 then .level .float else .any
  | .str _ => .text
  | .bytes _ => .bytes
  | v => if v.number?.isSome then .level v.level else .any

/-- An operand: the shape, kind and items of an array. -/
structure Operand where
  shape : List Nat
  kind : ItemKind
  items : List Value
  /-- Is it a plain number? -/
  plain : Bool := false

/-- Is a value a sequence that is read as an array? -/
def Value.isSequence (v : Value) : Bool :=
  match v.bare with
  | .list _ | .tuple _ | .range .. => true
  | _ => false

/-- A value as an operand. -/
def Value.operand (v : Value) : Except Fault Operand :=
  match v.bare with
  | .array level shape items => pure { shape, kind := level.elim .any .level, items }
  | .int n => pure ⟨[], .level .int, [.int n], true⟩
  | v =>
    if v.isSequence then do
      let shape ← v.arrayShape
      let items := leaves shape.length v
      match items with
      | [] => return { shape, kind := .level .float, items := [] }
      | first :: rest =>
        let kind := rest.foldl (fun k w => k.join w.itemKind) first.itemKind
        return { shape, kind, items }
    else pure ⟨[], v.itemKind, [v], !v.isFixed⟩

/-- The kind of an operand where it meets another. -/
def Operand.yielding (a b : Operand) : ItemKind :=
  match a.plain, a.kind, b.kind with
  | true, .level l, .level m => .level (l.yielding m)
  | _, kind, _ => kind

/-- The kind at which two operands meet. -/
def Operand.meet (a b : Operand) : ItemKind := (a.yielding b).join (b.yielding a)

/-- An array; one without axes is its only item. -/
def arrayResult (level : Option Fixed.Level) (shape : List Nat) (items : List Value) : Value :=
  match shape, items with
  | [], [item] => item
  | shape, items => .array level shape items

/-- Do two operands meet item by item? -/
def meetItemwise (v w : Value) : Bool :=
  v.isArray || w.isArray || (v.isFixed && w.isSequence) || (v.isSequence && w.isFixed)

/-! ### Shapes -/

/-- The shape that two shapes meet at, both read from the last axis. -/
def meetShapes? : List Nat → List Nat → Option (List Nat)
  | [], b => some b
  | a, [] => some a
  | m :: a, n :: b => do
    let rest ← meetShapes? a b
    if m = n || n = 1 then some (m :: rest) else if m = 1 then some (n :: rest) else none

/-- The items of an operand repeated to fill a shape. -/
def Operand.fill (a : Operand) (shape : List Nat) : List Value :=
  spread (List.replicate (shape.length - a.shape.length) 1 ++ a.shape) shape a.items

/-- Apply a function to the items of two operands one by one. -/
def zipOperands (f : Value → Value → Except Fault Value) (a b : Operand) :
    Except Fault (List Nat × List Value) := do
  match meetShapes? a.shape.reverse b.shape.reverse with
  | none => throw (.shapesApart a.shape b.shape)
  | some reversed =>
    let shape := reversed.reverse
    return (shape, ← ((a.fill shape).zip (b.fill shape)).mapM fun (v, w) => f v w)

/-! ### Operators -/

/-- Refuse an operator on texts. -/
def refuseTexts (op : BinaryOp) (a b : Operand) : Fault :=
  if isUniform op then .noLoop (loopName op) [a.kind.loopType, b.kind.loopType]
  else .noSafeLoop (loopName op)

/-- Apply an operator item by item; `plain` applies it to values of any kind. -/
def arrayBinary (plain : Value → Value → Except Fault Value) (op : BinaryOp) (v w : Value) :
    Except Fault Value := do
  if op = .matMul then throw (.operands (operandSign op) v.operandType w.operandType)
  let a ← v.operand
  let b ← w.operand
  match a.meet b with
  | .level l =>
    let (shape, items) ← zipOperands (fun v w => (fixedAtLevel op l v w).map .fixed) a b
    return arrayResult (some (resultLevel op l)) shape items
  | .any =>
    let (shape, items) ← zipOperands (fun v w => plain v.plain w.plain) a b
    return arrayResult none shape items
  | _ => throw (refuseTexts op a b)

/-- Apply an operator to every item of an array; `plain` applies it to values of any kind. -/
def arrayUnary (plain : Value → Except Fault Value) (fixed : Fixed → Except Fault Fixed)
    (level : Option Fixed.Level) (shape : List Nat) (items : List Value) : Except Fault Value := do
  match level with
  | none => return arrayResult none shape (← items.mapM plain)
  | some l =>
    let results ← (fixedItems items).mapM fixed
    return arrayResult (some ((results.head?.map Fixed.level).getD l)) shape (results.map .fixed)

/-- Compare item by item; `textResult` is the result between texts and numbers, or a fault. -/
def arrayCompare (f : Value → Value → Except Fault Bool)
    (textResult : ItemKind → ItemKind → Except Fault Bool) (v w : Value) : Except Fault Value := do
  let a ← v.operand
  let b ← w.operand
  let compare (v w : Value) : Except Fault Value := (f v w).map (.fixed ∘ .bool)
  let (shape, items) ← match a.kind.join b.kind with
    | .level _ => zipOperands compare a b
    | .any => zipOperands (fun v w => compare v.plain w.plain) a b
    | _ => do
      let answer ← textResult a.kind b.kind
      zipOperands (fun _ _ => pure (.fixed (.bool answer))) a b
  return arrayResult (some .bool) shape items

end Laminar
