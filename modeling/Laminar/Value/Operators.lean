import Laminar.Text.Repeated
import Laminar.Value.Elementwise
import Laminar.Value.Formatting
import Laminar.Value.SetItems

/-!
# Operators on values

Between numbers an operator is arithmetic.  `+` also joins texts, lists and tuples, `*` repeats
them, `%` fills a text, and the operators on bits combine sets and dictionaries.

**Arrays.** An operator on an array, or on a number of fixed width and a sequence, works item by
item.

**Comparisons** yield a truth value; where a number of fixed width is compared with another number,
one of fixed width.

* `Value.binary` and `Value.unary` apply an operator, `Value.compares` a comparison.
-/

namespace Laminar

open Source (BinaryOp UnaryOp CompareOp)

/-! ### Sequences and sets -/

/-- The most items that a repetition of a list may make. -/
def maxRepetition : Nat := Nat.pow 2 25

/-- The most characters that a repetition of a text may make. -/
def maxTextRepetition : Nat := Nat.pow 2 31

/-- The repetition of a list; a count below zero gives the empty list. -/
def repeatItems {α : Type} (items : List α) (n : Int) : Except Fault (List α) :=
  if !fitsIndex n then throw (.overflow .toIndex)
  else if items.isEmpty then pure []
  else if maxRepetition < items.length * n.toNat then throw .outOfMemory
  else pure (List.replicate n.toNat items).flatten

/-- The repetition of a text; a count below zero gives the empty text. -/
def repeatText (s : String) (n : Int) : Except Fault String :=
  if !fitsIndex n then throw (.overflow .toIndex)
  else if maxTextRepetition < s.length * n.toNat then throw .outOfMemory
  else pure (Text.repeated s n.toNat)

/-- Can a value be repeated? -/
def Value.repeats (v : Value) : Bool :=
  match v.bare with
  | .str _ | .bytes _ | .list _ | .tuple _ => true
  | _ => false

/-- Refuse a count of repetitions. -/
def refuseCount (v : Value) : Fault :=
  match v.bare with
  | .fixed (.bool _) => .dimensionNotWhole
  | .fixed n => .notWhole (Value.fixed n).operandType
  | v => .repetition v.operandType

/-- The product of a sequence and a count.  What never changes is itself if it is taken once. -/
def repeatBy (sequence count : Value) : Except Fault Value :=
  match count.index?, sequence.bare with
  | some n, .str s => do if n = 1 then return sequence else return .str (← repeatText s n)
  | some n, .bytes b => do if n = 1 then return sequence else return .bytes (← repeatItems b n)
  | some n, .list items => do return .list (← repeatItems items n)
  | some n, .tuple items => do
    if n = 1 then return sequence else return .tuple (← repeatItems items n)
  | _, _ => throw (refuseCount count)

/-- An operator on two sets; `none` if it has none. -/
def combineSets (op : BinaryOp) (a b : List Value) : Option (Except Fault Value) :=
  let without (a b : List Value) : List Value := a.filter fun v => !b.any v.sameKey
  let items : Option (List Value) := match op with
    | .bitOr => some (a ++ b)
    | .bitAnd => some (a.filter fun v => b.any v.sameKey)
    | .sub => some (without a b)
    | .bitXor => some (without a b ++ without b a)
    | _ => none
  items.map fun items => do return .set (← setItems false items)

/-- What joins two values that cannot be joined: byte texts have a wording of their own. -/
def refuseJoin (v w : Value) : Fault :=
  match v.bare with
  | .bytes _ => .joinBytes w.operandType
  | v => .concatenation v.operandType w.operandType

/-- Two joined values of a kind that never changes: an empty one leaves the other as it is. -/
def joined (v w whole : Value) : Value :=
  if !v.truth then w else if !w.truth then v else whole

/-- Apply an operator to two values that are not both numbers. -/
def sequenceBinary (op : BinaryOp) (v w : Value) : Except Fault Value :=
  let mismatch := Fault.operands (operandSign op) v.operandType w.operandType
  let refusal := if v.isFixed || w.isFixed then refuseFixed op v w else mismatch
  match op, v.bare, w.bare with
  | .add, .str s, .str t => pure (joined v w (.str (s ++ t)))
  | .add, .bytes a, .bytes b => pure (joined v w (.bytes (a ++ b)))
  | .add, .list a, .list b => pure (.list (a ++ b))
  | .add, .tuple a, .tuple b => pure (joined v w (.tuple (a ++ b)))
  | .add, _, _ =>
    if v.isText || (v.repeats && !w.isFixed) then throw (refuseJoin v w) else throw refusal
  | .mul, _, _ =>
    if v.repeats then repeatBy v w
    else if w.repeats then repeatBy w v
    else throw refusal
  | .mod, .str s, _ => formatObject v s w
  | .mod, .bytes b, _ => do return .bytes (← formatBytes b w)
  | .bitOr, .dict a, .dict b =>
    pure (.dict (b.foldl (fun known e => insertKey e.1 e.2 known) a))
  | op, .set a, .set b => (combineSets op a b).getD (throw mismatch)
  | _, _, _ => throw refusal

/-! ### Operators -/

/-- Are both operands truth values? Then the operators on bits yield one. -/
def boolBits (op : BinaryOp) (v w : Value) : Option Bool :=
  match op, v.bare, w.bare with
  | .bitAnd, .bool a, .bool b => some (a && b)
  | .bitOr, .bool a, .bool b => some (a || b)
  | .bitXor, .bool a, .bool b => some (a != b)
  | _, _, _ => none

/-- Apply an operator to two values that do not meet item by item. -/
def plainBinary (op : BinaryOp) (v w : Value) : Except Fault Value :=
  match boolBits op v w, v.number?, w.number? with
  | some b, _, _ => pure (.bool b)
  | none, some n, some m =>
    if v.isFixed || w.isFixed then (fixedBinary op v w).map .fixed
    else match n.binary op m with
      | some result => result.map Number.toValue
      | none => throw (.operands (operandSign op) v.operandType w.operandType)
  | _, _, _ => sequenceBinary op v w

/-- Is an operator a matter of the sequence alone, though the other operand has fixed width? -/
def isSequenceOperator (op : BinaryOp) (v w : Value) : Bool :=
  match op with
  | .mul => (v.repeats && w.isFixed) || (v.isFixed && w.repeats)
  | .mod => v.isText
  | _ => false

/-- Apply an operator to two values. -/
def Value.binary (op : BinaryOp) (v w : Value) : Except Fault Value :=
  if meetItemwise v w && !isSequenceOperator op v w then arrayBinary (plainBinary op) op v w
  else plainBinary op v w

/-- Apply an operator to one value that is no array.  A number with the sign plus is itself. -/
def plainUnary (op : UnaryOp) (v : Value) : Except Fault Value :=
  match op, v.bare, v.number? with
  | .not, _, _ => do return .bool !(← v.condition)
  | op, .fixed n, _ => (fixedUnary op n).map .fixed
  | .neg, _, some n => pure n.negated.toValue
  | .pos, .bool b, _ => pure (.int (if b then 1 else 0))
  | .pos, _, some _ => pure v
  | .invert, _, some (.int n) => pure (.int (-n - 1))
  | .neg, v, none => throw (.unaryOperand "-" v.operandType)
  | .pos, v, none => throw (.unaryOperand "+" v.operandType)
  | .invert, v, _ => throw (.unaryOperand "~" v.operandType)

/-- Apply an operator to one value. -/
def Value.unary (op : UnaryOp) (v : Value) : Except Fault Value :=
  match op, v.bare with
  | .not, _ => plainUnary .not v
  | op, .array level shape items =>
    arrayUnary (plainUnary op) (fixedUnary op) level shape items
  | op, _ => plainUnary op v

/-! ### Comparisons -/

/-- The order sign of a comparison. -/
def orderSign? : CompareOp → Option Comparison
  | .lt => some .lt
  | .le => some .le
  | .gt => some .gt
  | .ge => some .ge
  | _ => none

/-- The name of an order sign in messages about its rules. -/
def Comparison.loopName : Comparison → String
  | .lt => "less"
  | .le => "less_equal"
  | .gt => "greater"
  | .ge => "greater_equal"

/-- The order sign between the same operands the other way round. -/
def Comparison.swapped : Comparison → Comparison
  | .lt => .gt
  | .le => .ge
  | .gt => .lt
  | .ge => .le

/-- Refuse to order two values.  A number of fixed width answers for both, and first if it stands
first. -/
def refuseOrder (c : Comparison) (v w : Value) : Fault :=
  match v.isFixed, w.isFixed with
  | true, _ =>
    if w.isText then .noLoop c.loopName [v.loopType, w.loopType]
    else .notOrdered c.sign v.plainType w.operandType
  | false, true =>
    if v.isText then .noLoop c.swapped.loopName [w.loopType, v.loopType]
    else .notOrdered c.swapped.sign w.plainType v.operandType
  | false, false => .notOrdered c.sign v.operandType w.operandType

/-- Is a value compared with a number of fixed width as a single object, not item by item? -/
def Value.isObject (v : Value) : Bool :=
  match v.bare with
  | .null | .str _ | .bytes _ | .list _ | .tuple _ | .range .. => false
  | _ => true

/-- Does a value itself answer whether it equals another? -/
def Value.decidesEquality (v : Value) : Bool :=
  match v.bare with
  | .initializer _ | .op _ | .node _ => true
  | _ => false

/-- The truth value of a comparison of two values. -/
def comparisonValue (v w : Value) (b : Bool) : Value :=
  let fixed := (v.isFixed && w.isObject) || (w.isFixed && v.isObject && !v.decidesEquality)
  if fixed then .fixed (.bool b) else .bool b

/-- Order two values item by item.  A sequence leaves the comparison to the other operand. -/
def arrayOrder (c : Comparison) (v w : Value) : Except Fault Value :=
  let refuse (c : Comparison) (a b : ItemKind) : Except Fault Bool :=
    throw (.noLoop c.loopName [a.loopType, b.loopType])
  if v.isSequence then arrayCompare (·.ordered c.swapped ·) (refuse c.swapped) w v
  else arrayCompare (·.ordered c ·) (refuse c) v w

/-- Order two values. -/
def Value.orderedValue (c : Comparison) (v w : Value) : Except Fault Value :=
  if meetItemwise v w then arrayOrder c v w
  else match v.ordered c w with
    | .ok b => pure (comparisonValue v w b)
    | .error (.notOrdered ..) =>
      if v.isFixed || w.isFixed then throw (refuseOrder c v w)
      else (v.ordered c w).map .bool
    | .error f => throw f

/-- Does an order sign hold between two values? -/
def Value.precedes (c : Comparison) (v w : Value) : Except Fault Bool := do
  (← v.orderedValue c w).condition

/-- Are two values equal, or the other way round if not `asked`? -/
def Value.equalValue (asked : Bool) (v w : Value) : Except Fault Value :=
  if meetItemwise v w then
    arrayCompare (fun v w => pure (v.eq w == asked)) (fun _ _ => pure (!asked)) v w
  else pure (comparisonValue v w (v.eq w == asked))

/-- Decide a comparison. -/
def Value.compares (op : CompareOp) (v w : Value) : Except Fault Value :=
  match op, orderSign? op with
  | _, some c => v.orderedValue c w
  | .ne, none => v.equalValue false w
  | .isIn, none => do return .bool (← w.contains v)
  | .notIn, none => do return .bool !(← w.contains v)
  | .is, none => pure (.bool (v.identical w))
  | .isNot, none => pure (.bool !(v.identical w))
  | _, none => v.equalValue true w

end Laminar
