import Laminar.Text.Nested
import Laminar.Value.Equality

/-!
# Values as sequences

Texts, lists, tuples, sets, dictionaries and ranges hold items.  A text holds its characters, a byte
text its bytes, a dictionary its keys, a range its numbers; a block holds its statements.

**Indices** count from zero, negative ones from the end.  A slice takes the items from one bound up
to another in steps, and bounds outside the sequence are moved to its ends.

* `Value.length`, `Value.iterate`, `Value.contains`, `Value.item` are the operations.
* `Value.truth` is the truth of a value: empty sequences, zero and nothing are false.
  `Value.condition` is the same where an array may come up, which need not have one.
-/

namespace Laminar

/-! ### Items -/

/-- The parts of an array along its first axis. -/
def arrayParts (level : Option Fixed.Level) : List Nat → List Value → List Value
  | [], _ => []
  | [_], items => items
  | n :: shape, items => (Text.blocks n (elementCount shape) items).map (.array level shape)

/-- The items a value holds, if it holds any. -/
def Value.items? (v : Value) : Option (List Value) :=
  match v.bare with
  | .str s => some (s.toList.map fun c => .str c.toString)
  | .bytes b => some (b.map fun x => .int x.toNat)
  | .list items => some items
  | .tuple items => some items
  | .set items => some items
  | .dict entries => some (entries.map Prod.fst)
  | .range start stop step => some ((rangeItems start stop step).map .int)
  | .array _ [] _ => none
  | .array level shape items => some (arrayParts level shape items)
  | .node (.block statements) => some (statements.map Value.ofNode)
  | _ => none

/-- The items a value holds. -/
def Value.iterate (v : Value) : Except Fault (List Value) :=
  match v.items? with
  | some items => pure items
  | none => throw (if v.isArray then .iterationWithoutAxes else .notIterable v.operandType)

/-- The largest length of a sequence and, with the sign turned, the least index. -/
def maxLength : Int := Int.pow 2 63 - 1

/-- How many items a value holds. -/
def Value.length (v : Value) : Except Fault Nat :=
  match v.bare with
  | .range start stop step =>
    let n := rangeLength start stop step
    if n ≤ maxLength then pure n else throw (.overflow .toLength)
  | .str s => pure s.length
  | v => match v.items? with
    | some items => pure items.length
    | none => throw (if v.isArray then .unsized else .noLength v.operandType)

/-- Is a number other than zero? -/
def Number.truth : Number → Bool
  | .int n => n != 0
  | .float x => !(x == 0.0)
  | .complex z => !z.isZero

/-- The truth of a value. -/
def Value.truth (v : Value) : Bool :=
  match v.bare with
  | .null => false
  | .str s => s != ""
  | .range start stop step => rangeLength start stop step != 0
  | .array _ [] [item] => (item.number?.map Number.truth).getD true
  | v => match v.number?, v.items? with
    | some n, _ => n.truth
    | none, some items => !items.isEmpty
    | none, none => true

/-- The truth of a value where it decides.  An array of several items has none. -/
def Value.condition (v : Value) : Except Fault Bool :=
  match v.bare with
  | .array _ _ [] => throw .truthOfNone
  | .array _ _ [v] => pure v.truth
  | .array .. => throw .truthOfMany
  | v => pure v.truth

/-- The whole number that a value is as an index. -/
def Value.index? (v : Value) : Option Int :=
  match v.bare with
  | .bool b => some (if b then 1 else 0)
  | .int n => some n
  | .fixed (.int n) => some n
  | _ => none

/-- Does a text stand somewhere in another? -/
def textContains {α : Type} [BEq α] (part : List α) : List α → Bool
  | [] => part.isEmpty
  | c :: cs => part.isPrefixOf (c :: cs) || textContains part cs

/-- Does a value hold another? Items that are the same object count as equal. -/
def Value.contains (container v : Value) : Except Fault Bool :=
  match container.bare, v.bare with
  | .str s, .str part => pure (textContains part.toList s.toList)
  | .str _, v => throw (.textMembership v.operandType)
  | .bytes b, .bytes part => pure (textContains part b)
  | .bytes b, v =>
    match v.index? with
    | some n =>
      if 0 ≤ n && n < 256 then pure (b.any (·.toNat == n.toNat))
      else throw .byteRange
    | none => throw (.notBytes v.operandType)
  | .dict entries, _ => do
    v.checkHashable
    return (lookupKey v entries).isSome
  | .set _, .set _ => pure false
  | .set items, _ => do
    v.checkHashable
    return items.any v.sameKey
  | .range start stop step, _ =>
    match v.number?.bind Number.whole? with
    | some n => pure (rangeContains start stop step n)
    | none => pure false
  | container, _ =>
    match container.items? with
    | some items => pure (items.any v.same)
    | none => throw (.notContainer container.operandType)

/-! ### Indices -/

/-- Refuse an index; an array has a wording of its own. -/
def refuseIndex (v : Value) (other : Fault) : Fault := if v.isArray then .notScalarIndex else other

/-- Can a whole number be an index at all? -/
def fitsIndex (i : Int) : Bool := -maxLength - 1 ≤ i && i ≤ maxLength

/-- The item at an index of a list; negative ones count from the end. -/
def itemAt? {α : Type} (items : List α) (i : Int) : Option α :=
  if i < 0 then
    if items.length < i.natAbs then none else items[items.length - i.natAbs]?
  else items[i.toNat]?

/-- The item at an index of a list that messages call `sequence`. -/
def itemAt {α : Type} (sequence : String) (items : List α) (i : Int) : Except Fault α :=
  if fitsIndex i then
    match itemAt? items i with
    | some item => pure item
    | none => throw (.indexRange sequence)
  else throw .indexTooLarge

/-- What stands between the brackets behind a value. -/
inductive Index where
  | value (v : Value)
  | slice (lower upper step : Value)
  /-- Several items, of which some are slices. -/
  | several (items : List (Option Value))

/-- A bound of a slice; nothing is no bound. -/
def sliceBound? (v : Value) : Except Fault (Option Int) :=
  match v.bare with
  | .null => pure none
  | v => match v.index? with
    | some n => pure (some n)
    | none => throw (refuseIndex v .sliceBound)

/-- Move a bound into the sequence of a length. -/
def clampBound (length : Nat) (low high : Int) (bound : Int) : Int :=
  let moved := if bound < 0 then bound + length else bound
  max low (min high moved)

/-- First position, bound and step of a slice in a sequence of a length. -/
def sliceRange (length : Nat) (lower upper step : Value) : Except Fault (Int × Int × Int) := do
  let step := (← sliceBound? step).getD 1
  if step = 0 then throw (.zeroStep "slice")
  let lower ← sliceBound? lower
  let upper ← sliceBound? upper
  let n : Int := length
  if step > 0 then
    return (lower.elim 0 (clampBound length 0 n), upper.elim n (clampBound length 0 n), step)
  else
    return (lower.elim (n - 1) (clampBound length (-1) (n - 1)),
      upper.elim (-1) (clampBound length (-1) (n - 1)), step)

/-- The items a slice takes. -/
def sliceItems {α : Type} (items : List α) (lower upper step : Value) :
    Except Fault (List α) := do
  let (first, bound, step) ← sliceRange items.length lower upper step
  let places := items.toArray
  return (rangeItems first bound step).filterMap fun i => places[i.toNat]?

/-- Several items of which some are slices are no key: neither a slice nor a list has a hash. -/
def refuseKey : List (Option Value) → Except Fault Value
  | [] | none :: _ => throw (.unhashable "slice")
  | some v :: rest => do
    v.checkHashable
    refuseKey rest

/-- The part of an array at some indices, one for each of the first axes. -/
def arrayItem (level : Option Fixed.Level) (axis : Nat) :
    List Value → List Nat → List Value → Except Fault Value
  | [], [], items => pure (items.headD .null)
  | [], shape, items => pure (.array level shape items)
  | _ :: _, [], _ => throw .arrayIndex
  | v :: rest, n :: shape, items =>
    match v.index? with
    | none => throw .arrayIndex
    | some i =>
      let j := if i < 0 then i + n else i
      if 0 ≤ j ∧ j < n then
        let size := elementCount shape
        arrayItem level (axis + 1) rest shape ((items.drop (j.toNat * size)).take size)
      else throw (.arrayRange i axis n)

/-- The part of an array at an index. -/
def arrayIndexed (level : Option Fixed.Level) (shape : List Nat) (items : List Value) :
    Index → Except Fault Value
  | .value v =>
    match v.bare with
    | .tuple indices =>
      if shape.length < indices.length then throw (.tooManyIndices shape.length indices.length)
      else arrayItem level 0 indices shape items
    | .bool _ | .fixed (.bool _) => throw .notImplemented
    | v =>
      if shape.isEmpty then throw (.tooManyIndices 0 1)
      else arrayItem level 0 [v] shape items
  | .slice l u t => do
    let size := elementCount shape.tail
    let rows ← sliceItems (Text.blocks (shape.headD 0) size items) l u t
    return .array level (rows.length :: shape.tail) rows.flatten
  | .several _ => throw .notImplemented

/-- Does a slice take every item in order, one after the other? -/
def takesOneByOne (step : Value) : Bool := step.index?.getD 1 == 1

/-- A part of a text or a tuple that a slice takes: if it is the whole, it is the object itself, and
what is picked with gaps is an object of its own. -/
def slicePart (base step part : Value) (whole solid : Bool) : Value :=
  if takesOneByOne step && whole then base
  else if solid && !takesOneByOne step && part.truth then part.made
  else part

/-- The item of a value at an index, or the items of a slice. -/
def Value.item (base : Value) (index : Index) : Except Fault Value :=
  match base.bare, index with
  | .str s, .value v =>
    match v.index? with
    | some i => do return .str (← itemAt "string" s.toList i).toString
    | none => throw (refuseIndex v (.textIndexType v.operandType))
  | .str s, .slice l u t => do
    let part ← sliceItems s.toList l u t
    return slicePart base t (.str (String.ofList part)) (part.length == s.length) true
  | .str _, .several _ => throw (.textIndexType "tuple")
  | .list items, .value v =>
    match v.index? with
    | some i => itemAt "list" items i
    | none => throw (refuseIndex v (.indexType "list" v.operandType))
  | .list items, .slice l u t => do return .list (← sliceItems items l u t)
  | .list _, .several _ => throw (.indexType "list" "tuple")
  | .tuple items, .value v =>
    match v.index? with
    | some i => itemAt "tuple" items i
    | none => throw (refuseIndex v (.indexType "tuple" v.operandType))
  | .tuple items, .slice l u t => do
    let part ← sliceItems items l u t
    return slicePart base t (.tuple part) (part.length == items.length) false
  | .tuple _, .several _ => throw (.indexType "tuple" "tuple")
  | .range start stop step, .value v =>
    match v.index? with
    | some i =>
      let n : Int := rangeLength start stop step
      let j := if i < 0 then i + n else i
      if 0 ≤ j ∧ j < n then pure (.int (start + step * j))
      else throw (.indexRange "range object")
    | none => throw (refuseIndex v (.indexType "range" v.operandType))
  | .range start stop step, .slice l u t => do
    let (first, bound, stride) ← sliceRange (rangeLength start stop step) l u t
    return .range (start + step * first) (start + step * bound) (step * stride)
  | .range .., .several _ => throw (.indexType "range" "tuple")
  | .dict entries, .value v => do
    v.checkHashable
    match lookupKey v entries with
    | some item => return item
    | none => throw (.missingKey v)
  | .dict _, .slice .. => throw (.unhashable "slice")
  | .dict _, .several items => refuseKey items
  | .bytes b, .value v =>
    match v.index? with
    | some i => do return .int (← itemAt "index" b i).toNat
    | none => throw (refuseIndex v (.indexType "byte" v.operandType))
  | .bytes b, .slice l u t => do
    let part ← sliceItems b l u t
    return slicePart base t (.bytes part) (part.length == b.length) true
  | .bytes _, .several _ => throw (.indexType "byte" "tuple")
  | .array level shape items, index => arrayIndexed level shape items index
  | .fixed n, .value v =>
    match v.bare with
    | .tuple [] => pure (.fixed n)
    | _ => throw .scalarIndex
  | .fixed _, _ => throw .scalarIndex
  | .initClass c, _ => throw (.classNotSubscriptable c.name)
  | .builtin name, _ =>
    if Builtin.isClass name then throw (.classNotSubscriptable name)
    else throw (.notSubscriptable (Value.builtin name).operandType)
  | v, _ => throw (.notSubscriptable v.operandType)

end Laminar
