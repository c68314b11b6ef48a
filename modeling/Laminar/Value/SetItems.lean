import Laminar.Value.Equality

/-!
# The items of a set

A set holds each of its items once and shows them in the order of a table of slots, in which the
place of an item follows from its hash.

**Hashes.** The hash of a number is its residue modulo `2 ^ 61 - 1`, with the sign of the number;
the hash of a tuple mixes those of its items.  Other items have no hash that could be foretold: a
set with such an item keeps the order in which its items came.

**Slots.** An item goes to the slot of its hash, or to one of the next nine if these are in the
table, or on to a slot that the rest of the hash decides, until one is free.  A table that is three
fifths full is laid out again with four times as many slots as there are items, and a power of two.

* `setItems` are the items of a set, in order.
-/

namespace Laminar

/-! ### Hashes -/

/-- The modulus of the hashes of numbers. -/
def hashModulus : Nat := Nat.pow 2 61 - 1

/-- A hash in 64 bits; `-1` is no hash. -/
def hashOfResidue (r : Int) : UInt64 := UInt64.ofInt (if r = -1 then -2 else r)

/-- The hash of a whole number. -/
def wholeHash (n : Int) : UInt64 := hashOfResidue (n.tmod hashModulus)

/-- The hash of a float that is a number. -/
def realHash? (x : Float) : Option UInt64 :=
  match Binary.decode x with
  | .nan => none
  | .infinite negative => some (hashOfResidue (if negative then -314159 else 314159))
  | .finite d =>
    -- a power of two counts modulo 61
    let r := d.mantissa * Nat.pow 2 (d.exponent % 61).toNat % hashModulus
    some (hashOfResidue (if d.negative then -(r : Int) else r))

/-- The hash of a number. -/
def Number.hash? : Number → Option UInt64
  | .int n => some (wholeHash n)
  | .float x => realHash? x
  | .complex z => do
    let h := (← realHash? z.re) + 1000003 * (← realHash? z.im)
    some (if h = UInt64.ofInt (-1) then UInt64.ofInt (-2) else h)

/-- Mix the hash of one more item of a tuple in. -/
def mixHash (acc lane : UInt64) : UInt64 :=
  let sum := acc + lane * 14029467366897019727
  (sum <<< 31 ||| sum >>> 33) * 11400714785074694791

/-- The end of the hash of a tuple of a length. -/
def tupleHash (length : Nat) (acc : UInt64) : UInt64 :=
  let h := acc + (UInt64.ofNat length ^^^ (2870177450012600261 ^^^ 3527539))
  if h = UInt64.ofInt (-1) then 1546275796 else h

mutual

/-- The hash of a value, if it can be foretold. -/
def Value.hash? : Value → Option UInt64
  | .bool b => some (wholeHash (if b then 1 else 0))
  | .int n => some (wholeHash n)
  | .float x => realHash? x
  | .complex z => (Number.complex z).hash?
  | .fixed n => n.number.hash?
  | .tuple items => (hashItems? 2870177450012600261 items).map (tupleHash items.length)
  | .kept _ v => v.hash?
  | _ => none
termination_by structural v => v

/-- The hashes of items, mixed into what is known. -/
def hashItems? (acc : UInt64) : List Value → Option UInt64
  | [] => some acc
  | v :: vs => do hashItems? (mixHash acc (← v.hash?)) vs
termination_by structural vs => vs

end

/-! ### Slots -/

/-- An item with its hash. -/
abbrev Hashed := UInt64 × Value

/-- A table of slots.  The number of slots is a power of two. -/
abbrev Slots := Array (Option Hashed)

/-- The table of a number of slots, all free. -/
def Slots.free (size : Nat) : Slots := Array.replicate size none

/-- The items in the order of the slots. -/
def Slots.items (s : Slots) : List Hashed := s.toList.filterMap id

/-- The first free slot from `i` on among `count` slots. -/
def Slots.freeFrom? (s : Slots) (i : Nat) : (count : Nat) → Option Nat
  | 0 => none
  | count + 1 => if (s.getD i none).isNone then some i else s.freeFrom? (i + 1) count

/-- The slot for a hash, from slot `i` on.  The fuel bounds the jumps. -/
def Slots.slotFor (s : Slots) : (fuel i : Nat) → (rest : UInt64) → Nat
  | 0, i, _ => i
  | fuel + 1, i, rest =>
    let neighbours := if i + 9 < s.size then 10 else 1
    match s.freeFrom? i neighbours with
    | some j => j
    | none =>
      let rest := rest >>> 5
      s.slotFor fuel ((i * 5 + 1 + rest.toNat) % s.size) rest

/-- Put an item into a table that has a free slot. -/
def Slots.put (s : Slots) (item : Hashed) : Slots :=
  s.setIfInBounds (s.slotFor (s.size + 64) (item.1.toNat % s.size) item.1) (some item)

/-- The least power of two above a number, starting from `size`.  The fuel bounds the doublings. -/
def sizeAbove (least : Nat) : (fuel size : Nat) → Nat
  | 0, size => size
  | fuel + 1, size => if least < size then size else sizeAbove least fuel (2 * size)

/-- The table with room for more than a number of items. -/
def Slots.resized (s : Slots) (least : Nat) : Slots :=
  s.items.foldl Slots.put (Slots.free (sizeAbove least 64 8))

/-- Is a table with a number of items too full? -/
def Slots.isFull (s : Slots) (used : Nat) : Bool := (s.size - 1) * 3 ≤ used * 5

/-- Put items into a table one by one, where `used` items are in it already. -/
def Slots.putAll (s : Slots) (used : Nat) : List Hashed → Slots
  | [] => s
  | item :: rest =>
    let s := s.put item
    let used := used + 1
    let s := if s.isFull used then s.resized (if 50000 < used then used * 2 else used * 4) else s
    s.putAll used rest

/-! ### Sets -/

/-- Items with their hashes, if all can be foretold. -/
def hashed? (items : List Value) : Option (List Hashed) :=
  items.mapM fun v => v.hash?.map fun h => (h, v)

/-- Each item once, the first of equal ones. -/
def distinctItems (items : List Value) : Except Fault (List Value) :=
  items.foldlM (fun known v => do
    v.checkHashable
    return if known.any v.sameKey then known else known ++ [v]) []

/-- A table for a copy of a set, taken at once. -/
def Slots.copied (s : Slots) : Slots :=
  let count := s.items.length
  let size := if (Slots.free 8).isFull count then sizeAbove (count * 2) 64 8 else 8
  if size = s.size then s else s.items.foldl Slots.put (Slots.free size)

/-- Items as a set shows them.  They are put in one by one; if the set is `copied` from a fixed one,
that one was built so. -/
def setItems (copied : Bool) (items : List Value) : Except Fault (List Value) := do
  let items ← distinctItems items
  match hashed? items with
  | none => return items
  | some hashed =>
    let slots := (Slots.free 8).putAll 0 hashed
    return (if copied then slots.copied else slots).items.map Prod.snd

end Laminar
