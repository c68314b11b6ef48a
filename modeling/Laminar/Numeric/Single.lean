import Laminar.Numeric.Quotient

/-!
# Single precision

The elements of constant arrays are floats of single precision: 24 bits of mantissa, and exponents
from `-149` on.  A single is kept as the float that has the same value.

**Rounding.** A float is rounded to the nearest single, a tie to the even mantissa.  A sum,
difference, product or quotient of two singles is found as a float and rounded again, which is the
same as rounding once, because a float has more than twice the bits of a single.

* `Precision` says what tells one format of floats from another.
* `roundSingle` and `singleOfInt` round.
-/

namespace Laminar.Binary

/-- A format of floats. -/
structure Precision where
  /-- Number of stored mantissa bits. -/
  fractionBits : Nat
  /-- The exponent of the last mantissa bit of the smallest floats. -/
  leastExponent : Int
  deriving DecidableEq, Repr

/-- The format of floats. -/
def Precision.double : Precision := ⟨Binary.fractionBits, Binary.leastExponent⟩

/-- The format of singles. -/
def Precision.single : Precision := ⟨23, -149⟩

/-- The mantissa and the exponent that a number, given as those of a float, has in a format that
holds it. -/
def Precision.parts (p : Precision) (m : Nat) (q : Int) : Nat × Int :=
  let shift := max ((Binary.fractionBits : Int) - p.fractionBits) (p.leastExponent - q)
  (m / Nat.pow 2 shift.toNat, q + shift)

/-- The single nearest to a float, a tie to the even mantissa; what is too large for a single is
infinite. -/
def roundSingle (x : Float) : Float :=
  match decode x with
  | .finite d =>
    -- the exponent of the last of 24 mantissa bits
    let q := max (d.exponent + d.mantissa.log2 - Precision.single.fractionBits)
      Precision.single.leastExponent
    let m := divToEven d.mantissa (Nat.pow 2 (q - d.exponent).toNat)
    if q < 104 ∨ (q = 104 ∧ m < Nat.pow 2 24) then (ofDyadic ⟨d.negative, m, q⟩).getD nan
    else Float.ofBits (if d.negative then 0xfff0000000000000 else 0x7ff0000000000000)
  | _ => x

/-- A whole number rounded to the 24 bits that a single keeps. -/
def nearestSingle (n : Nat) : Nat :=
  if n < Nat.pow 2 24 then n
  else
    let unit := Nat.pow 2 (n.log2 - 23)
    divToEven n unit * unit

/-- A whole number rounded once to single precision. -/
def singleOfInt (n : Int) : Float32 :=
  let rounded : Int := if n < 0 then -(nearestSingle n.natAbs : Int) else nearestSingle n.natAbs
  ((ofInt rounded).getD nan).toFloat32

end Laminar.Binary
