/-!
# Binary floating point, exactly

A finite 64-bit float is a whole number times a power of two.  This module takes a float apart into
that form, compares it exactly with whole numbers of any size, and rounds an exact quotient back to
the nearest float.  Everything else that handles numbers (their text, their arithmetic with
unbounded integers) goes through these functions, so no step depends on a second rounding.

**Rounding.** `ofRatio` is round to nearest, ties to the even mantissa.  A quotient too large for a
finite float has no rounding here (`none`): what overflow means is up to the caller.

* `Dyadic` is `± mantissa · 2 ^ exponent`; `decode` takes a float apart.
* `ofRatio`, `ofInt`, `ofDyadic` round.
* `compareInt` orders a whole number and a float.
-/

namespace Laminar.Binary

/-- The number `± mantissa · 2 ^ exponent`. -/
structure Dyadic where
  negative : Bool
  mantissa : Nat
  exponent : Int
  deriving DecidableEq, Repr

/-- What the bits of a float stand for. -/
inductive Decoded where
  | nan
  | infinite (negative : Bool)
  | finite (d : Dyadic)
  deriving DecidableEq, Repr

/-- Number of stored mantissa bits. -/
def fractionBits : Nat := 52

/-- The exponent of the last mantissa bit of the smallest floats. -/
def leastExponent : Int := -1074

/-- The largest exponent of the last mantissa bit of a finite float. -/
def greatestExponent : Int := 971

/-- Take a float apart. -/
def decode (x : Float) : Decoded :=
  let bits : Nat := x.toBits.toNat
  let negative : Bool := bits ≥ Nat.pow 2 63
  let field : Nat := bits / Nat.pow 2 52 % Nat.pow 2 11
  let fraction : Nat := bits % Nat.pow 2 52
  if field = 2047 then
    if fraction = 0 then .infinite negative else .nan
  else if field = 0 then .finite ⟨negative, fraction, leastExponent⟩
  else .finite ⟨negative, Nat.pow 2 52 + fraction, (field : Int) - 1075⟩

/-- The float with mantissa `m < 2 ^ 53` at exponent `q`, if it is finite.  A mantissa below
`2 ^ 52` is meant at the least exponent only. -/
def encode (negative : Bool) (m : Nat) (q : Int) : Option Float :=
  let sign := if negative then Nat.pow 2 63 else 0
  if m < Nat.pow 2 52 then some (Float.ofBits (UInt64.ofNat (sign + m)))
  else if q > greatestExponent then none
  else
    some (Float.ofBits (UInt64.ofNat
      (sign + (q + 1075).toNat * Nat.pow 2 52 + (m - Nat.pow 2 52))))

/-- Quotient rounded to nearest, a tie to the even neighbour. -/
def divToEven (num den : Nat) : Nat :=
  let q := num / den
  let twice := 2 * (num % den)
  if twice > den then q + 1
  else if twice = den then q + q % 2
  else q

/-- The float nearest to `± num / den`, ties to the even mantissa; `none` if it is not finite.
The denominator is positive. -/
def ofRatio (negative : Bool) (num den : Nat) : Option Float :=
  if num = 0 then some (Float.ofBits (if negative then 0x8000000000000000 else 0))
  else
    -- the exponent of the last of 53 mantissa bits, at first off by at most one
    let guess : Int := (num.log2 : Int) - den.log2 - 52
    let scaledBy (q : Int) : Nat × Nat :=
      if q < 0 then (num * Nat.pow 2 (-q).toNat, den) else (num, den * Nat.pow 2 q.toNat)
    let (n₀, d₀) := scaledBy guess
    let exact := if n₀ / d₀ < Nat.pow 2 52 then guess - 1 else guess
    let q := max exact leastExponent
    let (n, d) := scaledBy q
    let m := divToEven n d
    if m = Nat.pow 2 53 then encode negative (Nat.pow 2 52) (q + 1) else encode negative m q

/-- The float nearest to a whole number; `none` if it is too large. -/
def ofInt (n : Int) : Option Float := ofRatio (n < 0) n.natAbs 1

/-- The float nearest to a dyadic number. -/
def ofDyadic (d : Dyadic) : Option Float :=
  if d.exponent < 0 then ofRatio d.negative d.mantissa (Nat.pow 2 (-d.exponent).toNat)
  else ofRatio d.negative (d.mantissa * Nat.pow 2 d.exponent.toNat) 1

/-- The whole part of a dyadic number, towards zero. -/
def Dyadic.truncate (d : Dyadic) : Int :=
  let whole : Nat :=
    if d.exponent < 0 then d.mantissa / Nat.pow 2 (-d.exponent).toNat
    else d.mantissa * Nat.pow 2 d.exponent.toNat
  if d.negative then -whole else whole

/-- Is a dyadic number whole? -/
def Dyadic.isWhole (d : Dyadic) : Bool :=
  d.exponent ≥ 0 || d.mantissa % Nat.pow 2 (-d.exponent).toNat == 0

/-- The greatest whole number below or at a dyadic number. -/
def Dyadic.floor (d : Dyadic) : Int :=
  if d.negative && !d.isWhole then d.truncate - 1 else d.truncate

/-- The order of a whole number and a float, exactly; `none` if the float is not a number. -/
def compareInt (n : Int) (x : Float) : Option Ordering :=
  match decode x with
  | .nan => none
  | .infinite negative => some (if negative then .gt else .lt)
  | .finite d =>
    let m : Int := if d.negative then -d.mantissa else d.mantissa
    some <|
      if d.exponent < 0 then compare (n * Int.pow 2 (-d.exponent).toNat) m
      else compare n (m * Int.pow 2 d.exponent.toNat)

/-- The remainder of the division of magnitudes, with the sign of the dividend, exactly.
The divisor is not zero. -/
def Dyadic.remainder (a b : Dyadic) : Dyadic :=
  let q := min a.exponent b.exponent
  let m := a.mantissa * Nat.pow 2 (a.exponent - q).toNat
  let n := b.mantissa * Nat.pow 2 (b.exponent - q).toNat
  ⟨a.negative, m % n, q⟩

end Laminar.Binary
