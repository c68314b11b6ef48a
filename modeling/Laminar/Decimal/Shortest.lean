import Laminar.Numeric.Single

/-!
# Shortest decimals

The decimal with the fewest digits that reads back as a given float.  Of several decimals with that
many digits it is the one nearest to the float's exact value.

**Method.** The reals that round to `m · 2 ^ q` form an interval around it, with its ends included
exactly when `m` is even; below a power of two the gap is half as wide.  In units of `2 ^ (q - 2)`
the value and both ends are whole numbers.  For 1, 2, … 17 digits the two neighbours of the value on
the decimal grid with that many digits are tested against the interval in whole-number arithmetic;
the first grid with a hit wins, and of two hits the nearer, a tie going to the even digit.
Seventeen digits always suffice.

* `Scientific` is `digits · 10 ^ exponent`.
* `shortest p m q` is the decimal of the float `m · 2 ^ q`, read back in the format `p`.
-/

namespace Laminar.Decimal

open Laminar.Binary

/-- The number `digits · 10 ^ exponent`. -/
structure Scientific where
  digits : Nat
  exponent : Int
  deriving DecidableEq, Repr

/-- The same number without zeros at the end of its digits. -/
def stripZeros : Nat → Scientific → Scientific
  | 0, d => d
  | fuel + 1, d =>
    if d.digits ≠ 0 ∧ d.digits % 10 = 0 then stripZeros fuel ⟨d.digits / 10, d.exponent + 1⟩ else d

/-- Number of decimal digits of a whole number. -/
def digitCount (n : Nat) : Nat := (Nat.toDigits 10 n).length

/-- The power of ten of the first digit of `num / den`. -/
def leadingPower (num den : Nat) : Int :=
  if den ≤ num then (digitCount (num / den) : Int) - 1
  else
    let t := digitCount (den / num)
    if den ≤ num * Nat.pow 10 (t - 1) then -((t : Int) - 1) else -(t : Int)

/-- A value and the interval of reals that round to it, as whole numbers over one denominator. -/
structure Rounding where
  value : Nat
  low : Nat
  high : Nat
  den : Nat
  closed : Bool

/-- The rounding interval of the float `m · 2 ^ q` of a format. -/
def roundingOf (p : Precision) (m : Nat) (q : Int) : Rounding :=
  let below := if m = Nat.pow 2 p.fractionBits ∧ q > p.leastExponent then 1 else 2
  let unit := q - 2
  let up := if unit < 0 then 1 else Nat.pow 2 unit.toNat
  let den := if unit < 0 then Nat.pow 2 (-unit).toNat else 1
  ⟨4 * m * up, (4 * m - below) * up, (4 * m + 2) * up, den, m % 2 = 0⟩

/-- Does `d · 10 ^ k` round to the value? -/
def Rounding.holds (r : Rounding) (d : Nat) (k : Int) : Bool :=
  let point := if k < 0 then d * r.den else d * Nat.pow 10 k.toNat * r.den
  let scale := if k < 0 then Nat.pow 10 (-k).toNat else 1
  if r.closed then r.low * scale ≤ point && point ≤ r.high * scale
  else r.low * scale < point && point < r.high * scale

/-- The best decimal on the grid of multiples of `10 ^ k`, if one rounds to the value. -/
def Rounding.onGrid (r : Rounding) (k : Int) : Option Scientific :=
  let num := if k < 0 then r.value * Nat.pow 10 (-k).toNat else r.value
  let den := if k < 0 then r.den else r.den * Nat.pow 10 k.toNat
  let d := num / den
  match r.holds d k && d != 0, r.holds (d + 1) k with
  | true, true =>
    let twice := 2 * (num % den)
    some ⟨if twice < den then d else if den < twice then d + 1 else d + d % 2, k⟩
  | true, false => some ⟨d, k⟩
  | false, true => some ⟨d + 1, k⟩
  | false, false => none

/-- The first grid of at most `count` more digits, from the `used`-digit grid on, with a hit. -/
def Rounding.search (r : Rounding) (power : Int) (used : Nat) : Nat → Option Scientific
  | 0 => none
  | count + 1 =>
    (r.onGrid (power - used)).orElse fun _ => r.search power (used + 1) count

/-- The shortest decimal that a format reads back as the float `m · 2 ^ q`, for `m` not zero. -/
def shortest (p : Precision) (m : Nat) (q : Int) : Scientific :=
  let (m, q) := p.parts m q
  let r := roundingOf p m q
  let power := leadingPower r.value r.den
  stripZeros 20 ((r.search power 0 17).getD ⟨m, q⟩)

example : shortest .double (2 ^ 52) (-52) = ⟨1, 0⟩ := by decide +kernel

example : shortest .double 1 (-1074) = ⟨5, -324⟩ := by decide +kernel

example : shortest .single (13421773 * 2 ^ 29) (-56) = ⟨1, -1⟩ := by decide +kernel

end Laminar.Decimal
