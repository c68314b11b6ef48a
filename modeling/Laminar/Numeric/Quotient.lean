import Laminar.Numeric.Binary

/-!
# Floor division of floats

The quotient of two floats rounded down, and the remainder with the sign of the divisor.  The
remainder of the magnitudes is exact; the quotient is computed from it and moved to the nearest
whole number.

* `floatModulo` and `floatFloorDiv` are total; a divisor of zero is the caller's business.
-/

namespace Laminar.Binary

/-- Not a number. -/
def nan : Float := Float.ofBits 0x7ff8000000000000

/-- Zero with a sign. -/
def zero (negative : Bool) : Float := Float.ofBits (if negative then 0x8000000000000000 else 0)

/-- The sign bit of a float. -/
def isNegative (x : Float) : Bool := x.toBits.toNat ≥ Nat.pow 2 63

/-- The remainder of the division of magnitudes, with the sign of the dividend. -/
def truncatedRemainder (x y : Float) : Float :=
  match decode x, decode y with
  | .finite a, .finite b =>
    if b.mantissa = 0 then nan else (ofDyadic (a.remainder b)).getD nan
  | .finite _, .infinite _ => x
  | _, _ => nan

/-- The greatest whole float below or at a float. -/
def floor (x : Float) : Float :=
  match decode x with
  | .finite d => if d.isWhole then x else (ofInt d.floor).getD x
  | _ => x

/-- The remainder with the sign of the divisor. -/
def floatModulo (x y : Float) : Float :=
  let r := truncatedRemainder x y
  if r == 0.0 then zero (isNegative y)
  else if (y < 0.0) != (r < 0.0) then r + y
  else r

/-- The quotient rounded down. -/
def floatFloorDiv (x y : Float) : Float :=
  let r := truncatedRemainder x y
  let whole := (x - r) / y
  let q := if !(r == 0.0) && (y < 0.0) != (r < 0.0) then whole - 1.0 else whole
  if q == 0.0 then zero (isNegative (x / y))
  else
    let below := floor q
    if q - below > 0.5 then below + 1.0 else below

end Laminar.Binary
