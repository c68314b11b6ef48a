import Laminar.Decimal.Shortest

/-!
# Decimals of a given precision

A float rounded to a number of decimal places, or of significant digits.  The rounding is exact: the
value of the float is a fraction, and a tie goes to the even digit.

**Styles.** Fixed writing shows a number of places.  Writing with an exponent shows one digit, then
a number of places, then the exponent with its sign and at least two digits.  General writing takes
a number of significant digits and chooses: positional for powers of ten from `-4` up to the number
of digits, else with an exponent; zeros at the end are left out.

* `Style` is the style, `writeRounded` the text.
-/

namespace Laminar.Decimal

open Laminar.Binary

/-- How a rounded float is written. -/
inductive Style where
  | fixed | exponent | general
  deriving DecidableEq, Repr

/-- The size of a finite float as a fraction. -/
def fraction (d : Binary.Dyadic) : Nat × Nat :=
  if d.exponent < 0 then (d.mantissa, Nat.pow 2 (-d.exponent).toNat)
  else (d.mantissa * Nat.pow 2 d.exponent.toNat, 1)

/-- A fraction times a power of ten, rounded to a whole number. -/
def scaledToEven (num den : Nat) (power : Int) : Nat :=
  if power < 0 then divToEven num (den * Nat.pow 10 (-power).toNat)
  else divToEven (num * Nat.pow 10 power.toNat) den

/-- Digits with a point before the last `places` of them.  The point stands alone only if it is
`kept`. -/
def pointed (kept : Bool) (places : Nat) (n : Nat) : String :=
  let ds := Nat.toDigits 10 n
  let ds := List.replicate (places + 1 - ds.length) '0' ++ ds
  let whole := ds.take (ds.length - places)
  let rest := ds.drop (ds.length - places)
  String.ofList (if rest.isEmpty && !kept then whole else whole ++ '.' :: rest)

/-- The exponent of a number in scientific writing, as text. -/
def exponentMark (e : Int) : String :=
  let ds := Nat.toDigits 10 e.natAbs
  "e" ++ String.ofList ((if e < 0 then '-' else '+') :: (List.replicate (2 - ds.length) '0' ++ ds))

/-- A fraction rounded to one digit and `places` more: the digits, and the power of ten of the
first. -/
def significant (num den places : Nat) : Nat × Int :=
  if num = 0 then (0, 0)
  else
    let power := leadingPower num den
    let n := scaledToEven num den (places - power)
    if n = Nat.pow 10 (places + 1) then (Nat.pow 10 places, power + 1) else (n, power)

/-- A text without zeros at the end of its places, and without a point that is left over. -/
def withoutEndZeros (s : String) : String :=
  if s.toList.contains '.' then
    let kept := (s.toList.reverse.dropWhile (· == '0')).reverse
    String.ofList (if kept.getLast? = some '.' then kept.dropLast else kept)
  else s

/-- A fraction in a style.  If `kept`, a point and zeros at the end stay. -/
def writeFraction (style : Style) (precision : Nat) (kept : Bool) (num den : Nat) : String :=
  match style with
  | .fixed => pointed kept precision (scaledToEven num den precision)
  | .exponent =>
    let (n, power) := significant num den precision
    pointed kept precision n ++ exponentMark power
  | .general =>
    let count := max precision 1
    let (n, power) := significant num den (count - 1)
    let trim (s : String) : String := if kept then s else withoutEndZeros s
    if -4 ≤ power ∧ power < count then
      let places := (count - 1 - power).toNat
      trim (pointed kept places (scaledToEven num den places))
    else trim (pointed kept (count - 1) n) ++ exponentMark power

/-- A float in a style. -/
def writeRounded (style : Style) (precision : Nat) (kept : Bool) (x : Float) : String :=
  match decode x with
  | .nan => "nan"
  | .infinite negative => if negative then "-inf" else "inf"
  | .finite d =>
    let (num, den) := fraction d
    (if d.negative then "-" else "") ++ writeFraction style precision kept num den

example : writeFraction .fixed 0 false 5 2 = "2" := by decide +kernel

example : writeFraction .general 6 false 1 3 = "0.333333" := by decide +kernel

end Laminar.Decimal
