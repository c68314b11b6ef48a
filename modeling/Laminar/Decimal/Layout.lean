import Laminar.Decimal.Shortest

/-!
# Layout of decimals

How the digits of a number are laid out as text: where positional writing ends, how an exponent is
written, what stands for the numbers that have no digits.  The decisions are one record, `Layout`;
`Layout.write` applies them to a float.

* `Layout.standard` is the layout of number values in this library.
-/

namespace Laminar.Decimal

open Laminar.Binary

/-- The decisions of a decimal format. -/
structure Layout where
  /-- Least power of ten of the first digit that is written positionally. -/
  least : Int
  /-- Greatest power of ten of the first digit that is written positionally. -/
  most : Int
  /-- What ends a whole number written positionally. -/
  wholeEnd : String
  /-- Least number of exponent digits. -/
  exponentWidth : Nat
  /-- The texts without digits. -/
  nan : String
  infinite : String

/-- Numbers are positional from `0.0001` up to below `10 ^ 16`, a whole number shows `.0`, and an
exponent has a sign and at least two digits. -/
def Layout.standard : Layout :=
  { least := -4, most := 15, wholeEnd := ".0", exponentWidth := 2, nan := "nan", infinite := "inf" }

/-- The digits of an exponent, with its sign. -/
def Layout.exponentText (l : Layout) (e : Int) : String :=
  let digits := Nat.toDigits 10 e.natAbs
  let zeros := List.replicate (l.exponentWidth - digits.length) '0'
  String.ofList ((if e < 0 then '-' else '+') :: (zeros ++ digits))

/-- A positive decimal as text. -/
def Layout.digitsText (l : Layout) (d : Scientific) : String :=
  let ds := Nat.toDigits 10 d.digits
  let power := d.exponent + ds.length - 1
  if power < l.least ∨ l.most < power then
    let tail := if ds.length ≤ 1 then [] else '.' :: ds.tail
    String.ofList (ds.take 1 ++ tail) ++ "e" ++ l.exponentText power
  else if power < 0 then
    "0." ++ String.ofList (List.replicate (-power - 1).toNat '0' ++ ds)
  else
    let before := power.toNat + 1
    if ds.length ≤ before then
      String.ofList (ds ++ List.replicate (before - ds.length) '0') ++ l.wholeEnd
    else String.ofList (ds.take before ++ '.' :: ds.drop before)

/-- A float of a format as text. -/
def Layout.write (l : Layout) (p : Precision) (x : Float) : String :=
  match decode x with
  | .nan => l.nan
  | .infinite negative => (if negative then "-" else "") ++ l.infinite
  | .finite d =>
    (if d.negative then "-" else "") ++
      if d.mantissa = 0 then "0" ++ l.wholeEnd
      else l.digitsText (shortest p d.mantissa d.exponent)

end Laminar.Decimal
