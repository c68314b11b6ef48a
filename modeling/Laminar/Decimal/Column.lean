import Laminar.Decimal.Places

/-!
# Columns of decimals

Floats written below each other: all with their points in one column, and either all positional or
all with an exponent.  Each float has the fewest digits that read back, but at most eight places.

**Notation.** Exponents are used if a float is as large as `10 ^ 8`, or smaller than `0.0001`, or if
the largest is more than a thousand times the smallest, zeros aside.

* `column` are the texts of some floats, all of one width.
-/

namespace Laminar.Decimal

open Laminar.Binary

/-- The most places that a float in a column has. -/
def columnPlaces : Nat := 8

/-- A number without zeros at the end of its places: the digits and the number of places. -/
def dropZeroPlaces : (places : Nat) → Nat → Nat × Nat
  | 0, n => (n, 0)
  | places + 1, n => if n % 10 = 0 then dropZeroPlaces places (n / 10) else (n, places + 1)

/-- A number before it is laid out in its column. -/
structure ColumnEntry where
  /-- The digits before the point, with the sign. -/
  whole : String
  /-- The digits after the point. -/
  places : String
  exponent : Int

/-- The digits of a number with a number of places, cut at the point. -/
def ColumnEntry.ofDigits (sign : String) (n places : Nat) (exponent : Int) : ColumnEntry :=
  let (n, places) := dropZeroPlaces places n
  let ds := Nat.toDigits 10 n
  let ds := List.replicate (places + 1 - ds.length) '0' ++ ds
  { whole := sign ++ String.ofList (ds.take (ds.length - places))
    places := String.ofList (ds.drop (ds.length - places))
    exponent }

/-- A finite float in positional writing. -/
def positionalEntry (p : Precision) (sign : String) (d : Binary.Dyadic) : ColumnEntry :=
  let short := if d.mantissa = 0 then ⟨0, 0⟩ else shortest p d.mantissa d.exponent
  if short.exponent < -(columnPlaces : Int) then
    let (num, den) := fraction d
    .ofDigits sign (scaledToEven num den columnPlaces) columnPlaces 0
  else .ofDigits sign (short.digits * Nat.pow 10 short.exponent.toNat) (-short.exponent).toNat 0

/-- A finite float with an exponent. -/
def exponentEntry (p : Precision) (sign : String) (d : Binary.Dyadic) : ColumnEntry :=
  let short := if d.mantissa = 0 then ⟨0, 0⟩ else shortest p d.mantissa d.exponent
  let places := digitCount short.digits - 1
  if columnPlaces < places then
    let (num, den) := fraction d
    let (n, power) := significant num den columnPlaces
    .ofDigits sign n columnPlaces power
  else .ofDigits sign short.digits places (short.exponent + places)

/-- The largest of some lengths. -/
def longest (lengths : List Nat) : Nat := lengths.foldl max 0

/-- Blanks before a text up to a width. -/
def padStart (width : Nat) (s : String) : String :=
  String.ofList (List.replicate (width - s.length) ' ') ++ s

/-- A filler behind a text up to a width. -/
def padEnd (width : Nat) (filler : Char) (s : String) : String :=
  s ++ String.ofList (List.replicate (width - s.length) filler)

/-- Are the floats of a column written with exponents? -/
def needsExponents (xs : List Float) : Bool :=
  match (xs.filter fun x => x.isFinite && !(x == 0.0)).map Float.abs with
  | [] => false
  | x :: rest =>
    let most := rest.foldl (fun a b => if a < b then b else a) x
    let least := rest.foldl (fun a b => if b < a then b else a) x
    1e8 ≤ most || least < 0.0001 || 1000.0 < most / least

/-- The widths of a column before and after the point, and of its exponents. -/
structure ColumnWidths where
  whole : Nat
  places : Nat
  exponent : Nat

/-- The number of digits of an exponent: at least two. -/
def exponentDigits (e : Int) : Nat := max 2 (digitCount e.natAbs)

/-- A number in its column. -/
def ColumnEntry.write (exponents : Bool) (w : ColumnWidths) (e : ColumnEntry) : String :=
  let whole := padStart w.whole e.whole
  if exponents then
    let ds := String.ofList (Nat.toDigits 10 e.exponent.natAbs)
    let zeros := String.ofList (List.replicate (w.exponent - ds.length) '0')
    whole ++ "." ++ padEnd w.places '0' e.places ++ "e" ++
      (if e.exponent < 0 then "-" else "+") ++ zeros ++ ds
  else whole ++ "." ++ padEnd w.places ' ' e.places

/-- Some floats of a format as a column.  If `signed`, numbers that are not negative have a sign
too.
-/
def column (p : Precision) (signed : Bool) (xs : List Float) : List String :=
  let exponents := needsExponents xs
  let plus := if signed then "+" else ""
  let entry (x : Float) : Option ColumnEntry := match decode x with
    | .finite d =>
      let sign := if d.negative then "-" else plus
      some (if exponents then exponentEntry p sign d else positionalEntry p sign d)
    | _ => none
  let word (x : Float) : String := match decode x with
    | .infinite negative => (if negative then "-" else plus) ++ "inf"
    | _ => plus ++ "nan"
  let entries := xs.filterMap entry
  let w : ColumnWidths :=
    { whole := longest (entries.map (·.whole.length))
      places := longest (entries.map (·.places.length))
      exponent := longest (entries.map fun e => exponentDigits e.exponent) }
  let behind := if exponents then w.exponent + 2 + w.places else w.places
  let signs := if signed || xs.any (fun x => x.isInf && x < 0.0) then 1 else 0
  let whole :=
    if entries.length = xs.length then w.whole else max w.whole (3 + signs - (behind + 1))
  xs.map fun x => match entry x with
    | some e => e.write exponents { w with whole }
    | none => padStart (whole + behind + 1) (word x)

end Laminar.Decimal
