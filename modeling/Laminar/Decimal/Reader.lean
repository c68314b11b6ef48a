import Laminar.Numeric.Binary
import Laminar.Text.Blank
import Laminar.Text.Digit

/-!
# Reading numbers

Number text as it stands in layer source and as it is converted by `int` and `float`.

**Digits.** A digit group is digits with single underscores between them.  A float has digits before
or after its point, or both, and may have an exponent.  Conversion from text also takes blanks
around the number, a sign, digits of any script, and the words for infinity and not-a-number in any
case.

* `readInt?`, `readFloat?` convert a whole text; whole numbers may be in any base up to 36.
* `readNumber?` reads an unsigned number as written in source, in base 2, 8, 10 or 16.
-/

namespace Laminar.Decimal

open Laminar.Binary

/-- The value of a digit in bases up to 36. -/
def digitValue? (c : Char) : Option Nat :=
  if '0' ≤ c ∧ c ≤ '9' then some (c.toNat - '0'.toNat)
  else if 'a' ≤ c ∧ c ≤ 'z' then some (c.toNat - 'a'.toNat + 10)
  else if 'A' ≤ c ∧ c ≤ 'Z' then some (c.toNat - 'A'.toNat + 10)
  else none

/-- The digits of one base at the start of a text, with underscores only between digits, in front of
which the digits `before` were read, the last one first.  `after` says whether a digit or the mark
of the base stands just before. -/
def digitGroupFrom (base : Nat) (before : List Nat) (after : Bool) :
    List Char → List Nat × List Char
  | [] => (before.reverse, [])
  | '_' :: c :: rest =>
    match after, digitValue? c with
    | true, some d =>
      if d < base then digitGroupFrom base (d :: before) true rest
      else (before.reverse, '_' :: c :: rest)
    | _, _ => (before.reverse, '_' :: c :: rest)
  | c :: rest =>
    match digitValue? c with
    | some d =>
      if d < base then digitGroupFrom base (d :: before) true rest else (before.reverse, c :: rest)
    | none => (before.reverse, c :: rest)

/-- The digits of one base at the start of a text, with underscores only between digits.
`after` says whether a digit or the mark of the base stands just before. -/
def digitGroup (base : Nat) (after : Bool) (cs : List Char) : List Nat × List Char :=
  digitGroupFrom base [] after cs

/-- Digits in the square of a base, from digits in the base; the last digit comes first. -/
def pairDigits (base : Nat) : List Nat → List Nat
  | low :: high :: rest => (low + high * base) :: pairDigits base rest
  | ds => ds

/-- The number written by digits of which the last comes first.  Digits are joined in pairs again
and again, so that long numbers are multiplied with each other and not digit by digit; the fuel
bounds how often. -/
def ofPlaces (base : Nat) : (fuel : Nat) → List Nat → Nat
  | _, [] => 0
  | _, [d] => d
  | 0, d :: _ => d
  | fuel + 1, ds => ofPlaces (base * base) fuel (pairDigits base ds)

/-- The number written by some digits. -/
def ofDigits (base : Nat) (ds : List Nat) : Nat := ofPlaces base ds.length ds.reverse

/-- A decimal float in parts: its digits, how many of them stand after the point, its exponent. -/
structure Parts where
  digits : List Nat
  places : Nat
  exponent : Int
  /-- Did the text hold a point or an exponent? -/
  fractional : Bool

/-- Digits of a base, after which no underscore may stand. -/
def closedGroup? (base : Nat) (after : Bool) (cs : List Char) : Option (List Nat × List Char) :=
  let (ds, rest) := digitGroup base after cs
  if rest.head? = some '_' then none else some (ds, rest)

/-- The fraction of a number, if a point follows. -/
def readFraction? (cs : List Char) : Option (Option (List Nat) × List Char) :=
  match cs with
  | '.' :: rest => do
    let (ds, rest) ← closedGroup? 10 false rest
    some (some ds, rest)
  | cs => some (none, cs)

/-- The exponent of a number, if one follows.  A mark without digits is none, with a sign it is
wrong. -/
def readExponent? (cs : List Char) : Option (Option Int × List Char) :=
  match cs with
  | e :: rest =>
    if e = 'e' ∨ e = 'E' then
      match rest with
      | '+' :: r => do
        let (ds, rest) ← closedGroup? 10 false r
        if ds.isEmpty then none else some (some (ofDigits 10 ds : Int), rest)
      | '-' :: r => do
        let (ds, rest) ← closedGroup? 10 false r
        if ds.isEmpty then none else some (some (-(ofDigits 10 ds : Int)), rest)
      | r => do
        let (ds, rest) ← closedGroup? 10 false r
        if ds.isEmpty then some (none, cs) else some (some (ofDigits 10 ds : Int), rest)
    else some (none, cs)
  | [] => some (none, [])

/-- Read an unsigned decimal number with or without point and exponent. -/
def readParts? (cs : List Char) : Option (Parts × List Char) := do
  let (whole, rest) ← closedGroup? 10 false cs
  let (fraction, rest) ← readFraction? rest
  let places := fraction.getD []
  if whole.isEmpty && places.isEmpty then none
  let (exponent, rest) ← readExponent? rest
  some (⟨whole ++ places, places.length, exponent.getD 0, fraction.isSome || exponent.isSome⟩, rest)

/-- So many digits, with the knowledge whether any digit behind them is not zero, tell which float
is nearest: a number halfway between two floats has fewer. -/
def decisiveDigits : Nat := 800

/-- A number with the same nearest float and not many digits: leading zeros are left out, and one
digit stands for all that do not decide. -/
def Parts.shortened (p : Parts) : Parts :=
  let digits := p.digits.dropWhile (· == 0)
  match digits.drop decisiveDigits with
  | [] => { p with digits }
  | rest =>
    let last := if rest.all (· == 0) then 0 else 1
    { p with
      digits := digits.take decisiveDigits ++ [last]
      exponent := p.exponent + (rest.length - 1 : Nat) }

/-- The float nearest to a decimal number; one out of range is infinite or zero. -/
def Parts.toFloat (negative : Bool) (p : Parts) : Float :=
  let p := p.shortened
  let m := ofDigits 10 p.digits
  let e := p.exponent - p.places
  let infinity := Float.ofBits (if negative then 0xfff0000000000000 else 0x7ff0000000000000)
  let zero := Float.ofBits (if negative then 0x8000000000000000 else 0)
  -- the power of ten of the first digit decides the extreme cases without large powers
  let power := e + p.digits.length
  if m = 0 then zero
  else if power < -400 then zero
  else if 400 < e then infinity
  else if e < 0 then (ofRatio negative m (Nat.pow 10 (-e).toNat)).getD infinity
  else (ofRatio negative (m * Nat.pow 10 e.toNat) 1).getD infinity

/-- An unsigned number as written in source. -/
inductive Number where
  | int (n : Nat)
  | float (x : Float)
  | imaginary (x : Float)
  deriving DecidableEq, Repr

/-- The base that a mark after a leading zero stands for. -/
def baseOfMark? (c : Char) : Option Nat :=
  match c with
  | 'x' | 'X' => some 16
  | 'o' | 'O' => some 8
  | 'b' | 'B' => some 2
  | _ => none

/-- Reading or writing a whole number in base ten takes time that grows faster than its length, so
there is a limit to the number of digits. -/
def maxDigits : Nat := 4300

/-- The least whole number with too many digits. -/
def digitBound : Nat := Nat.pow 10 maxDigits

/-- May a character go on a word? Outside ASCII every character may. -/
def isWordPart (c : Char) : Bool := c.isAlphanum || c == '_' || 0x80 ≤ c.toNat

/-- The words that may follow a number directly. -/
def wordsAfterNumber : List String := ["and", "else", "for", "if", "in", "is", "or", "not"]

/-- May a number end before these characters? -/
def endsNumber (rest : List Char) : Bool :=
  !(rest.head?.map isWordPart).getD false ||
    wordsAfterNumber.any fun word => word.toList.isPrefixOf rest

/-- A whole number in base 2, 8 or 16, after its mark. -/
def readBased? (base : Nat) (cs : List Char) : Option (Number × List Char) := do
  let (ds, rest) ← closedGroup? base true cs
  if ds.isEmpty then none else some (.int (ofDigits base ds), rest)

/-- A number in base ten.  A whole number has no leading zero unless it is zero. -/
def readDecimal? (cs : List Char) : Option (Number × List Char) := do
  let (p, rest) ← readParts? cs
  match rest with
  | 'j' :: rest | 'J' :: rest => some (.imaginary (p.toFloat false), rest)
  | rest =>
    if p.fractional then some (.float (p.toFloat false), rest)
    else
      let n := ofDigits 10 p.digits
      if maxDigits < p.digits.length || (p.digits.head? == some 0 && n != 0) then none
      else some (.int n, rest)

/-- Read a number of source: the number and the characters after it. -/
def readNumber? (cs : List Char) : Option (Number × List Char) := do
  let (n, rest) ← match cs with
    | '0' :: c :: rest => match baseOfMark? c with
      | some base => readBased? base rest
      | none => readDecimal? cs
    | cs => readDecimal? cs
  if endsNumber rest then some (n, rest) else none

/-- The sign at the start of a text. -/
def readSign : List Char → Bool × List Char
  | '-' :: cs => (true, cs)
  | '+' :: cs => (false, cs)
  | cs => (false, cs)

/-- A text that is to be converted to a number, ready to be read. -/
def conversionText (s : String) : List Char := Text.trimChars (Text.plainDigits s.toList)

/-- The digits of a whole number in a base.  The mark of the base may stand before them.  Base zero
stands for the base of the mark, or ten without leading zeros. -/
def readUnsigned? (base : Nat) (body : List Char) : Option Nat :=
  let plain (base : Nat) (marked : Bool) (cs : List Char) : Option Nat :=
    match digitGroup base marked cs with
    | ([], _) => none
    | (ds, []) => some (ofDigits base ds)
    | _ => none
  match base, body with
  | base, '0' :: c :: rest =>
    match baseOfMark? c with
    | some b =>
      if base = 0 ∨ base = b then plain b true rest else plain base false body
    | none =>
      if base = 0 then (plain 10 false body).filter (· = 0) else plain base false body
  | 0, body => plain 10 false body
  | base, body => plain base false body

/-- Convert a text to a whole number in a base. -/
def readInt? (base : Nat) (s : String) : Option Int :=
  let (negative, body) := readSign (conversionText s)
  (readUnsigned? base body).map fun n => if negative then -(n : Int) else n

/-- The number of digits in a text that is to be converted to a whole number, if there are too many.
A base that is a power of two has no limit. -/
def excessDigits? (base : Nat) (s : String) : Option Nat :=
  let (_, body) := readSign (conversionText s)
  let marked : Option Nat := match body with
    | '0' :: c :: _ => baseOfMark? c
    | _ => none
  let base := if base = 0 then marked.getD 10 else base
  let count := (digitGroup base false body).1.length
  if base != Nat.pow 2 base.log2 && maxDigits < count then some count else none

/-- Convert a text to a float. -/
def readFloat? (s : String) : Option Float :=
  let (negative, body) := readSign (conversionText s)
  let word := String.ofList (body.map Char.toLower)
  if word = "inf" ∨ word = "infinity" then
    some (Float.ofBits (if negative then 0xfff0000000000000 else 0x7ff0000000000000))
  else if word = "nan" then some (Float.ofBits 0x7ff8000000000000)
  else
    match readParts? body with
    | some (p, []) => some (p.toFloat negative)
    | _ => none

end Laminar.Decimal
