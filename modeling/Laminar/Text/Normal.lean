import Laminar.Text.Decomposition
import Std.Data.HashMap

/-!
# The normal form of names

A name may be written in several ways: a letter with its accent as one character or as two, a
ligature for its letters, a letter of a decorative alphabet for the plain one.  All of them are the
same name.  The normal form is the compatibility composition of Unicode.

**Method.** Every character is replaced by those it stands for; marks that combine with the same
letter are sorted by their class; then a letter and a mark are written as one character wherever
that is possible.  Syllables of Hangul are taken apart and put together by arithmetic.

* `normalize` is the normal form of a name.
-/

namespace Laminar.Text

/-! ### Tables -/

/-- The number that hexadecimal digits stand for. -/
def hexNumber (s : String) : Nat :=
  s.toList.foldl (fun n c =>
    16 * n + if c.isDigit then c.toNat - '0'.toNat else c.toNat - 'a'.toNat + 10) 0

/-- The entries of a table. -/
def tableEntries (text : String) : List String :=
  ((text.splitOn "\n").flatMap (·.splitOn " ")).filter (· != "")

/-- The two sides of an entry of a table. -/
def entrySides (entry : String) : String × String :=
  match entry.splitOn "=" with
  | [left, right] => (left, right)
  | _ => ("0", "0")

/-- The characters of one side of an entry. -/
def sideNumbers (side : String) : List Nat := (side.splitOn "+").map hexNumber

/-- First and last of a range; a single number is a range of its own. -/
def rangeEnds (side : String) : Nat × Nat :=
  match side.splitOn "-" with
  | [first, last] => (hexNumber first, hexNumber last)
  | _ => (hexNumber side, hexNumber side)

/-- What characters stand for. -/
def decompositions : Std.HashMap Nat (List Nat) :=
  (tableEntries decompositionText).foldl
    (fun table entry =>
      let (left, right) := entrySides entry
      let (first, last) := rangeEnds left
      if first = last then table.insert first (sideNumbers right)
      else
        let target := hexNumber right
        (List.range (last + 1 - first)).foldl
          (fun table i => table.insert (first + i) [target + i]) table)
    ∅

/-- The classes of combining marks. -/
def combiningClasses : Std.HashMap Nat Nat :=
  (tableEntries classText).foldl
    (fun table entry =>
      let (left, right) := entrySides entry
      let (first, last) := rangeEnds left
      (List.range (last + 1 - first)).foldl
        (fun table i => table.insert (first + i) (hexNumber right)) table)
    ∅

/-- The pairs written as one character. -/
def compositions : Std.HashMap (Nat × Nat) Nat :=
  (tableEntries compositionText).foldl
    (fun table entry =>
      let (left, right) := entrySides entry
      match sideNumbers left with
      | [first, second] => table.insert (first, second) (hexNumber right)
      | _ => table)
    ∅

/-! ### Hangul -/

/-- The first syllable of Hangul. -/
def syllableStart : Nat := 0xac00

/-- The first leading consonant, the first vowel, and what comes before the first trailing one. -/
def leadStart : Nat := 0x1100

@[inherit_doc leadStart]
def vowelStart : Nat := 0x1161

@[inherit_doc leadStart]
def trailStart : Nat := 0x11a7

/-- The parts of a syllable. -/
def syllableParts (n : Nat) : List Nat :=
  let i := n - syllableStart
  let front := [leadStart + i / 588, vowelStart + i % 588 / 28]
  if i % 28 = 0 then front else front ++ [trailStart + i % 28]

/-- The syllable of two parts, of which the first may be a syllable without a trailing consonant. -/
def syllable? (a b : Nat) : Option Nat :=
  if leadStart ≤ a ∧ a < leadStart + 19 ∧ vowelStart ≤ b ∧ b < vowelStart + 21 then
    some (syllableStart + ((a - leadStart) * 21 + (b - vowelStart)) * 28)
  else if syllableStart ≤ a ∧ a < syllableStart + 11172 ∧ (a - syllableStart) % 28 = 0 ∧
      trailStart < b ∧ b < trailStart + 28 then
    some (a + (b - trailStart))
  else none

/-! ### Normal form -/

/-- The characters that one stands for. -/
def decompose (n : Nat) : List Nat :=
  if syllableStart ≤ n ∧ n < syllableStart + 11172 then syllableParts n
  else decompositions.getD n [n]

/-- The class of a character; zero if it does not combine. -/
def combiningClass (n : Nat) : Nat := combiningClasses.getD n 0

/-- The character that two are written as. -/
def compose? (a b : Nat) : Option Nat := (compositions.get? (a, b)).or (syllable? a b)

/-- Put a character before the marks of a higher class at the start of a list. -/
def insertMark (n : Nat) : List Nat → List Nat
  | [] => [n]
  | m :: rest =>
    if combiningClass m ≠ 0 ∧ combiningClass m < combiningClass n then m :: insertMark n rest
    else n :: m :: rest

/-- Characters with the marks behind each letter sorted by class; equal classes keep their order. -/
def sortMarks : List Nat → List Nat
  | [] => []
  | n :: rest =>
    if combiningClass n = 0 then n :: sortMarks rest else insertMark n (sortMarks rest)

/-- Write letters and marks as one where possible.  `letter` is the last letter, `marks` are those
that stay behind it, in reverse, and `before` is the class of the last of them. -/
def composeMarks (letter : Nat) (marks : List Nat) (before : Nat) : List Nat → List Nat
  | [] => letter :: marks.reverse
  | n :: rest =>
    let cls := combiningClass n
    let blocked := !marks.isEmpty && cls ≤ before
    match if blocked then none else compose? letter n with
    | some joined => composeMarks joined marks before rest
    | none =>
      if cls = 0 then letter :: marks.reverse ++ composeMarks n [] 0 rest
      else composeMarks letter (n :: marks) cls rest

/-- The normal form of characters. -/
def normalizeCodes (ns : List Nat) : List Nat :=
  match sortMarks (ns.flatMap decompose) with
  | [] => []
  | n :: rest => composeMarks n [] 0 rest

/-- The normal form of a name.  A name in ASCII is its own. -/
def normalize (s : String) : String :=
  if s.toList.all (·.toNat < 0x80) then s
  else String.ofList ((normalizeCodes (s.toList.map Char.toNat)).map Char.ofNat)

end Laminar.Text
