import Laminar.Text.CharacterName.Alias
import Laminar.Text.CharacterName.EastAsian
import Laminar.Text.CharacterName.Letters
import Laminar.Text.CharacterName.Notations
import Laminar.Text.CharacterName.OldScripts
import Laminar.Text.CharacterName.Symbols
import Laminar.Text.CharacterName.Words
import Laminar.Text.Normal
import Laminar.Text.Surrogate

/-!
# Characters by name

Every character has a name, and some have further names.  Small and capital letters of a name are
the same.  Two large families are named by rule, and their names are exact: the unified ideographs
by their code points, the syllables of Hangul by their sounds.

**Tables.** The entries of a table stand between semicolons and line ends, in the order of code
points.  An entry gives the code point, unless it is the one after the entry before; then a digit,
how many words of the name before are kept; then the other words.  Names are in capitals; one or two
small letters abbreviate a frequent word.  A name that ends in a number may stand for several that
count up: `>` and how many, or `#` and how many if the number is the code point itself.

* `NameEntry` is an entry, `findName?` looks a name up in a table.
* `ofName?` is the character that has a name.
-/

namespace Laminar.Text

/-! ### Entries -/

/-- How the names of an entry count up. -/
inductive Counting where
  /-- There is one name. -/
  | single
  /-- By the number at the end of the name. -/
  | decimal
  /-- By the code point at the end of the name. -/
  | code
  deriving DecidableEq, Repr

/-- Names of characters that follow each other. -/
structure NameEntry where
  /-- The code point of the first. -/
  first : Nat
  /-- The words of the first name. -/
  words : List String
  counting : Counting
  count : Nat

/-- A number in capital hexadecimal digits. -/
def capitalHex (n : Nat) : String := String.ofList ((Nat.toDigits 16 n).map Char.toUpper)

/-- The name that is `i` after a name which ends in a number of fixed width. -/
def countedName (name : String) (i : Nat) : String :=
  let digits := (name.toList.reverse.takeWhile Char.isDigit).reverse
  let front := name.toList.take (name.length - digits.length)
  let number := Nat.toDigits 10 (digits.foldl (fun n c => 10 * n + (c.toNat - '0'.toNat)) 0 + i)
  String.ofList (front ++ List.replicate (digits.length - number.length) '0' ++ number)

/-- The names of an entry. -/
def NameEntry.names (e : NameEntry) : List String :=
  let name := " ".intercalate e.words
  match e.counting with
  | .single => [name]
  | .decimal => (List.range e.count).map (countedName name)
  | .code =>
    let front := name.toList.take (name.length - (capitalHex e.first).length)
    (List.range e.count).map fun i => String.ofList front ++ capitalHex (e.first + i)

/-- The words of the last name of an entry. -/
def NameEntry.lastWords (e : NameEntry) : List String :=
  match e.counting with
  | .single => e.words
  | _ => (e.names.getLast?.getD "").splitOn " "

/-- The number that capital hexadecimal digits stand for. -/
def capitalHexNumber (cs : List Char) : Nat := hexNumber (String.ofList (cs.map Char.toLower))

/-- The frequent words, in the order of their abbreviations. -/
def frequentWordList : Array String :=
  ((frequentWords.splitOn "\n").flatMap fun line =>
    (String.ofList (line.toList.dropWhile (· == ' '))).splitOn " ").toArray

/-- A word of a table, written out if it is an abbreviation. -/
def fullWord (word : String) : String :=
  let place (c : Char) : Nat := c.toNat - 'a'.toNat
  match word.toList with
  | [c] => if c.isLower then frequentWordList[place c]?.getD word else word
  | [c, d] =>
    if c.isLower && d.isLower then frequentWordList[26 * (place c + 1) + place d]?.getD word
    else word
  | _ => word

/-- Read an entry, given the code point it has if it names none, and the words of the name before.
-/
def readNameEntry (next : Nat) (before : List String) (text : String) : NameEntry :=
  let (first, body) := match text.splitOn ":" with
    | [code, body] => (capitalHexNumber code.toList, body)
    | _ => (next, text)
  let (body, counting, count) := match body.splitOn ">", body.splitOn "#" with
    | [body, count], _ => (body, Counting.decimal, count.toNat?.getD 1)
    | _, [body, count] => (body, Counting.code, count.toNat?.getD 1)
    | _, _ => (body, Counting.single, 1)
  match body.toList with
  | [] => { first, words := [], counting, count }
  | kept :: rest =>
    { first
      words := before.take (capitalHexNumber [kept]) ++
        ((String.ofList rest).splitOn " ").map fullWord
      counting
      count }

/-- The entries of a table as texts. -/
def nameEntries (table : String) : List String :=
  (table.splitOn "\n").flatMap fun line =>
    (String.ofList (line.toList.dropWhile (· == ' '))).splitOn ";"

/-- Look a name up among entries, given the code point and the words before them. -/
def findAmong? (name : String) : List String → Nat → List String → Option Nat
  | [], _, _ => none
  | text :: rest, next, before =>
    let e := readNameEntry next before text
    match e.names.findIdx? (· == name) with
    | some i => some (e.first + i)
    | none => findAmong? name rest (e.first + e.count) e.lastWords

/-- The code point of a name in a table. -/
def findName? (name : String) (table : String) : Option Nat :=
  findAmong? name (nameEntries table) 0 []

/-- The tables of names. -/
def nameTables : List String :=
  [letterNames, symbolNames, eastAsianNames, oldScriptNames, notationNames, aliasNames]

/-! ### Names by rule -/

/-- The ranges of unified ideographs (Unicode 14). -/
def ideographRanges : List (Nat × Nat) :=
  [(0x3400, 0x4dbf), (0x4e00, 0x9fff), (0x20000, 0x2a6df), (0x2a700, 0x2b738), (0x2b740, 0x2b81d),
    (0x2b820, 0x2cea1), (0x2ceb0, 0x2ebe0), (0x30000, 0x3134a)]

/-- The ideograph whose code point is given by four or five digits. -/
def ideograph? (digits : List Char) : Option Nat :=
  let n := capitalHexNumber digits
  let isDigit (c : Char) : Bool := c.isDigit || ('A' ≤ c && c ≤ 'F')
  if (digits.length = 4 || digits.length = 5) && digits.all isDigit &&
      ideographRanges.any fun (a, b) => a ≤ n && n ≤ b then some n
  else none

/-- The leading consonants of Hangul. -/
def leadNames : List String :=
  ["G", "GG", "N", "D", "DD", "R", "M", "B", "BB", "S", "SS", "", "J", "JJ", "C", "K", "T", "P",
    "H"]

/-- The vowels of Hangul. -/
def vowelNames : List String :=
  ["A", "AE", "YA", "YAE", "EO", "E", "YEO", "YE", "O", "WA", "WAE", "OE", "YO", "U", "WEO", "WE",
    "WI", "YU", "EU", "YI", "I"]

/-- The trailing consonants of Hangul; the first is none. -/
def trailNames : List String :=
  ["", "G", "GG", "GS", "N", "NJ", "NH", "D", "L", "LG", "LM", "LB", "LS", "LT", "LP", "LH", "M",
    "B", "BS", "S", "SS", "NG", "J", "C", "K", "T", "P", "H"]

/-- The longest of some names that a text begins with: its place, and the rest of the text. -/
def longestName? (names : List String) (text : List Char) : Option (Nat × List Char) :=
  let fitting := names.zipIdx.filter fun (n, _) => n.toList.isPrefixOf text
  fitting.foldl
    (fun best (n, i) => match best with
      | some (_, rest) =>
        if text.length < rest.length + n.length then some (i, text.drop n.length) else best
      | none => some (i, text.drop n.length))
    none

/-- The syllable of Hangul with the given sounds. -/
def syllableOfSounds? (sounds : List Char) : Option Nat := do
  let (lead, rest) ← longestName? leadNames sounds
  let (vowel, rest) ← longestName? vowelNames rest
  let (trail, rest) ← longestName? trailNames rest
  if rest.isEmpty then some (syllableStart + (lead * 21 + vowel) * 28 + trail) else none

/-! ### Look-up -/

/-- What follows a front part of a text. -/
def after? (front : String) (text : List Char) : Option (List Char) :=
  if front.toList.isPrefixOf text then some (text.drop front.length) else none

/-- The code point of a name. -/
def codeOfName? (name : String) : Option Nat :=
  match after? "HANGUL SYLLABLE " name.toList, after? "CJK UNIFIED IDEOGRAPH-" name.toList with
  | some sounds, _ => syllableOfSounds? sounds
  | _, some digits => ideograph? digits
  | none, none => nameTables.findSome? (findName? name.toUpper)

/-- The character that has a name. -/
def ofName? (name : String) : Option Char := (codeOfName? name).bind fun n => ofCode? n

end Laminar.Text
