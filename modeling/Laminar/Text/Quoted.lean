import Laminar.Text.Printable
import Laminar.Text.Surrogate

/-!
# Quoted text

The written form of a text value: the characters between two quotes, with escapes for what cannot
stand there as itself.

**Choice of quote.** A text is written between apostrophes, unless it holds an apostrophe and no
double quote; then it is written between double quotes.  So at most one kind of quote is ever
escaped.

**Escapes.** The backslash and the chosen quote take a backslash; line feed, carriage return and tab
have letters; any other character that is not printable is written by its code point in two, four or
eight hexadecimal digits, the shortest that fits.

* `quoteFor` chooses the quote, `escape` writes one character, `quote` writes the whole text.
* `quoteBytes` writes bytes in the same way, with a mark in front.
-/

namespace Laminar.Text

/-- The lower-case hexadecimal digits of `n`, filled with zeros on the left up to `width`. -/
def hexPadded (width n : Nat) : List Char :=
  let digits := Nat.toDigits 16 n
  List.replicate (width - digits.length) '0' ++ digits

/-- The quote around a text: a double quote only where it saves escaping an apostrophe. -/
def quoteFor (s : List Char) : Char :=
  if s.contains '\'' && !s.contains '"' then '"' else '\''

/-- One character of a text between the quotes `q`. -/
def escape (q c : Char) : List Char :=
  if c = '\\' then ['\\', '\\']
  else if c = q then ['\\', q]
  else if c = '\n' then ['\\', 'n']
  else if c = '\r' then ['\\', 'r']
  else if c = '\t' then ['\\', 't']
  else if isPrintable c then [c]
  else if code c < 0x100 then '\\' :: 'x' :: hexPadded 2 (code c)
  else if code c < 0x10000 then '\\' :: 'u' :: hexPadded 4 (code c)
  else '\\' :: 'U' :: hexPadded 8 (code c)

/-- The written form of a text, as characters. -/
def quoteChars (s : List Char) : List Char :=
  let q := quoteFor s
  q :: s.flatMap (escape q) ++ [q]

/-- The written form of a text. -/
def quote (s : String) : String := String.ofList (quoteChars s.toList)

/-! ### Byte texts -/

/-- One byte between the quotes `q`; bytes beyond ASCII have no character of their own. -/
def escapeByte (q : Char) (b : UInt8) : List Char :=
  let c := Char.ofNat b.toNat
  if 0x7f ≤ b.toNat then '\\' :: 'x' :: hexPadded 2 b.toNat else escape q c

/-- The written form of a byte text. -/
def quoteBytes (bytes : List UInt8) : String :=
  let q := quoteFor (bytes.map fun b => Char.ofNat b.toNat)
  String.ofList ('b' :: q :: bytes.flatMap (escapeByte q) ++ [q])

/-! ### Facts -/

/-- The quote is one of the two. -/
theorem quoteFor_eq (s : List Char) : quoteFor s = '"' ∨ quoteFor s = '\'' := by
  unfold quoteFor
  split <;> simp

end Laminar.Text
