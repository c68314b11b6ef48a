/-!
# Lone surrogates

The surrogates, U+D800 to U+DFFF, are code points but no characters.  A text may hold them all the
same, because an escape can name any code point.

**Representation.** Each surrogate is kept as one of 2048 code points that are assigned to no
character, U+B5800 to U+B5FFF, in order.  Those therefore cannot be told from surrogates; nothing
else is affected.  Whatever writes or orders code points asks `code` for them.

* `ofCode?` is the character kept for a code point, `code` the code point of a character.
-/

namespace Laminar.Text

/-- The first of the characters that stand for surrogates. -/
def surrogateStart : Nat := 0xb5800

/-- How many surrogates there are. -/
def surrogateCount : Nat := 0x800

/-- Is it the code point of a surrogate? -/
def isSurrogateCode (n : Nat) : Bool := 0xd800 ≤ n && n < 0xe000

/-- The character that is kept for a code point. -/
def ofCode? (n : Nat) : Option Char :=
  if isSurrogateCode n then some (Char.ofNat (n - 0xd800 + surrogateStart))
  else if n.isValidChar then some (Char.ofNat n)
  else none

/-- Is it the code point of a character that stands for a surrogate? -/
def isStandIn (n : Nat) : Bool := surrogateStart ≤ n && n < surrogateStart + surrogateCount

/-- Does a character stand for a surrogate? -/
def isSurrogate (c : Char) : Bool := isStandIn c.toNat

/-- The code point of a character. -/
def code (c : Char) : Nat :=
  if isSurrogate c then c.toNat - surrogateStart + 0xd800 else c.toNat

/-- The code points of a text. -/
def codes (s : String) : List Nat := s.toList.map code

/-- The order of two lists of code points: the first that differ decide, and a front part is less.
-/
def compareCodes : List Nat → List Nat → Ordering
  | [], [] => .eq
  | [], _ :: _ => .lt
  | _ :: _, [] => .gt
  | a :: as, b :: bs => (compare a b).then (compareCodes as bs)

end Laminar.Text
