/-!
# Blanks

The characters that count as blank around a number or a parameter name, and trimming by them.
The set is Unicode white space together with the four ASCII information separators.

* `isBlank` decides one character.
* `trim` removes blanks at both ends of a text, `trimStart` at its start.
* `lastLine` is the last line of a text that is not blank.
-/

namespace Laminar.Text

/-- The blank characters: ASCII white space, the information separators U+001C to U+001F, the next
line control, and the space separators of Unicode. -/
def isBlank (c : Char) : Bool :=
  let n := c.toNat
  (0x09 ≤ n && n ≤ 0x0d) || (0x1c ≤ n && n ≤ 0x20) || n == 0x85 || n == 0xa0 || n == 0x1680 ||
    (0x2000 ≤ n && n ≤ 0x200a) || n == 0x2028 || n == 0x2029 || n == 0x202f || n == 0x205f ||
    n == 0x3000

/-- Characters without the blanks at their start. -/
def trimStart (s : List Char) : List Char := s.dropWhile isBlank

/-- Characters without the blanks at either end. -/
def trimChars (s : List Char) : List Char :=
  ((trimStart s).reverse.dropWhile isBlank).reverse

/-- A text without the blanks at either end. -/
def trim (s : String) : String := String.ofList (trimChars s.toList)

/-- The last line of a text, blanks at both ends of the text left out.  Only a line feed ends a
line.
-/
def lastLine (s : String) : String :=
  String.ofList ((trimChars s.toList).reverse.takeWhile (· != '\n')).reverse

end Laminar.Text
