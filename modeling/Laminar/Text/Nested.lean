/-!
# Nested rows

The layout of the items of a rectangular nesting: each row stands in brackets, rows stand below each
other, and a row that is too long is broken between two items.

* `nestedText` lays out items that are written already.
-/

namespace Laminar.Text

/-- A text without blanks at its end. -/
def withoutEndBlanks (s : String) : String :=
  String.ofList ((s.toList.reverse.dropWhile (· == ' ')).reverse)

/-- Put a word at the end of a line; if there is no room for it, the line is finished first. -/
def extendLine (indent : String) (width : Nat) (finished line word : String) : String × String :=
  if width < line.length + word.length && indent.length < line.length then
    (finished ++ withoutEndBlanks line ++ "\n", indent ++ word)
  else (finished, line ++ word)

/-- A row of words in lines of a width.  The first line is indented too. -/
def rowText (separator indent : String) (width : Nat) (finished line : String) :
    List String → String
  | [] => finished ++ line
  | [word] =>
    let (finished, line) := extendLine indent width finished line word
    finished ++ line
  | word :: words =>
    let (finished, line) := extendLine indent width finished line word
    rowText separator indent width finished (line ++ separator) words

/-- A list in blocks of a size. -/
def blocks {α : Type} (count size : Nat) (items : List α) : List (List α) :=
  (List.range count).map fun i => (items.drop (i * size)).take size

/-- The items of a nesting of a shape, in brackets.  `indent` stands before each further line, and
`width` is the room in a line. -/
def nestedText (separator : String) :
    (shape : List Nat) → (indent : String) → (width : Nat) → List String → String
  | [], _, _, words => words.headD ""
  | [_], indent, width, words =>
    let room := width - max (withoutEndBlanks separator).length 1
    "[" ++ ((rowText separator indent room "" indent words).drop indent.length).copy ++ "]"
  | n :: shape, indent, width, words =>
    let size := shape.foldl (· * ·) 1
    let rows := (blocks n size words).map (nestedText separator shape (indent ++ " ") (width - 1))
    let breaks := String.ofList (List.replicate shape.length '\n')
    "[" ++ (withoutEndBlanks separator ++ breaks ++ indent).intercalate rows ++ "]"

example : nestedText ", " [2, 2] " " 75 ["1", "2", "3", "4"] = "[[1, 2],\n [3, 4]]" := by
  decide +kernel

end Laminar.Text
