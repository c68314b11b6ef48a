import Laminar.Decimal.Reader
import Laminar.Text.CharacterName
import Laminar.Text.Normal
import Laminar.Text.Surrogate

/-!
# Tokens of layer source

Source text is cut into tokens in two passes.

**Scanning.** `scan` walks the characters once.  A token found at a character covers the characters
after it; the walk then skips as many.  So the recursion is on the characters themselves, and a
token never needs a proof that it ends.  Blanks, comments and joined lines leave no token; the end
of a line does.

**Layout.** `layout` walks the tokens once and turns the column of each line's first token into
indent and dedent tokens.  Inside brackets the ends of lines do not count, and blank lines never do.
Blanks before the end of the text, where a line has just begun, are a token of their own: whether
they count is for the reader to say.

**Lines.** A line ends with a line feed, a carriage return, or both in that order.  Before anything
else they are all made line feeds, also inside text literals.

* `tokenize` is both passes; `none` means the text is no source.
-/

namespace Laminar.Source

/-- A token. -/
inductive Token where
  /-- A name, with its characters in normal form. -/
  | name (id : String)
  /-- A reserved word.  Only the plain spelling is reserved: a name whose normal form is spelled the
  same is a name. -/
  | word (id : String)
  | number (n : Decimal.Number)
  /-- A text literal, and whether a `u` stands before it. -/
  | str (value : String) (marked : Bool)
  | bytes (value : List UInt8)
  | mark (sign : String)
  | newline
  | indent
  | dedent
  /-- Blanks in a last line that holds nothing else. -/
  | margin
  deriving DecidableEq, Repr

/-- A token with the line and column where it starts. -/
structure Lexeme where
  token : Token
  line : Nat
  column : Nat
  deriving DecidableEq, Repr

/-! ### Character classes -/

/-- May a name start with this character? Outside ASCII every character counts as a letter. -/
def isNameStart (c : Char) : Bool := c.isAlpha || c == '_' || 0x80 ≤ c.toNat

/-- May a name go on with this character? -/
def isNamePart (c : Char) : Bool := isNameStart c || c.isDigit

/-- The words that are no names. -/
def reserved : List String :=
  ["False", "None", "True", "and", "as", "assert", "async", "await", "break", "class", "continue",
    "def", "del", "elif", "else", "except", "finally", "for", "from", "global", "if", "import",
    "in", "is", "lambda", "nonlocal", "not", "or", "pass", "raise", "return", "try", "while",
    "with", "yield"]

/-- A word as a token. -/
def Token.ofWord (s : String) : Token :=
  if reserved.contains s then .word s else .name (Text.normalize s)

/-! ### Text literals -/

/-- The value of the first `count` hexadecimal digits, if there are that many. -/
def hexValue? (count : Nat) (cs : List Char) : Option Nat := do
  let ds ← (cs.take count).mapM Decimal.digitValue?
  if ds.length = count && ds.all (· < 16) then some (Decimal.ofDigits 16 ds) else none

/-- The octal digits at the start of a text, at most three. -/
def octalDigits (cs : List Char) : List Nat :=
  ((cs.take 3).takeWhile (fun c => '0' ≤ c && c ≤ '7')).filterMap Decimal.digitValue?

/-- The form of a text literal. -/
structure Quoting where
  quote : Char
  triple : Bool
  /-- A backslash stands for itself. -/
  raw : Bool
  /-- The literal is a text of bytes, so a character is one byte. -/
  bytes : Bool

/-- What an escape stands for: the characters, the line ends covered, and how many characters after
the backslash it covers. -/
structure Escape where
  value : List Char
  lines : Nat
  covered : Nat

/-- A character given by its code point. -/
def codePoint? (n covered : Nat) : Option Escape :=
  (Text.ofCode? n).map fun c => ⟨[c], 0, covered⟩

/-- A character given by its name in braces, after the `N`. -/
def namedCharacter? (cs : List Char) : Option Escape :=
  match cs with
  | '{' :: rest =>
    let name := rest.takeWhile (· != '}')
    if name.length < rest.length then
      (Text.ofName? (String.ofList name)).map fun c => ⟨[c], 0, name.length + 3⟩
    else none
  | _ => none

/-- The escape after a backslash.  A backslash before any other character stands for itself, and in
a text of bytes so does one before the escapes that name characters. -/
def escapeAt (bytes : Bool) : List Char → Option Escape
  | [] => none
  | c :: cs =>
    let itself : Option Escape := some ⟨['\\'], 0, 0⟩
    match c with
    | '\n' => some ⟨[], 1, 1⟩
    | '\\' => some ⟨['\\'], 0, 1⟩
    | '\'' => some ⟨['\''], 0, 1⟩
    | '"' => some ⟨['"'], 0, 1⟩
    | 'a' => some ⟨['\x07'], 0, 1⟩
    | 'b' => some ⟨['\x08'], 0, 1⟩
    | 'f' => some ⟨['\x0c'], 0, 1⟩
    | 'n' => some ⟨['\n'], 0, 1⟩
    | 'r' => some ⟨['\r'], 0, 1⟩
    | 't' => some ⟨['\t'], 0, 1⟩
    | 'v' => some ⟨['\x0b'], 0, 1⟩
    | 'x' => (hexValue? 2 cs).bind (codePoint? · 3)
    | 'u' => if bytes then itself else (hexValue? 4 cs).bind (codePoint? · 5)
    | 'U' => if bytes then itself else (hexValue? 8 cs).bind (codePoint? · 9)
    | 'N' => if bytes then itself else namedCharacter? cs
    | c =>
      match octalDigits (c :: cs) with
      | [] => itself
      | ds =>
        let n := Decimal.ofDigits 8 ds
        codePoint? (if bytes then n % 256 else n) ds.length

/-- Does the literal end where `c` stands before `cs`? -/
def Quoting.closes (q : Quoting) (c : Char) (cs : List Char) : Bool :=
  c == q.quote && (!q.triple || cs.take 2 == [q.quote, q.quote])

/-- Can a character stand in the literal? -/
def Quoting.allows (q : Quoting) (c : Char) : Bool :=
  !(q.bytes && 0x80 ≤ c.toNat) && (q.triple || c != '\n')

/-- The body of a text literal up to and with its closing quotes: its value, the line ends in it,
and how many characters it covers.  `skip` characters are already accounted for. -/
def textBody (q : Quoting) : Nat → List Char → Option Escape
  | _, [] => none
  | skip + 1, _ :: cs => (textBody q skip cs).map fun r => { r with covered := r.covered + 1 }
  | 0, c :: cs =>
    if q.closes c cs then some ⟨[], 0, if q.triple then 3 else 1⟩
    else if !q.allows c then none
    else if c = '\\' then
      if q.raw then
        match cs with
        | [] => none
        | d :: _ =>
          if q.bytes && 0x80 ≤ d.toNat then none
          else
            (textBody q 1 cs).map fun r =>
              ⟨'\\' :: d :: r.value, r.lines + (if d = '\n' then 1 else 0), r.covered + 1⟩
      else do
        let e ← escapeAt q.bytes cs
        let r ← textBody q e.covered cs
        some ⟨e.value ++ r.value, e.lines + r.lines, r.covered + 1⟩
    else
      (textBody q 0 cs).map fun r =>
        ⟨c :: r.value, r.lines + (if c = '\n' then 1 else 0), r.covered + 1⟩

/-! ### Scanning -/

/-- What the scanner finds at a character; `covered` counts the characters after it. -/
inductive Found where
  | newline
  /-- A line goes on in the next one. -/
  | continuation
  | blank (covered : Nat)
  | token (t : Token) (covered lines : Nat)

/-- A text literal after its first quote `c`; the letters `before` stand before it. -/
def textAt (before : List Char) (c : Char) (cs : List Char) : Option Found := do
  let triple := cs.take 2 == [c, c]
  let opening := if triple then 2 else 0
  let letters := before.map Char.toLower
  let q : Quoting := ⟨c, triple, letters.contains 'r', letters.contains 'b'⟩
  let r ← textBody q 0 (cs.drop opening)
  let token : Token :=
    if q.bytes then .bytes (r.value.map fun c => UInt8.ofNat c.toNat)
    else .str (String.ofList r.value) (before = ['u'])
  some (.token token (before.length + opening + r.covered) r.lines)

/-- The letters that may stand before the quotes of a text literal, in either case. -/
def textLetters : List (List Char) := [['r'], ['u'], ['b'], ['b', 'r'], ['r', 'b']]

/-- Is it a quote? -/
def isQuote (c : Char) : Bool := c == '\'' || c == '"'

/-- A name, or a text literal with letters before its quotes. -/
def wordAt (c : Char) (cs : List Char) : Option Found :=
  let word := c :: cs.takeWhile isNamePart
  match cs.drop (word.length - 1) with
  | q :: rest =>
    if isQuote q && textLetters.contains (word.map Char.toLower) then
      match textAt word q rest with
      | some (.token t covered lines) => some (.token t covered lines)
      | found => found
    else some (.token (.ofWord (String.ofList word)) (word.length - 1) 0)
  | [] => some (.token (.ofWord (String.ofList word)) (word.length - 1) 0)

/-- The signs of three characters. -/
def longSigns : List String := ["**=", "//=", "...", "<<=", ">>="]

/-- The signs of two characters. -/
def doubleSigns : List String :=
  ["**", "//", "<=", ">=", "==", "!=", "->", "+=", "-=", "*=", "/=", "%=", "<<", ">>", ":=", "&=",
    "|=", "^=", "@="]

/-- The signs of one character. -/
def singleSigns : List Char :=
  ['(', ')', '[', ']', '{', '}', ',', ':', ';', '.', '+', '-', '*', '/', '%', '<', '>', '=', '@',
    '~', '&', '|', '^']

/-- The longest sign at a character. -/
def signAt (c : Char) (cs : List Char) : Option Found :=
  let long := String.ofList (c :: cs.take 2)
  let double := String.ofList (c :: cs.take 1)
  if longSigns.contains long then some (.token (.mark long) 2 0)
  else if doubleSigns.contains double then some (.token (.mark double) 1 0)
  else if singleSigns.contains c then some (.token (.mark c.toString) 0 0)
  else none

/-- What stands at the character `c` before `cs`. -/
def findAt (c : Char) (cs : List Char) : Option Found :=
  if c = '\n' then some .newline
  else if c = ' ' ∨ c = '\t' ∨ c = '\x0c' then some (.blank 0)
  else if c = '#' then some (.blank (cs.takeWhile (· != '\n')).length)
  else if c = '\\' then
    match cs with
    | '\n' :: _ :: _ => some .continuation
    | _ => none
  else if isQuote c then textAt [] c cs
  else if isNameStart c then wordAt c cs
  else if c.isDigit || (c == '.' && (cs.head?.map Char.isDigit).getD false) then do
    let (n, rest) ← Decimal.readNumber? (c :: cs)
    some (.token (.number n) (cs.length - rest.length) 0)
  else signAt c cs

/-- The column after a blank: a tab goes to the next multiple of eight. -/
def columnAfter (c : Char) (column : Nat) : Nat :=
  if c = '\t' then (column / 8 + 1) * 8 else if c = '\x0c' then 0 else column + 1

/-- Cut characters into tokens with their positions.  `skip` characters are already covered.  A line
that goes on in the next one keeps the column it had reached, which is `held` unless that is zero.
`fresh` says that the line holds nothing but blanks so far. -/
def scan (line column held : Nat) (fresh : Bool) : Nat → List Char → Option (List Lexeme)
  | _, [] => some (if fresh && held == 0 && column != 0 then [⟨.margin, line, column⟩] else [])
  | skip + 1, _ :: cs => scan line column held fresh skip cs
  | 0, c :: cs =>
    let start := if held = 0 then column else held
    match findAt c cs with
    | none => none
    | some .newline => (scan (line + 1) 0 0 true 0 cs).map (⟨.newline, line, start⟩ :: ·)
    | some .continuation => scan (line + 1) column start fresh 1 cs
    | some (.blank covered) => scan line (columnAfter c column) held (fresh && c != '#') covered cs
    | some (.token t covered lines) =>
      (scan (line + lines) (column + 1) held false covered cs).map (⟨t, line, start⟩ :: ·)

/-! ### Layout -/

/-- Does the token open (`1`) or close (`-1`) a bracket? -/
def bracketStep : Token → Int
  | .mark "(" | .mark "[" | .mark "\x7b" => 1
  | .mark ")" | .mark "]" | .mark "\x7d" => -1
  | _ => 0

/-- The number of brackets that may be open at once. -/
def maxDepth : Int := 200

/-- The number of blocks that may be open at once, the whole text included. -/
def maxBlocks : Nat := 100

/-- The indentation tokens before a line that starts in `column`, and the open columns after them.
-/
def indentTo (line column : Nat) (open_ : List Nat) : Option (List Lexeme × List Nat) :=
  match open_ with
  | [] => none
  | top :: _ =>
    if top < column then
      if maxBlocks ≤ open_.length then none
      else some ([⟨.indent, line, column⟩], column :: open_)
    else
      let kept := open_.dropWhile (column < ·)
      if kept.head? = some column then
        some (List.replicate (open_.length - kept.length) ⟨.dedent, line, column⟩, kept)
      else none

/-- Turn columns into indentation tokens.  `depth` counts open brackets, `open_` holds the columns
of the open blocks, innermost first, and `fresh` says that no token of the line came yet. -/
def layout (depth : Int) (open_ : List Nat) (fresh : Bool) : List Lexeme → Option (List Lexeme)
  | [] =>
    let end_ : List Lexeme := if fresh then [] else [⟨.newline, 0, 0⟩]
    some (end_ ++ List.replicate (open_.length - 1) ⟨.dedent, 0, 0⟩)
  | x :: xs =>
    if maxDepth < depth then none
    else if x.token = .margin then
      if depth > 0 then layout depth open_ fresh xs
      else (layout depth open_ fresh xs).map (x :: ·)
    else if x.token = .newline then
      if depth > 0 ∨ fresh then layout depth open_ fresh xs
      else (layout depth open_ true xs).map (x :: ·)
    else if fresh then do
      let (before, kept) ← indentTo x.line x.column open_
      let rest ← layout (depth + bracketStep x.token) kept false xs
      some (before ++ x :: rest)
    else (layout (depth + bracketStep x.token) open_ false xs).map (x :: ·)

/-! ### Whole texts -/

/-- Make every end of a line a line feed. -/
def plainLines : List Char → List Char
  | [] => []
  | '\r' :: '\n' :: cs => '\n' :: plainLines cs
  | '\r' :: cs => '\n' :: plainLines cs
  | c :: cs => c :: plainLines cs

/-- Can a character stand in a source text? -/
def isSourceChar (c : Char) : Bool := c != '\x00' && !Text.isSurrogate c

/-- The tokens of a source text whose lines end with line feeds. -/
def tokenize (text : List Char) : Option (List Lexeme) := do
  if !text.all isSourceChar then none
  layout 0 [0] true (← scan 1 0 0 true 0 text)

end Laminar.Source
