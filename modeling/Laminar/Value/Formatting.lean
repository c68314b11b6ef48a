import Laminar.Decimal.Places
import Laminar.Value.Arithmetic

/-!
# Formatting texts

A text with directives, each a percent sign, is filled with values.  A directive may name a key of a
mapping, then has flags, a width and a precision, and ends with the sign of a conversion.  A text of
bytes is filled in the same way: each character is a byte, and what is filled in as it stands must
be bytes too.

**Arguments.** A tuple gives one value to each directive that asks for one, anything else is the
single value.  A star as width or precision asks for a value too.  A directive with a key takes the
item of the mapping under that key as its only value.  All values must be used, unless the argument
is a mapping.

**Order of faults.** A directive is read to its end before its value is looked at; only a key and a
star ask for theirs while it is read.

* `Directive` is what a directive asks for, `Directive.write` its text for a value.
* `formatText` fills a text, `formatBytes` a text of bytes; `formatObject` is a filled text as an
  object.
* `formatPieces?` reads a text as pieces that can be filled one after the other.
-/

namespace Laminar

/-- What a directive asks for. -/
structure Directive where
  /-- Does it stand in a text of bytes? -/
  bytes : Bool := false
  leftAligned : Bool := false
  signed : Bool := false
  spaced : Bool := false
  alternate : Bool := false
  zeroed : Bool := false
  width : Option Nat := none
  precision : Option Nat := none
  /-- The sign of the conversion. -/
  conversion : Char := 's'

/-- Values that are still to be used, and the mapping that keys look into. -/
structure Supply where
  /-- Is a text of bytes filled? -/
  bytes : Bool
  pending : List Value
  mapping : Option Value

/-! ### Writing a value -/

/-- Characters beyond ASCII as escapes. -/
def asciiOnly (s : String) : String :=
  String.ofList (s.toList.flatMap fun c =>
    let n := Text.code c
    if n < 0x80 then [c]
    else if n < 0x100 then '\\' :: 'x' :: Text.hexPadded 2 n
    else if n < 0x10000 then '\\' :: 'u' :: Text.hexPadded 4 n
    else '\\' :: 'U' :: Text.hexPadded 8 n)

/-- Bytes as characters. -/
def byteChars (bytes : List UInt8) : List Char := bytes.map fun b => Char.ofNat b.toNat

/-- The bytes of a value, as characters. -/
def formattedBytes (v : Value) : Except Fault String :=
  match v.bare with
  | .bytes b => pure (String.ofList (byteChars b))
  | v => throw (.formatBytes v.operandType)

/-- The text of a value in words: as it stands, as in source, or as in source with ASCII only. -/
def Directive.words (d : Directive) (v : Value) : Except Fault String := do
  match d.conversion, d.bytes with
  | 's', false => v.displayed
  | 's', true | 'b', true => formattedBytes v
  | 'r', false => v.written
  | _, _ => return asciiOnly (← v.written)

/-- The whole number that a directive shows of a value. -/
def Directive.whole (d : Directive) (v : Value) : Except Fault Int :=
  let based := d.conversion == 'o' || d.conversion == 'x' || d.conversion == 'X'
  let shown := if d.bytes && d.conversion == 'i' then 'd' else d.conversion
  let real := Fault.formatReal shown v.operandType
  match v.index?, v.number? with
  | some n, _ => pure n
  | none, some n =>
    if based then throw (.formatWhole d.conversion v.operandType)
    else match n with
      | .int n => pure n
      | .float x => match Binary.decode x with
        | .nan => throw .nanToInt
        | .infinite _ => throw (.overflow .infiniteToInt)
        | .finite f => pure f.truncate
      | .complex _ => throw real
  | none, none => if based then throw (.formatWhole d.conversion v.operandType) else throw real

/-- The base of a conversion, and what stands before the digits in the alternate form. -/
def Directive.base (d : Directive) : Nat × String :=
  match d.conversion with
  | 'o' => (8, "0o")
  | 'x' => (16, "0x")
  | 'X' => (16, "0X")
  | _ => (10, "")

/-- A whole number in parts: its sign, what stands before the digits, and the digits. -/
def Directive.wholeParts (d : Directive) (n : Int) : Except Fault (String × String × String) := do
  let (base, mark) := d.base
  if base = 10 && !intWritable n then throw .digitLimit
  let ds := Nat.toDigits base n.natAbs
  let ds := if d.conversion == 'X' then ds.map Char.toUpper else ds
  let zeros := List.replicate (d.precision.getD 0 - ds.length) '0'
  return (if n < 0 then "-" else "", if d.alternate then mark else "", String.ofList (zeros ++ ds))

/-- The float that a directive shows of a value. -/
def Directive.float (d : Directive) (v : Value) : Except Fault Float :=
  let converted : Except Fault Float := match v.number? with
    | some (.complex _) | none => throw (.formatFloat v.operandType)
    | some n => n.toFloat
  if d.bytes then converted.mapError fun _ => .formatFloatBytes v.operandType else converted

/-- A float in parts: its sign and its digits. -/
def Directive.floatParts (d : Directive) (x : Float) : String × String :=
  let style : Decimal.Style := match d.conversion.toLower with
    | 'e' => .exponent
    | 'f' => .fixed
    | _ => .general
  let text := Decimal.writeRounded style (d.precision.getD 6) d.alternate x
  let text := if d.conversion.isUpper then text.toUpper else text
  match text.toList with
  | '-' :: rest => ("-", String.ofList rest)
  | cs => ("", String.ofList cs)

/-- The character that a directive shows of a value. -/
def formatCharacter (v : Value) : Except Fault String :=
  match v.bare with
  | .str s => if s.length = 1 then pure s else throw .formatCharacter
  | v => match v.index? with
    | some n =>
      match if 0 ≤ n then Text.ofCode? n.toNat else none with
      | some c => pure c.toString
      | none => throw (.overflow .toCharacter)
    | none => throw .formatCharacter

/-- The byte that a directive shows of a value, as a character. -/
def formatByte (v : Value) : Except Fault String :=
  match v.bare with
  | .bytes [b] => pure (String.ofList (byteChars [b]))
  | v => match v.index? with
    | some n =>
      if 0 ≤ n && n < 256 then pure (Char.ofNat n.toNat).toString else throw (.overflow .toByte)
    | none => throw .formatByte

/-- The fault of a sign that is no conversion, at its place in the text. -/
def Directive.refuse (d : Directive) (index : Nat) : Fault :=
  let code := Text.code d.conversion
  if d.bytes then
    if code < 0x80 then .formatSign d.conversion.toString code index else .overflow .toSign
  else .formatSign (if 31 < code && code < 127 then d.conversion.toString else "?") code index

/-- Blanks that fill a number of characters up to the width. -/
def Directive.blanks (d : Directive) (used : Nat) (c : Char) : String :=
  String.ofList (List.replicate (d.width.getD 0 - used) c)

/-- A text in the width of a directive. -/
def Directive.pad (d : Directive) (s : String) : String :=
  let fill := d.blanks s.length ' '
  if d.leftAligned then s ++ fill else fill ++ s

/-- A number in the width of a directive: its sign, what stands before its digits, and the digits.
Zeros go between sign and digits. -/
def Directive.padNumber (d : Directive) (sign mark digits : String) : String :=
  let sign := if sign != "" then sign else if d.signed then "+" else if d.spaced then " " else ""
  let front := sign ++ mark
  let used := front.length + digits.length
  if d.leftAligned then front ++ digits ++ d.blanks used ' '
  else if d.zeroed then front ++ d.blanks used '0' ++ digits
  else d.blanks used ' ' ++ front ++ digits

/-- What a directive makes of a value.  `index` is the place of its conversion sign. -/
def Directive.write (d : Directive) (index : Nat) (v : Value) : Except Fault String := do
  match d.conversion with
  | 's' | 'r' | 'a' | 'b' =>
    if d.conversion == 'b' && !d.bytes then throw (d.refuse index)
    let s ← d.words v
    return d.pad (match d.precision with
      | none => s
      | some n => shortened n s)
  | 'd' | 'i' | 'u' | 'o' | 'x' | 'X' =>
    let (sign, mark, digits) ← d.wholeParts (← d.whole v)
    return d.padNumber sign mark digits
  | 'e' | 'E' | 'f' | 'F' | 'g' | 'G' =>
    let (sign, digits) := d.floatParts (← d.float v)
    return d.padNumber sign "" digits
  | 'c' => return d.pad (← if d.bytes then formatByte v else formatCharacter v)
  | _ => throw (d.refuse index)

/-! ### Reading a directive -/

/-- Take the next value. -/
def Supply.next (s : Supply) : Except Fault (Value × Supply) :=
  match s.pending with
  | v :: rest => pure (v, { s with pending := rest })
  | [] => throw .formatArguments

/-- A key up to its closing parenthesis, where `depth` more parentheses are open; and the characters
after it. -/
def readKey (depth : Nat) : List Char → Option (List Char × List Char)
  | [] => none
  | c :: cs =>
    if c = ')' then
      match depth with
      | 0 => some ([], cs)
      | depth + 1 => (readKey depth cs).map fun (key, rest) => (c :: key, rest)
    else
      (readKey (if c = '(' then depth + 1 else depth) cs).map fun (key, rest) => (c :: key, rest)

/-- The key of a directive, if it has one: its value becomes the only one. -/
def Supply.lookUp (s : Supply) : List Char → Except Fault (Supply × List Char)
  | '(' :: cs =>
    match s.mapping with
    | none => throw .formatMapping
    | some mapping =>
      match readKey 0 cs with
      | none => throw .formatKeyIncomplete
      | some (key, rest) => do
        let key : Value :=
          if s.bytes then .bytes (key.map fun c => c.toNat.toUInt8) else .str (String.ofList key)
        let v ← mapping.item (.value key)
        return ({ s with pending := [v] }, rest)
  | cs => pure (s, cs)

/-- The flags of a directive. -/
def readFlags (d : Directive) : List Char → Directive × List Char
  | '-' :: cs => readFlags { d with leftAligned := true } cs
  | '+' :: cs => readFlags { d with signed := true } cs
  | ' ' :: cs => readFlags { d with spaced := true } cs
  | '#' :: cs => readFlags { d with alternate := true } cs
  | '0' :: cs => readFlags { d with zeroed := true } cs
  | cs => (d, cs)

/-- The number at the start of some characters. -/
def readCount (cs : List Char) : Option Nat × List Char :=
  let ds := cs.takeWhile Char.isDigit
  if ds.isEmpty then (none, cs)
  else (some (Decimal.ofDigits 10 (ds.filterMap Decimal.digitValue?)), cs.dropWhile Char.isDigit)

/-- A number that a star stands for. -/
def Supply.star (s : Supply) (most : Int) (tooLarge : Fault) : Except Fault (Int × Supply) := do
  let (v, s) ← s.next
  match v.bare with
  | .bool b => return (if b then 1 else 0, s)
  | .int n => if -most - 1 ≤ n && n ≤ most then return (n, s) else throw tooLarge
  | _ => throw .formatStar

/-- The largest width. -/
def maxWidth : Int := Int.pow 2 63 - 1

/-- The largest precision. -/
def maxPrecision : Int := Int.pow 2 31 - 1

/-- The width of a directive; a negative one from a star aligns to the left. -/
def readWidth (d : Directive) (s : Supply) :
    List Char → Except Fault (Directive × Supply × List Char)
  | '*' :: cs => do
    let (n, s) ← s.star maxWidth (.overflow .toLength)
    return ({ d with width := some n.natAbs, leftAligned := d.leftAligned || n < 0 }, s, cs)
  | cs =>
    let (width, rest) := readCount cs
    if maxWidth < width.getD 0 then throw .formatWidth else pure ({ d with width }, s, rest)

/-- The precision of a directive.  A point alone stands for zero, and so does a negative star. -/
def readPrecision (d : Directive) (s : Supply) :
    List Char → Except Fault (Directive × Supply × List Char)
  | '.' :: '*' :: cs => do
    let (n, s) ← s.star maxPrecision (.overflow .toInt)
    return ({ d with precision := some n.toNat }, s, cs)
  | '.' :: cs =>
    let (precision, rest) := readCount cs
    if maxPrecision < precision.getD 0 then
      throw (.formatPrecision (if s.bytes then "prec" else "precision"))
    else pure ({ d with precision := some (precision.getD 0) }, s, rest)
  | cs => pure (d, s, cs)

/-- A letter for the size of a number is left out of account. -/
def dropSizeLetter : List Char → List Char
  | 'h' :: cs | 'l' :: cs | 'L' :: cs => cs
  | cs => cs

/-- A directive after its percent sign: the directive, the values left, and the characters left. -/
def readDirective (s : Supply) (cs : List Char) :
    Except Fault (Directive × Supply × List Char) := do
  let (s, cs) ← s.lookUp cs
  let (d, cs) := readFlags { bytes := s.bytes } cs
  let (d, s, cs) ← readWidth d s cs
  let (d, s, cs) ← readPrecision d s cs
  match dropSizeLetter cs with
  | [] => throw .formatIncomplete
  | c :: rest => return ({ d with conversion := c }, s, rest)

/-! ### Whole texts -/

/-- The fault of values that are not used. -/
def Supply.unformatted (s : Supply) : Fault := .unformatted (if s.bytes then "bytes" else "string")

/-- Fill a text of which some characters are left; the whole text has `length` characters.  The fuel
bounds the directives. -/
def fillDirectives (length : Nat) : (fuel : Nat) → Supply → List Char →
    Except Fault (Supply × String)
  | 0, s, _ => pure (s, "")
  | fuel + 1, s, cs => do
    let plain := cs.takeWhile (· != '%')
    match cs.drop plain.length with
    | [] => return (s, String.ofList plain)
    | _ :: '%' :: rest =>
      let (s, text) ← fillDirectives length fuel s rest
      return (s, String.ofList (plain ++ ['%']) ++ text)
    | _ :: rest =>
      let (d, s, rest) ← readDirective s rest
      let (v, s) ← s.next
      let here ← d.write (length - rest.length - 1) v
      if s.mapping.isSome && !s.pending.isEmpty then throw s.unformatted
      let (s, text) ← fillDirectives length fuel s rest
      return (s, String.ofList plain ++ here ++ text)

/-- Can keys of a text, or of a text of bytes, look into a value? -/
def Value.isMapping (bytes : Bool) (v : Value) : Bool :=
  match v.bare with
  | .dict _ | .list _ | .range .. | .fixed _ => true
  | .bytes _ => !bytes
  | _ => false

/-- The values that an argument gives. -/
def Supply.of (bytes : Bool) (args : Value) : Supply :=
  match args.bare with
  | .tuple items => { bytes, pending := items, mapping := none }
  | _ => { bytes, pending := [args], mapping := if args.isMapping bytes then some args else none }

/-- Fill characters with values. -/
def formatChars (bytes : Bool) (format : List Char) (args : Value) : Except Fault String := do
  let supply := Supply.of bytes args
  let (supply, text) ← fillDirectives format.length (format.length + 1) supply format
  if !supply.pending.isEmpty && supply.mapping.isNone then throw supply.unformatted
  return text

/-- Fill a text with values. -/
def formatText (format : String) (args : Value) : Except Fault String :=
  formatChars false format.toList args

/-- The value of the only directive that a text consists of, if it shows it in words. -/
def soleWords? (format : String) (args : Value) : Option Value :=
  match format.toList with
  | '%' :: rest =>
    match readDirective (.of false args) rest with
    | .ok (d, s, []) =>
      if d.conversion == 's' && !d.signed && !d.spaced then s.pending.head? else none
    | _ => none
  | _ => none

/-- A text, filled with values, as an object.  A text without directives is itself, and one that
consists of a directive hands the text on that it shows in full. -/
def formatObject (base : Value) (format : String) (args : Value) : Except Fault Value := do
  let text ← formatText format args
  if !format.toList.contains '%' then return base
  match soleWords? format args with
  | none => return .str text
  | some v =>
    match v.bare with
    | .str s => return if s == text then v else .str text
    | _ => return .str text

/-- A value as text.  A text is itself, the texts of the truth values are words, and the digit of a
small number is a text of its own. -/
def Value.toText (v : Value) : Except Fault Value := do
  match v.bare with
  | .str _ => return v
  | .bool b => return .kept .word (.str (if b then "True" else "False"))
  | w => return (Value.str (← w.displayed)).made

/-- Fill a text of bytes with values. -/
def formatBytes (format : List UInt8) (args : Value) : Except Fault (List UInt8) := do
  return (← formatChars true (byteChars format) args).toList.map fun c => c.toNat.toUInt8

/-! ### Texts in pieces -/

/-- A text as pieces: what stands before the first directive, and each directive with what stands
after it. -/
structure FormatPieces where
  lead : String
  rest : List (Directive × String)

/-- The characters up to a directive, and those from there on.  Two percent signs are one. -/
def readPlain : List Char → List Char × List Char
  | [] => ([], [])
  | '%' :: '%' :: cs =>
    let (plain, rest) := readPlain cs
    ('%' :: plain, rest)
  | c :: cs =>
    if c = '%' then ([], c :: cs)
    else
      let (plain, rest) := readPlain cs
      (c :: plain, rest)

/-- A number of two digits at most at the start of some characters. -/
def readShortCount? (cs : List Char) : Option (Option Nat × List Char) :=
  if (cs.takeWhile Char.isDigit).length < 3 then some (readCount cs) else none

/-- A directive for words after its percent sign, and the characters after it. -/
def readWordsDirective? (cs : List Char) : Option (Directive × List Char) := do
  let (d, cs) := readFlags {} cs
  let (width, cs) ← readShortCount? cs
  let (precision, cs) ← match cs with
    | '.' :: cs => (readShortCount? cs).map fun (n, cs) => (some (n.getD 0), cs)
    | cs => some (none, cs)
  match cs with
  | c :: rest =>
    if c = 's' || c = 'r' || c = 'a' then some ({ d with width, precision, conversion := c }, rest)
    else none
  | [] => none

/-- The directives at which some characters start, with what stands after each.  The fuel bounds
their number. -/
def readPieces? : (fuel : Nat) → List Char → Option (List (Directive × String))
  | _, [] => some []
  | 0, _ => none
  | fuel + 1, _ :: cs => do
    let (d, cs) ← readWordsDirective? cs
    let (plain, cs) := readPlain cs
    let rest ← readPieces? fuel cs
    some ((d, String.ofList plain) :: rest)

/-- A text as pieces, if all its directives are for words and there are so many of them. -/
def formatPieces? (format : String) (count : Nat) : Option FormatPieces := do
  let (lead, cs) := readPlain format.toList
  let rest ← readPieces? (cs.length + 1) cs
  if rest.length = count then some { lead := String.ofList lead, rest } else none

/-- What a directive for words makes of a value, as an object. -/
def Directive.piece (d : Directive) (v : Value) : Except Fault Value := do
  let whole ← if d.conversion == 's' then v.toText
    else do pure (Value.str (← d.words v)).made
  let shown := match d.precision with
    | none => d.pad whole.display
    | some n => d.pad (shortened n whole.display)
  return if shown == whole.display then whole else .str shown

/-- A text that is put together from pieces, of which plain ones are left out if they are empty. -/
def joinPieces (pieces : List Value) : Value :=
  match pieces with
  | [v] => v
  | pieces =>
    let text := String.join (pieces.map Value.display)
    if text.length = 0 then .str "" else (Value.str text).made

/-- A plain piece, unless it is empty. -/
def plainPiece (s : String) : List Value := if s.length = 0 then [] else [.str s]

end Laminar
