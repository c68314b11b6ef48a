import Laminar.Fault
import Laminar.Source.CodePage

/-!
# The bytes of a source file

A source file is UTF-8, and a mark of the byte order may stand in front.  A comment in one of the
first two lines may name another encoding: after the word `coding` and a colon or an equals sign.
The second line counts only if the first holds nothing but blanks and a comment.

* `codingName?` finds the name of the encoding, `Encoding.ofName?` is the encoding with a name.
* `Encoding.read` are the characters of bytes.
* `decode` are the characters of a file.
-/

namespace Laminar.Source

/-- The encodings of source files. -/
inductive Encoding where
  | utf8
  /-- No byte is above 127. -/
  | ascii
  /-- Every byte is a character. -/
  | page (page : CodePage)
  /-- Bytes below 128 are the characters of ASCII, and only those are read. -/
  | wide
  /-- Bytes stand for bytes, and never for characters. -/
  | binary

/-- Why the bytes of a file are no text. -/
inductive Undecodable where
  /-- No encoding has the name. -/
  | unknownName (name : String)
  /-- The encoding with the name is not one of texts. -/
  | notText (name : String)
  /-- A mark of UTF-8 stands before a text in another encoding. -/
  | marked (name : String)
  /-- A byte that is no character of ASCII, and the number of bytes before it. -/
  | notAscii (byte : UInt8) (position : Nat)
  /-- A byte that is no character of a code page, and the number of bytes before it. -/
  | noCharacter (byte : UInt8) (position : Nat)
  /-- Bytes that are not read. -/
  | invalid

namespace Undecodable

/-- A byte as two digits. -/
def byteText (b : UInt8) : String :=
  let digits := Nat.toDigits 16 b.toNat
  "0x" ++ String.ofList (if digits.length < 2 then '0' :: digits else digits)

/-- What is wrong. -/
def reason : Undecodable → String
  | .unknownName name => "unknown encoding: " ++ name
  | .notText name =>
    "'" ++ name ++ "' is not a text encoding; use codecs.decode() to handle arbitrary codecs"
  | .marked name => "encoding problem: " ++ name ++ " with BOM"
  | .notAscii b n =>
    "'ascii' codec can't decode byte " ++ byteText b ++ " in position " ++ toString n
      ++ ": ordinal not in range(128)"
  | .noCharacter b n =>
    "'charmap' codec can't decode byte " ++ byteText b ++ " in position " ++ toString n
      ++ ": character maps to <undefined>"
  | .invalid => "invalid or missing encoding declaration"

/-- The fault of a file with a name. -/
def toFault (u : Undecodable) (file : String) : Fault :=
  .raised (.other "SyntaxError") (u.reason ++ " (" ++ file ++ ", line 0)")

end Undecodable

namespace Encoding

/-! ### Names

Each encoding has a list of names, and the first is its own.
-/

/-- The names of UTF-8. -/
def utf8Names : List (List String) := [
  ["utf_8", "u8", "utf", "utf8", "utf8_ucs2", "utf8_ucs4", "cp65001"],
  ["utf_8_sig"]]

/-- The names of ASCII. -/
def asciiNames : List (List String) := [
  ["ascii", "646", "ansi_x3.4_1968", "ansi_x3_4_1968", "ansi_x3.4_1986", "cp367", "csascii",
    "ibm367", "iso646_us", "iso_646.irv_1991", "iso_ir_6", "us", "us_ascii"]]

/-- The names of encodings with characters of more than one byte. -/
def wideNames : List (List String) := [
  ["big5", "big5_tw", "csbig5", "x_mac_trad_chinese"],
  ["big5hkscs", "big5_hkscs", "hkscs"],
  ["cp932", "932", "ms932", "mskanji", "ms_kanji"],
  ["cp949", "949", "ms949", "uhc"],
  ["cp950", "950", "ms950"],
  ["euc_jis_2004", "jisx0213", "eucjis2004", "euc_jis2004"],
  ["euc_jisx0213", "eucjisx0213"],
  ["euc_jp", "eucjp", "ujis", "u_jis"],
  ["euc_kr", "euckr", "korean", "ksc5601", "ks_c_5601", "ks_c_5601_1987", "ksx1001",
    "ks_x_1001", "x_mac_korean"],
  ["gb18030", "gb18030_2000"],
  ["gb2312", "chinese", "csiso58gb231280", "euc_cn", "euccn", "eucgb2312_cn", "gb2312_1980",
    "gb2312_80", "iso_ir_58", "x_mac_simp_chinese"],
  ["gbk", "936", "cp936", "ms936"],
  ["hz", "hzgb", "hz_gb", "hz_gb_2312"],
  ["idna"],
  ["iso2022_jp", "csiso2022jp", "iso2022jp", "iso_2022_jp"],
  ["iso2022_jp_1", "iso2022jp_1", "iso_2022_jp_1"],
  ["iso2022_jp_2", "iso2022jp_2", "iso_2022_jp_2"],
  ["iso2022_jp_2004", "iso_2022_jp_2004", "iso2022jp_2004"],
  ["iso2022_jp_3", "iso2022jp_3", "iso_2022_jp_3"],
  ["iso2022_jp_ext", "iso2022jp_ext", "iso_2022_jp_ext"],
  ["iso2022_kr", "csiso2022kr", "iso2022kr", "iso_2022_kr"],
  ["johab", "cp1361", "ms1361"],
  ["raw_unicode_escape"],
  ["shift_jis", "csshiftjis", "shiftjis", "sjis", "s_jis", "x_mac_japanese"],
  ["shift_jis_2004", "shiftjis2004", "sjis_2004", "s_jis_2004"],
  ["shift_jisx0213", "shiftjisx0213", "sjisx0213", "s_jisx0213"],
  ["unicode_escape"],
  ["utf_7", "u7", "utf7", "unicode_1_1_utf_7"]]

/-- The names of encodings of bytes as bytes. -/
def binaryNames : List (List String) := [
  ["base64_codec", "base64", "base_64"],
  ["bz2_codec", "bz2"],
  ["hex_codec", "hex"],
  ["quopri_codec", "quopri", "quoted_printable", "quotedprintable"],
  ["rot_13", "rot13"],
  ["uu_codec", "uu"],
  ["zlib_codec", "zip", "zlib"]]

/-- The name that begins as another does: nothing follows it, or a hyphen. -/
def extendsName (name : List Char) (plain : String) : Bool :=
  name == plain.toList || (plain.toList ++ ['-']).isPrefixOf name

/-- A name in the spelling that messages use: the first names of UTF-8 and of the first code page
have one spelling each.  Only the first twelve characters decide. -/
def spelling (name : List Char) : List Char :=
  let plain := (name.take 12).map fun c => if c == '_' then '-' else c.toLower
  if extendsName plain "utf-8" then "utf-8".toList
  else if ["latin-1", "iso-8859-1", "iso-latin-1"].any (extendsName plain) then
    "iso-8859-1".toList
  else name

/-- A name in small letters with one low line between its parts.  A part has letters, digits and
points. -/
def key (name : List Char) : List Char :=
  let isPart (c : Char) : Bool := c.isAlphanum || c == '.'
  let parts := (name.splitBy fun a b => isPart a == isPart b).filter (·.any isPart)
  ['_'].intercalate (parts.map (·.map Char.toLower))

/-- The encoding one of whose names, less the first `skipped` of them, satisfies a condition. -/
def find? (skipped : Nat) (isName : String → Bool) : Option Encoding :=
  let has (names : List String) : Bool := (names.drop skipped).any isName
  if utf8Names.any has then some utf8
  else if asciiNames.any has then some ascii
  else if wideNames.any has then some wide
  else if binaryNames.any has then some binary
  else (codePages.find? fun p => has p.names).map page

/-- The encoding with a name.  A point in it may stand for a low line, but not in the name that is
an encoding's own. -/
def ofName? (name : List Char) : Option Encoding :=
  let plain := key name
  let lined := plain.map fun c => if c == '.' then '_' else c
  (find? 0 (·.toList == plain)).orElse fun _ =>
    if lined == plain then none else find? 1 (·.toList == lined)

/-! ### Reading -/

/-- The characters of bytes, each of which is one; `n` bytes stand before them. -/
def readEach (character? : UInt8 → Option Char) (refuse : UInt8 → Nat → Undecodable) (n : Nat) :
    List UInt8 → Except Undecodable (List Char)
  | [] => pure []
  | b :: bytes => match character? b with
    | some c => (readEach character? refuse (n + 1) bytes).map (c :: ·)
    | none => throw (refuse b n)

/-- The character of ASCII that a byte is. -/
def asciiCharacter? (b : UInt8) : Option Char :=
  if b < 128 then some (Char.ofNat b.toNat) else none

/-- The characters of the bytes of a file whose encoding has a name. -/
def read (e : Encoding) (name : String) (bytes : List UInt8) : Except Undecodable String :=
  match e with
  | .utf8 => match String.fromUTF8? (ByteArray.mk bytes.toArray) with
    | some text => pure text
    | none => throw .invalid
  | .ascii => String.ofList <$> readEach asciiCharacter? .notAscii 0 bytes
  | .page p => String.ofList <$> readEach (CodePage.character? p.upper) .noCharacter 0 bytes
  | .wide => String.ofList <$> readEach asciiCharacter? (fun _ _ => .invalid) 0 bytes
  | .binary => throw (.notText name)

end Encoding

/-! ### The comment -/

/-- Is it a blank that may stand before a comment? -/
def isMargin (c : Char) : Bool := c == ' ' || c == '\t' || c == '\x0c'

/-- May it stand in the name of an encoding? -/
def isCodingChar (c : Char) : Bool := c.isAlphanum || c == '-' || c == '_' || c == '.'

/-- The name that follows the word `coding` in a comment. -/
def codingIn? : List Char → Option (List Char)
  | [] => none
  | c :: cs =>
    let here : Option (List Char) :=
      match (c :: cs).take 6 == "coding".toList, (c :: cs).drop 6 with
      | true, sign :: rest =>
        let name := (rest.dropWhile fun c => c == ' ' || c == '\t').takeWhile isCodingChar
        if (sign == ':' || sign == '=') && !name.isEmpty then some name else none
      | _, _ => none
    here.orElse fun _ => codingIn? cs

/-- The name of an encoding in a line; the line is none if it holds more than a comment. -/
def codingOfLine? (line : List Char) : Option (Option (List Char)) :=
  match line.dropWhile isMargin with
  | [] => some none
  | '#' :: comment => some (codingIn? comment)
  | _ => none

/-- The name of the encoding that the first two lines give. -/
def codingName? (text : List Char) : Option (List Char) :=
  let isEnd (c : Char) : Bool := c == '\n' || c == '\r'
  let first := text.takeWhile (!isEnd ·)
  let rest := match text.dropWhile (!isEnd ·) with
    | '\r' :: '\n' :: rest => rest
    | _ :: rest => rest
    | [] => []
  match codingOfLine? first with
  | none => none
  | some (some name) => some name
  | some none => (codingOfLine? (rest.takeWhile (!isEnd ·))).join

/-! ### Files -/

/-- The characters of a source file, or why there are none. -/
def decode? (bytes : List UInt8) : Except Undecodable String :=
  let marked := [0xef, 0xbb, 0xbf].isPrefixOf bytes
  let bytes := if marked then bytes.drop 3 else bytes
  match codingName? (bytes.map fun b => Char.ofNat b.toNat) with
  | none => Encoding.utf8.read "utf-8" bytes
  | some given =>
    let name := Encoding.spelling given
    if marked && name != "utf-8".toList then throw (.marked (String.ofList name))
    else match Encoding.ofName? name with
      | some e => e.read (String.ofList name) bytes
      | none => throw (.unknownName (String.ofList name))

/-- The characters of the source file with a name. -/
def decode (file : String) (bytes : List UInt8) : Except Fault String :=
  (decode? bytes).mapError (·.toFault file)

end Laminar.Source
