import Laminar.CommandLine.Param

/-!
# Options of the command line

The words of a command line are options, each beginning with a dash, and positional words.  There is
one positional word, the name of the layer.

**Options.** A long option may be cut short as long as it stays unambiguous.  A value is the next
word, or stands in the same word behind an equals sign or, for a short option, directly behind it;
there the value `--` is empty.  Further short options may stand behind a short option without a
value.  Negative numbers and words with a blank in them are never options.  After the word `--` no
word is an option.

**Errors.** Ambiguous options are reported before anything else, other mistakes where they are met,
then a missing layer name, then words that were not understood.

* `Switch` lists the options, `classify` tells words apart.
* `parseOptions` reads a command line.
-/

namespace Laminar.CommandLine

/-- The options. -/
inductive Switch where
  | help | file | input | outputSymbol | param | output | list
  deriving DecidableEq, Repr

namespace Switch

/-- All options, in the order help lists them. -/
def all : List Switch := [.help, .file, .input, .outputSymbol, .param, .output, .list]

/-- How an option is written. -/
def flags : Switch → List String
  | .help => ["-h", "--help"]
  | .file => ["-f", "--file"]
  | .input => ["-i", "--input"]
  | .outputSymbol => ["--output-symbol"]
  | .param => ["-p", "--param"]
  | .output => ["-o", "--output"]
  | .list => ["--list"]

/-- Does an option take a value? -/
def takesValue : Switch → Bool
  | .help | .list => false
  | _ => true

/-- An option in a message. -/
def label (s : Switch) : String := "argument " ++ "/".intercalate s.flags

end Switch

/-- All ways to write options, in order. -/
def allFlags : List (String × Switch) :=
  Switch.all.flatMap fun s => s.flags.map fun flag => (flag, s)

/-- The option that is written so. -/
def switchOf? (flag : String) : Option Switch := allFlags.lookup flag

/-- The values of a command line.  An empty value is none. -/
structure Options where
  layer : String := ""
  files : List (Option String) := []
  inputs : Option (List (Option String)) := none
  outputSymbol : Option String := some "y"
  params : List (Option (String × Value)) := []
  output : Option String := none
  list : Bool := false

/-- Why reading a command line ended early. -/
inductive Halt where
  | help
  | usage (message : String)
  /-- Reading a value failed in a way that is no fault of the command line. -/
  | failed (f : Fault)

/-! ### Words -/

/-- A value in the same word as its option. -/
structure Attached where
  /-- Is it a long option? -/
  long : Bool
  text : String

/-- What a word of a command line is. -/
inductive Word where
  | positional (text : String)
  /-- The word after which no word is an option. -/
  | separator
  | option (switch : Switch) (attached : Option Attached)
  /-- A word that looks like an option. -/
  | unknown (text : String)

/-- Is a word a negative number? A line end may follow. -/
def isNegativeNumber (cs : List Char) : Bool :=
  match (if cs.getLast? == some '\n' then cs.dropLast else cs) with
  | '-' :: rest =>
    let whole := rest.takeWhile Text.isDecimalDigit
    match rest.dropWhile Text.isDecimalDigit with
    | [] => !whole.isEmpty
    | '.' :: places => !places.isEmpty && places.all Text.isDecimalDigit
    | _ => false
  | _ => false

/-- The options that a word may mean, with the values attached. -/
def candidates (word : List Char) : List (String × Switch × Option Attached) :=
  match word with
  | '-' :: '-' :: _ =>
    let (front, attached) : List Char × Option Attached := match splitAtEquals word with
      | some (front, value) => (front, some { long := true, text := String.ofList value })
      | none => (word, none)
    allFlags.filterMap fun (flag, s) =>
      if front.isPrefixOf flag.toList then some (flag, s, attached) else none
  | '-' :: c :: rest =>
    allFlags.filterMap fun (flag, s) =>
      if flag.toList = ['-', c] then some (flag, s, some ⟨false, String.ofList rest⟩) else none
  | _ => []

/-- The option that stands exactly before an equals sign. -/
def exactBeforeEquals? (word : List Char) : Option Word := do
  let (front, value) ← splitAtEquals word
  let s ← switchOf? (String.ofList front)
  return .option s (some ⟨['-', '-'].isPrefixOf front, String.ofList value⟩)

/-- What a word before a separator is. -/
def classifyWord (text : String) : Except Halt Word :=
  let word := text.toList
  if word.head? != some '-' then pure (.positional text)
  else match switchOf? text with
    | some s => pure (.option s none)
    | none =>
      if word.length = 1 then pure (.positional text)
      else match exactBeforeEquals? word with
        | some w => pure w
        | none => match candidates word with
          | [(_, s, attached)] => pure (.option s attached)
          | [] =>
            if isNegativeNumber word || word.contains ' ' then pure (.positional text)
            else pure (.unknown text)
          | several =>
            throw (.usage ("ambiguous option: " ++ text ++ " could match " ++
              ", ".intercalate (several.map (·.1))))

/-- What the words of a command line are. -/
def classify : List String → Except Halt (List Word)
  | [] => pure []
  | "--" :: rest => pure (.separator :: rest.map .positional)
  | text :: rest => do
    let w ← classifyWord text
    return w :: (← classify rest)

/-! ### Values -/

/-- What was read so far. -/
structure Progress where
  options : Options := {}
  /-- Was the layer given? -/
  named : Bool := false
  /-- Words that were not understood. -/
  extras : List String := []

/-- The error that an option lacks its value. -/
def valueMissing (s : Switch) : Halt := .usage (s.label ++ ": expected one argument")

/-- The error that an option takes no value. -/
def valueIgnored (s : Switch) (text : String) : Halt :=
  .usage (s.label ++ ": ignored explicit argument " ++ Text.quote text)

/-- Read the value of a parameter option.  Only values of the wrong type or content are the fault of
the command line. -/
def paramValue (text : String) : Except Halt (String × Value) :=
  match parseParam text with
  | .ok p => pure p
  | .error (.noAssignmentSign t) =>
    throw (.usage (Switch.param.label ++ ": " ++ (Fault.noAssignmentSign t).message))
  | .error f =>
    if f.kind = .typeMismatch ∨ f.kind = .badValue then
      throw (.usage (Switch.param.label ++ ": invalid parse_param value: " ++ Text.quote text))
    else throw (.failed f)

/-- Take the value of an option. -/
def takeValue (s : Switch) (text : String) (o : Options) : Except Halt Options :=
  let given : Option String := if text = "--" then none else some text
  match s with
  | .file => pure { o with files := o.files ++ [given] }
  | .input => pure { o with inputs := some (o.inputs.getD [] ++ [given]) }
  | .outputSymbol => pure { o with outputSymbol := given }
  | .param => do return { o with params := o.params ++ [← given.mapM paramValue] }
  | .output => pure { o with output := given }
  | .help | .list => throw (valueIgnored s text)

/-- Take an option without a value. -/
def takePlain (s : Switch) (o : Options) : Except Halt Options :=
  match s with
  | .help => throw .help
  | .list => pure { o with list := true }
  | s => throw (valueMissing s)

/-- Further short options behind one without a value: what is wrong with them, if anything is.  One
that takes a value ends them, and help is shown after them. -/
def bundled (next : List Word) : List Char → Option Halt
  | [] => none
  | c :: rest => match switchOf? (String.ofList ['-', c]), rest, next with
    | none, _, _ => some (valueIgnored .help (String.ofList (c :: rest)))
    | some s, [], .positional _ :: _ => if s.takesValue then none else bundled next rest
    | some s, [], _ => if s.takesValue then some (valueMissing s) else bundled next rest
    | some s, _, _ => if s.takesValue then none else bundled next rest

/-- Take an option with the value attached to it. -/
def takeAttached (s : Switch) (a : Attached) (next : List Word) (o : Options) :
    Except Halt Options :=
  if s.takesValue then takeValue s a.text o
  else if a.long || a.text = "" then throw (valueIgnored s a.text)
  else throw ((bundled next a.text.toList).getD .help)

/-! ### The line -/

/-- The layer, from the words after the last option. -/
def takeRest (p : Progress) (words : List Word) : Progress :=
  let texts (ws : List Word) : List String := ws.map fun
    | .positional t => t
    | .unknown t => t
    | .separator => "--"
    | .option .. => ""
  if p.named then { p with extras := p.extras ++ texts words }
  else match words with
    | .separator :: .positional t :: rest
    | .positional t :: .separator :: rest
    | .positional t :: rest =>
      { p with options.layer := t, named := true, extras := p.extras ++ texts rest }
    | rest => { p with extras := p.extras ++ texts rest }

/-- Is there an option among words? -/
def hasOption (words : List Word) : Bool :=
  words.any fun
    | .option .. | .unknown _ => true
    | _ => false

/-- Read words in order. -/
def readWords : List Word → Progress → Except Halt Progress
  | [], p => pure p
  | .option s (some a) :: rest, p => do
    let o ← takeAttached s a rest p.options
    readWords rest { p with options := o }
  | .option s none :: .positional t :: rest, p =>
    if s.takesValue then do
      let o ← takeValue s t p.options
      readWords rest { p with options := o }
    else do
      let o ← takePlain s p.options
      readWords (.positional t :: rest) { p with options := o }
  | .option s none :: rest, p => do
    let o ← takePlain s p.options
    readWords rest { p with options := o }
  | .unknown t :: rest, p => readWords rest { p with extras := p.extras ++ [t] }
  | .positional t :: rest, p =>
    if hasOption rest then
      if p.named then readWords rest { p with extras := p.extras ++ [t] }
      else readWords rest { p with options.layer := t, named := true }
    else pure (takeRest p (.positional t :: rest))
  | .separator :: rest, p => pure (takeRest p (.separator :: rest))

/-- Read a command line. -/
def parseOptions (words : List String) : Except Halt Options := do
  let p ← readWords (← classify words) {}
  if !p.named then throw (.usage "the following arguments are required: layer")
  if !p.extras.isEmpty then
    throw (.usage ("unrecognized arguments: " ++ " ".intercalate p.extras))
  return p.options

end Laminar.CommandLine
