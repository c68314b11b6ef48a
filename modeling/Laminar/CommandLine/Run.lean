import Laminar.CommandLine.FileTree
import Laminar.CommandLine.Options
import Laminar.Workspace

/-!
# Running a command line

A command line names a layer.  Source files are run first, then the layer is compiled and assembled,
and its listing is printed or saved.  Alternatively the registered names are listed.

**Files.** What a source file holds comes from outside, as a function of its path, and saving is
left to the outside: the run says what is to be saved and what to print afterwards.  The sources of
samples come from outside too.  So a run is a function.

* `Report` is what a run printed and how it ended.
* `execute` runs options, `run` a whole command line.
* `runIn` runs a command line in a tree of files, saving included, with samples that are zeros.
-/

namespace Laminar.CommandLine

/-- The help text. -/
def helpText : String := "\n".intercalate [
  "usage: knetc [-h] [-f FILE] [-i INPUTS] [--output-symbol OUTPUT_SYMBOL]",
  "             [-p PARAM] [-o OUTPUT] [--list]",
  "             layer",
  "",
  "knet layer compiler",
  "",
  "positional arguments:",
  "  layer                 Name of the layer to compile",
  "",
  "options:",
  "  -h, --help            show this help message and exit",
  "  -f FILE, --file FILE  Python file with @layer definitions (repeatable)",
  "  -i INPUTS, --input INPUTS",
  "                        Net input symbol (repeatable, default: x)",
  "  --output-symbol OUTPUT_SYMBOL",
  "                        Net output symbol",
  "  -p PARAM, --param PARAM",
  "                        Layer keyword parameter NAME=VALUE (repeatable)",
  "  -o OUTPUT, --output OUTPUT",
  "                        Write the listing here instead of stdout",
  "  --list                List registered layers and exit",
  ""]

/-- How a run ends.  A run by `runIn` never ends with a file to be saved. -/
inductive Ending where
  | exit (code : Nat)
  /-- The command line was not understood. -/
  | usage (message : String)
  /-- Help was shown. -/
  | help
  /-- A file is to be saved; then the last line is printed and the run ends well. -/
  | save (path text lastLine : String)
  | failed (f : Fault)

/-- What a run printed, and how it ended. -/
structure Report where
  printed : String
  ending : Ending

/-- Lines as text. -/
def linesText (lines : List String) : String := String.join (lines.map (· ++ "\n"))

/-- Run the source files in order, each with globals of its own, until one fails. -/
def loadFiles (samples : Samples) (load : String → Except Fault String) :
    List (Option String) → Script → Except String Script
  | [], s => pure s
  | none :: _, _ => throw ("Error loading []: " ++ (Fault.notPath "list").message)
  | some path :: rest, s =>
    let loading (text : String) : String := "Error loading " ++ path ++ ": " ++ text
    match load path with
    | .error f => throw (loading f.message)
    | .ok text =>
      let globals := s.scopes.length
      let start := { s with scopes := s.scopes ++ [Table.empty] }
      match (runSource samples globals 0 false true text).run start with
      | (.ok _, s) => loadFiles samples load rest s
      | (.error (.diagnostic d), _) => throw ("Error in layer definition: " ++ d.text)
      | (.error e, _) => throw (loading e.text)

/-- The registered names with their kinds. -/
def registryLines (r : Registry) : List String :=
  r.entries.map fun (name, g) => padded name ++ " " ++ g.kind?.getD "None"

/-- Values that are all there. -/
def allGiven {α : Type} (index : Nat) : List (Option α) → Except Fault (List α)
  | [] => pure []
  | none :: _ => throw (.updateItem index 0)
  | some a :: rest => do return a :: (← allGiven (index + 1) rest)

/-- The parameters of a command line; a later value replaces an earlier one in its place. -/
def Options.parameters (o : Options) : Except Fault (List (String × Value)) := do
  return (Table.ofList (← allGiven 0 o.params)).entries

/-- A symbol of a command line; an empty value is an empty list. -/
def symbolValue : Option String → Value
  | some s => .str s
  | none => .list []

/-- Compile and print the layer of a command line, after the source files were run. -/
def buildNet (samples : Samples) (o : Options) (s : Script) : Report :=
  let lib : Library :=
    { registry := s.registry, scopes := s.scopes, functions := s.functions, samples }
  let first := "Compiling " ++ o.layer ++ "..."
  let inputs := o.inputs.map fun names => Value.list (names.map symbolValue)
  let build : Compile Net := do
    let params ← MonadExcept.ofExcept (liftFault o.parameters)
    Net.build lib depthLimit o.layer inputs (symbolValue o.outputSymbol)
      (labelledNamed true s.next params).1
  match build.run { counters := { shared := s.shared, sources := s.sources } } with
  | (.error (.diagnostic d), _) =>
    { printed := linesText [first, "Error: " ++ d.text], ending := .exit 1 }
  | (.error e, _) =>
    { printed := linesText [first, "Error during build of " ++ o.layer ++ ": " ++ e.text]
      ending := .exit 1 }
  | (.ok net, _) =>
    match net.assembly.listing with
    | .error f => { printed := linesText [first], ending := .failed f }
    | .ok lines =>
      let summary := "Generated " ++ toString net.program.length ++ " instructions, " ++
        toString net.registers ++ " registers."
      match o.output with
      | none | some "" =>
        { printed := linesText (first :: summary :: lines), ending := .exit 0 }
      | some path =>
        { printed := linesText [first, summary]
          ending := .save path (linesText lines) ("Listing saved to " ++ path ++ "\n") }

/-- Run options, given the sources of samples and what source files hold. -/
def execute (samples : Samples) (load : String → Except Fault String) (o : Options) : Report :=
  let start : Script :=
    { scopes := [Table.ofList initializerNames], registry := Registry.default,
      functions := standardFunctions, next := firstObject, shared := 0, sources := 0 }
  match loadFiles samples load o.files start with
  | .error message => { printed := linesText [message], ending := .exit 1 }
  | .ok s =>
    if o.list then { printed := linesText (registryLines s.registry), ending := .exit 0 }
    else buildNet samples o s

/-- Run a command line, given the sources of samples and what source files hold. -/
def run (samples : Samples) (load : String → Except Fault String) (words : List String) : Report :=
  match parseOptions words with
  | .error .help => { printed := helpText, ending := .help }
  | .error (.usage message) => { printed := "", ending := .usage ("knetc: error: " ++ message) }
  | .error (.failed f) => { printed := "", ending := .failed f }
  | .ok o => execute samples load o

/-- Run a command line in a tree of files, with samples that are zeros.  A run that was to save a
file ends well if it could. -/
def runIn (t : FileTree) (words : List String) : Report × FileTree :=
  let report := run .zeros t.load words
  match report.ending with
  | .save path text lastLine =>
    match t.save path text with
    | .ok t => ({ printed := report.printed ++ lastLine, ending := .exit 0 }, t)
    | .error f => ({ report with ending := .failed f }, t)
  | _ => (report, t)

end Laminar.CommandLine
