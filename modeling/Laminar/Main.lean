import Laminar.CommandLine.Run

/-!
# The command

Reads the source files that a command line names, runs it with samples of its own, prints what it
printed and saves what is to be saved.  Everything else is decided by `CommandLine.execute`.
-/

namespace Laminar.CommandLine

/-- The fault of an operation on a file. -/
def faultOfError (path : String) : IO.Error → Fault
  | .noFileOrDirectory .. => .fileMissing path
  | .alreadyExists .. => .fileExists path
  | .inappropriateType .. => .notDirectory path
  | e => .raised .system (toString e)

/-- Read a source file below the working directory. -/
def readSource (root path : String) : IO (Except Fault String) := do
  let full := sourcePath root path
  if !isSourcePath full then return .error (.notLoadable path)
  if hasNull path then return .error .nullInPath
  try
    return Source.decode ((components path).getLastD path) (← IO.FS.readBinFile full).toList
  catch e =>
    return .error (faultOfError full e)

/-- Read all source files. -/
def readSources (root : String) (paths : List String) :
    IO (String → Except Fault String) := do
  let texts ← paths.mapM fun path => do return (path, ← readSource root path)
  return fun path => (texts.lookup path).getD (.error (.notLoadable path))

/-- Save a text, after making the directories above it. -/
def saveText (path text : String) : IO Unit := do
  let above := "/".intercalate (path.splitOn "/").dropLast
  if above != "" then IO.FS.createDirAll above
  IO.FS.writeFile path text

/-- Sources of samples from a seed.  A sample is made of two unit samples, of which a uniform draw
uses one and a normal draw both. -/
def samplesOfSeed (seed : Nat) : Samples := fun source d i =>
  let start := mkStdGen ((seed + source) * 1000003 + i)
  let (first, g) := randNat start 0 0xfffffffe
  let (second, _) := randNat g 0 0xffffffff
  let unit (n : Nat) : Float := n.toFloat / 4294967296.0
  match d.distribution with
  | .uniform => d.sample (unit first)
  | .normal =>
    let radius := Float.sqrt (-2.0 * Float.log (1.0 - unit first))
    d.sample (radius * Float.cos (6.283185307179586 * unit second))

/-- Act on the end of a run; gives the exit code. -/
def finish : Ending → IO UInt32
  | .exit code => return code.toUInt32
  | .help => return 0
  | .usage message => do
    IO.eprintln message
    return 2
  | .save path text lastLine => do
    saveText path text
    IO.print lastLine
    return 0
  | .failed f => do
    IO.eprintln f.line
    return 1

end Laminar.CommandLine

open Laminar.CommandLine in
/-- Run the command. -/
def main (words : List String) : IO UInt32 := do
  let root := (← IO.currentDir).toString
  let files := match parseOptions words with
    | .ok o => o.files.filterMap id
    | .error _ => []
  let load ← readSources root files
  let samples := samplesOfSeed (← IO.rand 0 0xffffffff)
  let report := run samples load words
  IO.print report.printed
  finish report.ending
