import Laminar.Source.Encoding

/-!
# A tree of files

Files and directories below a working directory, as far as the command line reads and writes them.
A path is walked component by component from the working directory: `.` stays, `..` goes up, and
every component but the last must be a directory.  A component has at most 255 bytes, and no path
holds the character NUL.

* `FileTree.load` reads a source file; a source file has the ending `.py`.
* `FileTree.save` writes a file, after making the directories above it.
-/

namespace Laminar.CommandLine

/-- A place in the tree: the components below the working directory. -/
abbrev Place := List String

/-- Files with their texts, and directories, below a working directory. -/
structure FileTree where
  /-- The path of the working directory. -/
  root : String
  files : List (Place × String) := []
  directories : List Place := []

/-- What stands at a place. -/
inductive Found where
  | directory
  | file (text : String)
  | missing

/-- The path of a source file, seen from the working directory `root`. -/
def sourcePath (root path : String) : String :=
  if path.toList.head? == some '/' then path
  else if path = "" then root
  else root ++ "/" ++ String.ofList (path.toList.reverse.dropWhile (· == '/')).reverse

/-- Has a path the ending of source files? -/
def isSourcePath (path : String) : Bool := ".py".toList.isSuffixOf path.toList

/-- The components of a path. -/
def components (path : String) : List String := (path.splitOn "/").filter (· != "")

/-- The most bytes that a component may have. -/
def maxComponent : Nat := 255

/-- The most bytes that a path may have. -/
def maxPath : Nat := 4095

/-- Is a component too long? -/
def isTooLong (component : String) : Bool := maxComponent < component.utf8ByteSize

/-- Does a text hold the character NUL? -/
def hasNull (s : String) : Bool := s.toList.contains '\x00'

/-- Does a path end in a slash? -/
def endsInSlash (path : String) : Bool := path.toList.getLast? == some '/'

/-- Go one component on. -/
def Place.step (p : Place) (component : String) : Place :=
  if component = "." then p
  else if component = ".." then p.dropLast
  else p ++ [component]

namespace FileTree

/-- What stands at a place. -/
def find (t : FileTree) (p : Place) : Found :=
  match t.files.lookup p with
  | some text => .file text
  | none => if p.isEmpty || t.directories.contains p then .directory else .missing

/-- The full path of a place. -/
def fullPath (t : FileTree) (p : Place) : String := "/".intercalate (t.root :: p)

/-- Make the directories of a place that stands below the directory `above`. -/
def makeDirectories (t : FileTree) (above : Place) : Place → Except Fault FileTree
  | [] => match t.find above with
    | .file _ => throw (.fileExists (t.fullPath above))
    | _ => pure t
  | c :: rest =>
    let next := above ++ [c]
    if hasNull c then throw .nullInPath
    else match t.find above, t.find next with
      | .file _, _ => throw (.notDirectory (t.fullPath next))
      | _, .missing =>
        if isTooLong c then throw (.nameTooLong (t.fullPath next))
        else makeDirectories { t with directories := t.directories ++ [next] } next rest
      | _, _ => makeDirectories t next rest

/-- Walk a path from a place: the place it leads to, or the fault of a component on the way.
Messages show the path as `shown`. -/
def walk (t : FileTree) (shown : String) (p : Place) : List String → Except Fault Place
  | [] => pure p
  | c :: rest =>
    match t.find p with
    | .directory =>
      if isTooLong c then throw (.nameTooLong shown) else t.walk shown (p.step c) rest
    | .file _ => throw (.notDirectory shown)
    | .missing => throw (.fileMissing shown)

/-- The place that a path leads to. -/
def locate (t : FileTree) (shown path : String) : Except Fault Place :=
  if hasNull path then throw .nullInPath
  else if maxPath < shown.utf8ByteSize then throw (.nameTooLong shown)
  else t.walk shown [] (components path)

/-- Put a text at a place. -/
def put (t : FileTree) (p : Place) (text : String) : FileTree :=
  { t with files := t.files.filter (·.1 != p) ++ [(p, text)] }

/-- The text of a source file. -/
def load (t : FileTree) (path : String) : Except Fault String := do
  let full := sourcePath t.root path
  if !isSourcePath full then throw (.notLoadable path)
  let place ← t.locate full path
  match t.find place with
  | .file text => Source.decode ((components path).getLastD path) text.toUTF8.toList
  | .directory => throw (.fileIsDirectory full)
  | .missing => throw (.fileMissing full)

/-- Write a file, after making the directories above it. -/
def save (t : FileTree) (path text : String) : Except Fault FileTree := do
  let target : Place := (components path).foldl Place.step []
  let t ← t.makeDirectories [] target.dropLast
  let place ← t.locate path path
  match t.find place, endsInSlash path with
  | .directory, _ | .missing, true => throw (.fileIsDirectory path)
  | .file _, true => throw (.notDirectory path)
  | _, false => return t.put place text

/-- A tree that holds files at given paths. -/
def ofFiles (root : String) (files : List (String × String)) : FileTree :=
  files.foldl
    (fun t (path, text) =>
      let p := components path
      let above := (List.range p.length).map (p.take ·)
      { t.put p text with
        directories := t.directories ++ above.filter (!t.directories.contains ·) })
    { root }

/-- All files with their paths, sorted by path. -/
def listing (t : FileTree) : List (String × String) :=
  (t.files.map fun (p, text) => ("/".intercalate p, text)).mergeSort fun a b => !(b.1 < a.1)

end FileTree

end Laminar.CommandLine
