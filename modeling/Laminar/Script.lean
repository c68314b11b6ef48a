import Laminar.Layer.Function
import Laminar.Layer.Reading
import Laminar.Layer.Standard
import Laminar.Source.Reader

/-!
# Running layer source

A source text is run statement by statement: imports and assignments define names, and a function
under the decorator `layer` defines a layer, which is registered at once and leaves a function
behind.  What was done before a failure stays.

**Imports.** Only names that stand for values of layer source can be imported: the decorator, the
initializers, the primitives and the standard layers.  Generators of names, compilers and registries
are no such values, so neither a text nor an expression that a layer defers can refer to one.

**Where names live.** A text is either a module, whose names are globals that its layers see, or it
is nested, as the body of a function would be: then its names live in a table of their own, and a
layer takes from there the names that its body mentions.  In a nested text, a name that is assigned
anywhere is local everywhere, also before its assignment.

**Objects.** A text has a number of its own, by which its constants and its layers are told from
those of other texts.

* `Script` is the state of a run, `Setting` says where names live.
* `runSource` runs a text.
-/

namespace Laminar

open Source (Expr Statement)

/-- What running source changes. -/
structure Script where
  scopes : Scopes
  registry : Registry
  /-- The layer functions by number. -/
  functions : List LayerFunction
  /-- The number of the next object. -/
  next : Nat
  /-- The shared counter of minted names. -/
  shared : Int
  /-- How many sources of samples have been made. -/
  sources : Nat
  /-- The layers defined so far, in order, as numbers of their functions. -/
  defined : List LayerId := []

/-- Where the names of a text live, and what its expressions draw samples from. -/
structure Setting where
  /-- The table of globals. -/
  globals : ScopeId
  /-- The registry in which layers are registered. -/
  registry : RegistryId
  /-- The number of the text. -/
  source : Nat
  /-- The table of a nested text. -/
  nested : Option ScopeId := none
  /-- The names that a nested text assigns somewhere. -/
  locals : List String := []
  /-- Can the text of a function be read? -/
  readable : Bool := true
  /-- What the sources of samples yield. -/
  samples : Samples

/-- A step of a run.  What it did stays, also if it fails. -/
abbrev Run (α : Type) := ExceptT Failure (StateM Script) α

/-- The decorator that defines layers, as a value. -/
def layerDecorator : Value := .builtin "layer"

/-- The names of the initializer classes. -/
def initializerNames : List (String × Value) :=
  InitClass.all.map fun c => (c.name, .initClass c)

/-- What a name stands for where a text stands. -/
def Setting.lookUp (s : Setting) (scopes : Scopes) (name : String) : Except Fault Value :=
  let outer := Laminar.lookUp [] (scopes.table s.globals).entries name
  match s.nested with
  | none => outer
  | some id =>
    if s.locals.contains name then
      match (scopes.table id).get? name with
      | some v => pure v
      | none => throw (.unboundLocal name)
    else outer

/-- What expressions of a text look up. -/
def Setting.environment (s : Setting) (state : Script) : Environment :=
  { lookup := s.lookUp state.scopes
    constants := .constant true s.source
    lasting := true
    layer := callNumbered state.functions state.scopes
    samples := s.samples }

/-- An evaluation where the text stands. -/
def evaluateWith {α : Type} (s : Setting) (m : Environment → Eval α) : Run α :=
  ExceptT.mk fun state =>
    let start : EvalState :=
      { next := state.next, shared := state.shared, sources := state.sources }
    let (result, after) := (m (s.environment state)).run start
    (result, { state with next := after.next, shared := after.shared, sources := after.sources })

/-- The value of an expression where the text stands. -/
def evaluateHere (s : Setting) (e : Expr) : Run Value := evaluateWith s (evalExpr · e)

/-- Define a name where the text stands. -/
def defineHere (s : Setting) (name : String) (v : Value) : Run Unit :=
  modify fun state => { state with scopes := state.scopes.define (s.nested.getD s.globals) name v }

/-! ### Names of a nested text -/

/-- The name under which an import is known. -/
def importedAs (i : String × Option String) : String := i.2.getD i.1

/-- The names that a statement defines. -/
def definedNames : Statement → List String
  | .assign _ targets _ => targets.filterMap fun
    | .name id => some id
    | _ => none
  | .function _ _ _ name _ _ => [name]
  | .importNames _ _ names => names.map importedAs
  | .importModules _ names => names.map importedAs
  | _ => []

/-- The names that the body of a function mentions. -/
def mentionedNames (body : List Statement) : List String :=
  body.flatMap fun
    | .assign _ _ value => value.names
    | _ => []

/-- The names that the body of a function takes from a nested text, sorted. -/
def freeNames (s : Setting) (formals : List String) (body : List Statement) : List String :=
  let own := formals ++ body.flatMap definedNames
  let free := (mentionedNames body).filter fun n => s.locals.contains n && !own.contains n
  free.eraseDups.mergeSort fun a b => !(b < a)

/-! ### Functions -/

/-- The formals of a function with their defaults evaluated: those given by position or name first,
then those given by name only. -/
def evaluateFormals (s : Setting) (params : List Source.Parameter) : Run (List FunctionFormal) := do
  let value (p : Source.Parameter) : Run FunctionFormal := do
    let default ← match p.default with
      | none => pure none
      | some e => do pure (some (← evaluateHere s e))
    return { name := p.name, kind := p.kind, default }
  params.mapM value

/-- The name that the decorator gives a layer, if it does. -/
def decoratedName (args : List Value) (keywords : List (Value × Value)) :
    Except Fault (Option String) := do
  let texts ← keywordTexts keywords
  let bound ← Constructor.bind
    { name := "layer", formals := [⟨"fn", some .null⟩, ⟨"name", some .null⟩] } args texts
  match (bound.values.getD 1 .null).bare with
  | .str name => return if name = "" then none else some name
  | _ => return none

/-- What a decorator asks for: the name of the layer, or nothing if it gives none. -/
def readDecorator (s : Setting) : Expr → Run (Option String)
  | .call _ callee args keywords => evaluateWith s fun env => do
    let f ← evalExpr env callee
    let positional ← evalArguments env args
    let named ← evalKeywords env f keywords [] []
    if f.eq layerDecorator then settle (decoratedName positional named)
    else
      let _ ← env.call f positional named
      return none
  | e => do
    let f ← evaluateHere s e
    if f.eq layerDecorator then return none
    throw (.fault (.notCallable f.operandType))

/-- Where a layer stands. -/
def Setting.surroundings (s : Setting) (formals : List String) (body : List Statement) :
    Surroundings :=
  match s.nested with
  | none => { globals := s.globals }
  | some id => { globals := s.globals, enclosing := some id, free := freeNames s formals body }

/-- Define and register a layer, and leave its function behind. -/
def defineLayer (s : Setting) (layer : String) (plain : Bool) (f : FunctionSource) : Run Value := do
  let around := s.surroundings (f.formals.map (·.name)) f.body
  let checked : Except Failure Definition := do
    checkFormalNames f.formals
    let signature ← readSignature layer f.formals
    if !s.readable then
      refuse layer none (.sourceUnreadable .sourceUnavailable)
    if !plain then refuse layer none .notPlainFunction
    Definition.readBody layer signature f.line f.body around (.layers s.source)
  let d ← MonadExcept.ofExcept checked
  let state ← get
  let (d, next) := d.labelled state.next
  let id := state.functions.length
  set { state with
    registry := state.registry.registerLayer d
    functions := state.functions ++ [LayerFunction.mk d s.registry]
    defined := state.defined ++ [id]
    next }
  return .layer layer id

/-! ### Statements -/

/-- The names of a module that stand for values of layer source.  The modules hold more: classes of
operators, nodes and diagnostics, nets, registries, compilers and generators of names. -/
def importable : String → List (String × Value)
  | "knet" => [("layer", layerDecorator)]
  | "knet.layer" => [("layer", layerDecorator)]
  | "knet.initializers" => initializerNames
  | "knet.ops" => Primitive.all.map fun p => (p.name, .builtin p.name)
  | "knet.layers" => Standard.all.zipIdx.map fun (d, id) => (d.name, .layer d.name id)
  | _ => []

/-- The failure of an import.  Only the module of the initializers is known in full; a name that
another one may hold is left out, and importing it fails as not implemented. -/
def importFault (module name : String) : Fault :=
  if module = "knet.initializers" then
    .raised .importFailed ("cannot import name '" ++ name ++ "' from '" ++ module ++ "'")
  else .notImplemented

/-- Import names; a star imports all of them. -/
def runImport (s : Setting) (module : String) : List (String × Option String) → Run Unit
  | [] => pure ()
  | [("*", none)] => (importable module).forM fun (name, v) => defineHere s name v
  | i :: rest => do
    match (importable module).lookup i.1 with
    | some v => defineHere s (importedAs i) v
    | none => throw (.fault (importFault module i.1))
    runImport s module rest

/-- The body of a function. -/
def functionBody : Statement → List Statement
  | .function _ _ _ _ _ body => body
  | _ => []

/-- Run a statement.  A layer is read from `body`, the body of the function as it is read back. -/
def runStatement (s : Setting) (body : List Statement) : Statement → Run Unit
  | .importNames _ module names => runImport s module names
  | .assign _ targets (.call line (.name f) [.mk _ (.lambda params body)] keywords) => do
    let name ← readDecorator s (.call line (.name f) [] keywords)
    let formals ← evaluateFormals s params
    let body := [Statement.expression line body]
    let v ← defineLayer s (name.getD "<lambda>") false { formals, line, body }
    targets.forM fun
      | .name id => defineHere s id v
      | _ => pure ()
  | .assign _ targets value => do
    let v ← evaluateHere s value
    targets.forM fun
      | .name id => defineHere s id v
      | _ => pure ()
  | .expression _ value => do
    let _ ← evaluateHere s value
  | .function line isAsync decorators name params _ => do
    match decorators with
    | [] => pure ()
    | decorator :: _ =>
      let given ← readDecorator s decorator
      let formals ← evaluateFormals s params
      let v ← defineLayer s (given.getD name) (!isAsync) { formals, line, body }
      defineHere s name v
  | _ => pure ()

/-- Run statements in order, each with the body of the function it is. -/
def runStatements (s : Setting) : List (Statement × List Statement) → Run Unit
  | [] => pure ()
  | (statement, body) :: rest => do
    runStatement s body statement
    runStatements s rest

/-- The statements of a text, each with the body of the function it is.  That is read from the text
without the blanks of lines that hold nothing else, which may stand inside a text literal. -/
def readScript (text : String) : Option (List (Statement × List Statement)) := do
  let statements ← Source.readStatements text
  let readBack ← Source.readStatements (Source.withoutBlankLines text)
  some (statements.zip (readBack.map functionBody))

/-- Run a text, which gets the next number.  A nested text gets a table of its own. -/
def runSource (samples : Samples) (globals : ScopeId) (registry : RegistryId)
    (nested readable : Bool) (text : String) : Run Unit := do
  let source := (← get).next
  modify fun state => { state with next := source + 1 }
  match readScript text with
  | none => throw (.fault (.raised (.other "SyntaxError") "invalid syntax"))
  | some statements =>
    if nested then
      let id := (← get).scopes.length
      modify fun state => { state with scopes := state.scopes ++ [Table.empty] }
      runStatements
        { globals, registry, source, nested := some id,
          locals := statements.flatMap fun s => definedNames s.1, readable, samples }
        statements
    else runStatements { globals, registry, source, readable, samples } statements

end Laminar
