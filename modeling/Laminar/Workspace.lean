import Laminar.Net.Basic
import Laminar.Script

/-!
# Workspaces

A workspace holds everything that a series of commands works on: registries, of which one is
current, the layer functions defined so far, the name tables of their sources, counters for minted
names, for objects and for sources of samples, and blocks kept for later.

**Counters.** There is a shared counter, and a workspace may have one of its own besides.  Commands
use their own one if there is one; calling a layer function directly always uses the shared one.

**Samples** come from outside.  A workspace that is given none has sources that yield zeros, so that
what it does can be repeated.

**Registries** have numbers, and number 0 is the default registry.  A layer function remembers the
registry it was registered in.

* `Workspace.define` runs a source text.
* `Workspace.callLayer`, `Workspace.generate`, `Workspace.compileLayer` use one layer function.
* `Workspace.compileCall`, `Workspace.compile`, `Workspace.net` compile in a registry.
* `Workspace.adopt` makes an object of a value from outside.
-/

namespace Laminar

/-- The standard layers as layer functions of the default registry. -/
def standardFunctions : List LayerFunction :=
  Standard.all.map fun d => { definition := d, registry := 0 }

/-- The first number of an object of a workspace: smaller ones are those of the standard layers. -/
def firstObject : Nat := 2

/-- Everything that a series of commands works on. -/
structure Workspace where
  registries : List Registry := [Registry.default]
  registryNames : Table RegistryId := Table.ofList [("main", 0)]
  current : RegistryId := 0
  /-- The name under which the current registry was chosen. -/
  currentName : String := "main"
  /-- The layer functions by number. -/
  functions : List LayerFunction := standardFunctions
  /-- The layer functions by name. -/
  layers : Table LayerId := Table.ofList (Standard.all.zipIdx.map fun (d, id) => (d.name, id))
  scopes : Scopes :=
    [Table.ofList initializerNames,
      Table.ofList (("layer", layerDecorator) :: initializerNames.drop 1)]
  counters : Counters := {}
  /-- The number of the next object. -/
  next : Nat := firstObject
  blocks : Table Node := Table.empty
  /-- What the sources of samples yield. -/
  samples : Samples := .zeros

/-- A command on a workspace.  What it did stays, also if it fails. -/
abbrev Command (α : Type) := ExceptT Failure (StateM Workspace) α

/-- The table of globals that sources of a workspace fill. -/
def sessionScope : ScopeId := 1

/-- How deep layers may be nested in each other. -/
def depthLimit : Nat := 1000

namespace Workspace

/-- The registry with a number. -/
def registry (w : Workspace) (id : RegistryId) : Registry := w.registries.getD id Table.empty

/-- The current registry. -/
def currentRegistry (w : Workspace) : Registry := w.registry w.current

/-- What a compilation in a registry looks names up in. -/
def library (w : Workspace) (id : RegistryId) : Library :=
  { registry := w.registry id, scopes := w.scopes, functions := w.functions, samples := w.samples }

/-- Replace the registry with a number. -/
def setRegistry (w : Workspace) (id : RegistryId) (r : Registry) : Workspace :=
  { w with registries := w.registries.set id r }

/-- A workspace whose current registry is a new one under the name `main`. -/
def withRegistry (r : Registry) : Workspace :=
  { registries := [Registry.default, r], registryNames := Table.ofList [("main", 1)], current := 1 }

/-! ### Objects -/

/-- A value that comes from outside, as an object. -/
def adopt (v : Value) : Command Value :=
  modifyGet fun w =>
    let (v, next) := v.labelled true w.next
    (v, { w with next })

/-- Named values that come from outside, as objects. -/
def adoptNamed (values : List (String × Value)) : Command (List (String × Value)) :=
  modifyGet fun w =>
    let (values, next) := labelledNamed true w.next values
    (values, { w with next })

/-- A tree with everything in it as objects. -/
def adoptNode (n : Node) : Command Node :=
  modifyGet fun w =>
    let (n, next) := n.labelled true w.next
    (n, { w with next })

/-! ### Registries -/

/-- Keep a new registry under a name.  If the name is that of the current registry, the new one
becomes the current one. -/
def addRegistry (name : String) (r : Registry) : Command Unit :=
  modify fun w =>
    let id := w.registries.length
    { w with
      registries := w.registries ++ [r]
      registryNames := w.registryNames.insert name id
      current := if name = w.currentName then id else w.current }

/-- Make the registry under a name the current one. -/
def useRegistry (name : String) : Command Unit := do
  match (← get).registryNames.get? name with
  | some id => modify fun w => { w with current := id, currentName := name }
  | none => throw (.fault (.missingKey (.str name)))

/-- Register a generator in the current registry. -/
def register (g : Generator) : Command Unit :=
  modify fun w => w.setRegistry w.current (w.currentRegistry.register g)

/-- Remove a name from the current registry, and give the generator that stood there. -/
def unregister (name : Value) : Command (Option Generator) := do
  let w ← get
  let found ← MonadExcept.ofExcept (liftFault (w.currentRegistry.lookup name))
  if let .str s := name.bare then
    set (w.setRegistry w.current (w.currentRegistry.erase s))
  return found

/-! ### Sources -/

/-- Run a source text; its layers go to the current registry.  The layers that were defined, and the
failure that ended the run early. -/
def define (text : String) (nested readable : Bool) :
    StateM Workspace (List Definition × Option Failure) := do
  let w ← get
  let start : Script :=
    { scopes := w.scopes, registry := w.currentRegistry, functions := w.functions, next := w.next,
      shared := w.counters.shared, sources := w.counters.sources }
  let (result, script) :=
    (runSource w.samples sessionScope w.current nested readable text).run start
  let defined : List (Definition × LayerId) := script.defined.filterMap fun id =>
    script.functions[id]?.map fun f => (f.definition, id)
  let layers := defined.foldl (fun t f => t.insert f.1.name f.2) w.layers
  set { w.setRegistry w.current script.registry with
    scopes := script.scopes
    functions := script.functions
    layers
    counters := { w.counters with shared := script.shared, sources := script.sources }
    next := script.next }
  return (defined.map Prod.fst, match result with
    | .ok _ => none
    | .error e => some e)

/-- The layer function with a name. -/
def layerFunction (name : String) : Command LayerFunction := do
  let w ← get
  match (w.layers.get? name).bind (w.functions[·]?) with
  | some f => return f
  | none => throw (.fault (.missingKey (.str name)))

/-- Set a global of the sources. -/
def setGlobal (name : String) (v : Value) : Command Unit := do
  let v ← adopt v
  modify fun w => { w with scopes := w.scopes.define sessionScope name v }

/-- The values that a layer takes from the source around it, sorted by name. -/
def closure (layer : String) : Command (List (String × Value)) := do
  let f ← layerFunction layer
  return (← get).scopes.closure f.definition.surroundings

/-- Set, or without a value unbind, a name that a layer takes from the source around it. -/
def setCell (layer name : String) (v : Option Value) : Command (List (String × Value)) := do
  let around := (← layerFunction layer).definition.surroundings
  match around.enclosing, around.free.contains name with
  | some id, true =>
    let v ← v.mapM adopt
    modify fun w => { w with scopes := match v with
      | some v => w.scopes.define id name v
      | none => w.scopes.forget id name }
    closure layer
  | _, _ => throw (.fault (.missingKey (.str name)))

/-! ### One layer function -/

/-- The block of a call of a layer, minting from the shared counter. -/
def callLayer (layer : String) (symbols : List Value) (params : List (String × Value)) :
    Command Node := do
  let f ← layerFunction layer
  let params ← adoptNamed params
  let w ← get
  let (result, after) := f.call w.scopes symbols params w.counters.shared
  set { w with counters := { w.counters with shared := after } }
  adoptNode (← MonadExcept.ofExcept result)

/-- The block of a call of a layer. -/
def generate (layer : String) (args : List Value) (output : Value)
    (params : List (String × Value)) : Command Node := do
  let d := (← layerFunction layer).definition
  let params ← adoptNamed params
  let w ← get
  let (result, after) :=
    d.generate (w.scopes.closure d.surroundings) args output params w.counters.current
  set { w with counters := w.counters.setCurrent after }
  adoptNode (← MonadExcept.ofExcept result)

/-! ### Compiling -/

/-- Compile with a registry, from the counters of the workspace. -/
def compileWith {α : Type} (id : RegistryId) (body : Library → Compile α) : Command α := do
  let w ← get
  let (result, after) := (body (w.library id)).run { counters := w.counters }
  set { w with counters := after.counters }
  MonadExcept.ofExcept result

/-- Compile a tree in the current registry. -/
def compile (n : Node) : Command Program := do
  let n ← adoptNode n
  compileWith (← get).current fun lib => Laminar.compile lib depthLimit n

/-- Compile a call in the current registry. -/
def compileCall (name inputs output : Value) (params : List (String × Value)) :
    Command Program := do
  let params ← adoptNamed params
  compileWith (← get).current fun lib => do
    let symbols ← MonadExcept.ofExcept (liftFault inputs.iterate)
    Laminar.compileCall lib depthLimit name symbols output params

/-- Compile a call of a layer function in the registry it belongs to. -/
def compileLayer (layer : String) (symbols : List Value) (params : List (String × Value)) :
    Command Program := do
  let f ← layerFunction layer
  let params ← adoptNamed params
  compileWith f.registry fun lib => f.compile lib depthLimit symbols params

/-- A net of a name in a registry. -/
def netIn (id : RegistryId) (name : String) (inputs : Option Value) (output : Value)
    (params : List (String × Value)) : Command Net := do
  let params ← adoptNamed params
  compileWith id fun lib => Net.build lib depthLimit name inputs output params

/-- A net of a name in the current registry. -/
def net (name : String) (inputs : Option Value) (output : Value)
    (params : List (String × Value)) : Command Net := do
  netIn (← get).current name inputs output params

/-- A net of a layer function, in the registry it belongs to, or in the current one if that is asked
for and the current one is not the default registry. -/
def netOf (layer : String) (inCurrent : Bool) (inputs : Option Value) (output : Value)
    (params : List (String × Value)) : Command Net := do
  let f ← layerFunction layer
  let current := (← get).current
  let id := if inCurrent && current != 0 then current else f.registry
  netIn id f.definition.name inputs output params

/-- The value of a node: of a deferred expression it is what the expression yields, and no other
node can be evaluated. -/
def evaluate (n : Node) : Command Value := do
  match ← adoptNode n with
  | .deferred _ e globals names _ =>
    let w ← get
    let start : EvalState :=
      { next := 0, shared := w.counters.shared, sources := w.counters.sources }
    let (result, after) := (evaluateIn w.samples w.functions w.scopes globals names e).run start
    set { w with counters := w.counters.after after }
    MonadExcept.ofExcept result
  | n => MonadExcept.ofExcept (liftFault ((Value.ofNode n).attribute "evaluate"))

/-! ### Minted names and blocks -/

/-- Mint a name. -/
def fresh (hint : String) : Command String := do
  let w ← get
  set { w with counters := w.counters.setCurrent (w.counters.current + 1) }
  if !intWritable w.counters.current then throw (.fault .digitLimit)
  return mint hint w.counters.current

/-- Set the counter. -/
def reset (start : Int) : Command Unit :=
  modify fun w => { w with counters := w.counters.setCurrent start }

/-- Keep a block under a name. -/
def store (name : String) (n : Node) : Command Unit :=
  modify fun w => { w with blocks := w.blocks.insert name n }

end Workspace

end Laminar
