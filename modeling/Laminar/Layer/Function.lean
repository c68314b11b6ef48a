import Laminar.Eval
import Laminar.Layer.Instance
import Laminar.Scope

/-!
# Layer functions

A layer definition leaves a function behind.  Called with symbols, of which the last is the output,
and with parameters, it yields the block of a call of the layer.  Expressions refer to functions by
their numbers.

**Deferred expressions** may call layer functions, so this is where they are evaluated: in the names
they took along, then in the table of globals they see.

* `LayerFunction.call` calls a function, minting from a counter.
* `evaluateIn` evaluates a deferred expression.
-/

namespace Laminar

/-- The number of a registry. -/
abbrev RegistryId := Nat

/-- A layer function: its definition and the registry it belongs to. -/
structure LayerFunction where
  definition : Definition
  registry : RegistryId

/-- The symbols of a call split into inputs and output. -/
def splitSymbols (missing : Fault) (symbols : List Value) : Except Failure (List Value × Value) :=
  match symbols.getLast? with
  | none => .error (.fault missing)
  | some output => .ok (symbols.dropLast, output)

/-- The object that is called is the first positional value, under the name `self`. -/
def checkSelf (function : String) (params : List (String × Value)) : Except Failure Unit :=
  if params.any (·.1 == "self") then .error (.fault (.repeatedArgument function "self")) else .ok ()

/-- The inputs and the output of a call of a layer function. -/
def LayerFunction.symbols (f : LayerFunction) (symbols : List Value)
    (params : List (String × Value)) : Except Failure (List Value × Value) := do
  checkSelf "LayerFunction.__call__" params
  splitSymbols (.needsOutput f.definition.name) symbols

/-- The block of a call of a layer function, and the counter of minted names after it. -/
def LayerFunction.call (f : LayerFunction) (scopes : Scopes) (symbols : List Value)
    (params : List (String × Value)) (n : Int) : Except Failure Node × Int :=
  match f.symbols symbols params with
  | .error e => (.error e, n)
  | .ok (inputs, output) =>
    let d := f.definition
    d.generate (scopes.closure d.surroundings) inputs output params n

/-- How expressions call the layer functions with numbers. -/
def callNumbered (functions : List LayerFunction) (scopes : Scopes) : LayerCall :=
  fun id symbols params n =>
    match functions[id]? with
    | some f => f.call scopes symbols params n
    | none => (.error (.fault .notImplemented), n)

/-- The value of a deferred expression, given the sources of samples, the table of globals it sees
and the names it took along. -/
def evaluateIn (samples : Samples) (functions : List LayerFunction) (scopes : Scopes)
    (globals : ScopeId) (names : List (String × Value)) (e : Source.Expr) : Eval Value := do
  let s ← get
  let (names, next) := labelledNamed false (s.next + 1) names
  set { s with next }
  evalExpr
    { lookup := lookUp names (scopes.table globals).entries
      constants := .constant false s.next
      lasting := false
      layer := callNumbered functions scopes
      samples }
    e

end Laminar
