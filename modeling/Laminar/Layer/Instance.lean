import Laminar.Instruction
import Laminar.Layer.Template
import Laminar.Symbol
import Laminar.Value.Identity

/-!
# Instances of a layer

A call of a layer binds its formals and yields a copy of the body in which every name is replaced:
inputs and the output by the registers given, the other locals by freshly minted names, parameters
by their values.  Deferred expressions are not evaluated; they take along the values of the
parameters and of the names around the layer, as they are at this moment.

* `Definition.bindCall` binds and checks the values of a call.
* `Definition.instantiate` fills the body in.
* `Definition.generate` does both, and advances the counter of minted names by the number of inner
  locals once the call is bound.  It stops at a number that no name can be made of.
-/

namespace Laminar

/-- What the names in a body stand for. -/
structure Actuals where
  /-- The value of every formal and the register of every local. -/
  values : List (String × Value)
  /-- The collected keywords. -/
  collected : List (String × Value)
  /-- The names that a deferred expression takes along. -/
  visible : List (String × Value)

/-- The value a name stands for. -/
def Actuals.get (a : Actuals) (name : String) : Except Failure Value :=
  match a.values.lookup name with
  | some v => pure v
  | none => throw (.fault (.missingKey (.str name)))

namespace Definition

/-! ### Filling in -/

/-- Fill a term in. -/
def fillTerm (globals : ScopeId) (a : Actuals) : Term → Except Failure Node
  | .symbol name => do return .symbol (← a.get name)
  | .parameter name => do return .const (← a.get name)
  | .literal value => pure (.const value)
  | .deferred text expr => pure (.deferred text expr globals a.visible .new)

/-- Fill a callee in: a parameter must be bound to a text. -/
def fillCallee (a : Actuals) : CalleeTerm → Except Failure Value
  | .fixed name => pure (.str name)
  | .parameter name => do
    let v ← a.get name
    match v.bare with
    | .str s => return .str s
    | _ => throw (Problem.calleeNotText v).failure

/-- Fill keywords in; collected ones stand where they are handed on. -/
def fillKeywords (globals : ScopeId) (a : Actuals) :
    List KeywordTerm → Except Failure (List Entry)
  | [] => pure []
  | .named name value :: rest => do
    let node ← fillTerm globals a value
    return .keyword (.str name) node :: (← fillKeywords globals a rest)
  | .forward :: rest => do
    let here := a.collected.map fun k => Entry.keyword (.str k.1) (.const k.2)
    return here ++ (← fillKeywords globals a rest)

/-- Fill positional arguments in. -/
def fillTerms (globals : ScopeId) (a : Actuals) : List Term → Except Failure (List Node)
  | [] => pure []
  | t :: rest => do
    let node ← fillTerm globals a t
    return node :: (← fillTerms globals a rest)

/-- Fill a call in. -/
def fillCall (globals : ScopeId) (a : Actuals) (c : CallTerm) : Except Failure Node := do
  let callee ← fillCallee a c.callee
  let entries ← fillKeywords globals a c.keywords
  let args ← fillTerms globals a c.args
  return .call callee (withParameters c.keywords entries args)

/-- Fill statements in. -/
def fillBody (file : SourceFile) (globals : ScopeId) (a : Actuals) :
    List BodyStatement → Except Failure (List Node)
  | [] => pure []
  | s :: rest => do
    let target ← a.get s.target
    let call ← fillCall globals a s.call
    return .line s.line file :: .assign (.symbol target) call ::
      (← fillBody file globals a rest)

/-! ### Binding -/

/-- The inputs of a layer must be bound to texts. -/
def checkInputs (layer : String) (b : Binding) : List String → Except Failure Unit
  | [] => pure ()
  | input :: rest => do
    match b.get? input with
    | none => throw (.fault (.missingKey (.str input)))
    | some v =>
      let _ ← (checkSymbol ("input '" ++ input ++ "' of " ++ layer) v).mapError Problem.failure
      checkInputs layer b rest

/-- Bind a call and check that its registers are texts. -/
def bindCall (d : Definition) (args : List Value) (output : Value)
    (keywords : List (String × Value)) : Except Failure (Binding × String) := do
  let b ← liftFault (d.signature.bind args keywords)
  checkInputs d.name b d.signature.inputs
  let out ← (checkSymbol ("output of " ++ d.name) output).mapError Problem.failure
  return (b, out)

/-- The collected keywords as an object, which is made by the call. -/
def collectedValue (b : Binding) : Value :=
  let number := passingNamed (passingNamed 0 b.values) b.collected
  .kept (.object false number) (.dict (b.collected.map fun k => (.kept .word (.str k.1), k.2)))

/-- The collected keywords, under the name of the collector. -/
def collectorEntry (d : Definition) (b : Binding) : List (String × Value) :=
  match d.signature.collector with
  | none => []
  | some name => [(name, collectedValue b)]

/-- What the names of a layer stand for in a call.  The numbers of the minted names start at `n`. -/
def actuals (d : Definition) (b : Binding) (closure : List (String × Value)) (output : String)
    (n : Int) : Actuals :=
  let registers := d.innerLocals.zip (mintAll d.innerLocals n).1 ++ [(d.output, output)]
  let params := d.signature.parameterNames.filterMap fun p => (b.get? p).map fun v => (p, v)
  { values := registers.map (fun r => (r.1, .str r.2)) ++ b.values ++ d.collectorEntry b
    collected := b.collected
    visible := closure ++ params ++ d.collectorEntry b }

/-- A copy of the body for a bound call. -/
def instantiate (d : Definition) (b : Binding) (closure : List (String × Value)) (output : String)
    (n : Int) : Except Failure Node := do
  let statements ← fillBody d.file d.surroundings.globals (d.actuals b closure output n) d.body
  return .block statements

/-- The block of a call, and the counter after it. -/
def generate (d : Definition) (closure : List (String × Value)) (args : List Value) (output : Value)
    (keywords : List (String × Value)) (n : Int) : Except Failure Node × Int :=
  match d.bindCall args output keywords with
  | .error e => (.error e, n)
  | .ok (b, out) =>
    match firstUnwritable d.inner.length n with
    | some number => (.error (.fault .digitLimit), number + 1)
    | none => (d.instantiate b closure out n, n + d.inner.length)

end Definition

end Laminar
