import Laminar.Layer.Function
import Laminar.Registry

/-!
# One call

What a single call of a tree amounts to before anything is expanded further: its arguments are
evaluated, its callee is looked up, and the generator is invoked.

**Arguments.** A parameter block may stand only in front.  Its entries are pairs of a name and a
value, no name twice.  Every other argument is a symbol, which stands for its name, a constant, or a
deferred expression, which is evaluated here.

**Failures.** A fault inside a generator or a deferred expression becomes a diagnostic that names
the callee.  Only a callee or a keyword that cannot be looked up at all, because it has no hash,
fails as it is.

**Objects.** What comes into being while the arguments are evaluated is numbered from the first
number that is free in the call.  Primitives and constructors of the user's own are given values
without objects.

**Samples.** Initializers that are called while the arguments are evaluated draw from sources of
samples, which are part of what a compilation is given.

* `Library` is what a compilation looks names up in.
* `splitArguments` evaluates the arguments, `Generator.invoke` invokes a generator.
* `expandCall` is the whole step, and the counters after it.
-/

namespace Laminar

/-- What a compilation looks names up in, and draws samples from. -/
structure Library where
  registry : Registry
  scopes : Scopes
  /-- The layer functions by number. -/
  functions : List LayerFunction := []
  /-- What the sources of samples yield. -/
  samples : Samples

/-- What a generator makes of a call. -/
inductive Outcome where
  /-- A primitive yields one instruction. -/
  | instruction (i : Instruction)
  /-- A constructor of the user's own yields any value. -/
  | value (v : Value)
  /-- A layer yields a block that is expanded further. -/
  | block (n : Node)

/-- A problem with a callee as its context. -/
def Problem.calling (problem : Problem) (callee : Value) : Failure :=
  Diagnostic.failure { problem, callee := calleeContext callee }

/-! ### Arguments -/

/-- The value of a deferred expression in the arguments of a call. -/
def evaluateDeferred (lib : Library) (callee : Value) (text : String) (e : Source.Expr)
    (globals : ScopeId) (names : List (String × Value)) : Eval Value :=
  ExceptT.mk fun s =>
    match (evaluateIn lib.samples lib.functions lib.scopes globals names e).run s with
    | (.ok v, s) => (.ok v, s)
    | (.error e, s) =>
      (.error ((Problem.evaluationFailed callee text e.asFault.settled).calling callee), s)

/-- Fail with a problem of the arguments. -/
def refuseArgument {α : Type} (problem : Problem) : Eval α := throw problem.failure

/-- The value of a keyword. -/
def keywordValue (lib : Library) (callee : Value) : Node → Eval Value
  | .const v => pure v
  | .symbol name => pure name
  | .deferred text e globals names _ => evaluateDeferred lib callee text e globals names
  | n => refuseArgument (.badKeywordValue n)

/-- The keywords of a parameter block, after those known already. -/
def splitEntries (lib : Library) (callee : Value) :
    List Entry → List (Value × Value) → Eval (List (Value × Value))
  | [], known => pure known
  | .other n :: _, _ => refuseArgument (.badEntry n)
  | .keyword name value :: rest, known => do
    settle name.checkHashable
    if known.any (name.sameKey ·.1) then refuseArgument (.repeatedKeyword name)
    let v ← keywordValue lib callee value
    splitEntries lib callee rest (known ++ [(name, v)])

/-- The value of a positional argument. -/
def argumentValue (lib : Library) (callee : Value) (index : Nat) : Node → Eval Value
  | .symbol name => pure name
  | .const v => pure v
  | .deferred text e globals names _ => evaluateDeferred lib callee text e globals names
  | n => refuseArgument (.badArgument index n)

/-- The values of the positional arguments from an index on; no parameter block may follow. -/
def splitPositional (lib : Library) (callee : Value) : Nat → List Node → Eval (List Value)
  | _, [] => pure []
  | _, .parameters _ :: _ => refuseArgument .misplacedParameters
  | index, n :: rest => do
    let v ← argumentValue lib callee index n
    return v :: (← splitPositional lib callee (index + 1) rest)

/-- The keywords and the positional values of a call. -/
def splitArguments (lib : Library) (callee : Value) :
    List Node → Eval (List (Value × Value) × List Value)
  | .parameters entries :: rest => do
    let keywords ← splitEntries lib callee entries []
    return (keywords, ← splitPositional lib callee 1 rest)
  | args => do return ([], ← splitPositional lib callee 0 args)

/-! ### Generators -/

/-- Invoke a generator: what it makes of the call, and the counter of minted names after it. -/
def Generator.invoke (g : Generator) (scopes : Scopes) (args : List Value) (output : Value)
    (keywords : List (Value × Value)) (n : Int) : Except Failure Outcome × Int :=
  match g.body with
  | .abstract => (.error (.fault .notImplemented), n)
  | body =>
    match keywordTexts keywords with
    | .error f => (.error (.fault f), n)
    | .ok named =>
      let plain := unlabelledList (args ++ [output])
      let options := unlabelledNamed named
      match body with
      | .primitive p => ((p.instruction plain options).map .instruction, n)
      | .custom f => ((f plain options).map .value, n)
      | .composite d =>
        let (result, after) := d.generate (scopes.closure d.surroundings) args output named n
        (result.map .block, after)
      | .abstract => (.error (.fault .notImplemented), n)

/-- A fault inside a generator as a diagnostic about the call. -/
def blameCallee (callee : Value) : Failure → Failure
  | .fault f => (Problem.generatorFailed callee f.settled).calling callee
  | e => e

/-! ### The step -/

/-- The state in which the arguments of a call are evaluated. -/
def argumentState (args : List Node) (c : Counters) : EvalState :=
  { next := passingNodes 0 args, shared := c.shared, sources := c.sources }

/-- The counters after an evaluation. -/
def Counters.after (c : Counters) (s : EvalState) : Counters :=
  { c with shared := s.shared, sources := s.sources }

/-- An evaluation that changed nothing leaves the counters as they were. -/
@[simp]
theorem Counters.after_argumentState (c : Counters) (args : List Node) :
    c.after (argumentState args c) = c := rfl

/-- What a call amounts to, and the counters after it. -/
def expandCall (lib : Library) (callee : Value) (args : List Node) (output : Value)
    (c : Counters) : Except Failure Outcome × Counters :=
  let (split, s) := (splitArguments lib callee args).run (argumentState args c)
  let c := c.after s
  match split with
  | .error e => (.error e, c)
  | .ok (keywords, values) =>
    match lib.registry.lookup callee with
    | .error f => (.error (.fault f), c)
    | .ok none => (.error ((Problem.notRegistered callee).calling callee), c)
    | .ok (some g) =>
      let (result, after) := g.invoke lib.scopes values output keywords c.current
      (result.mapError (blameCallee callee), c.setCurrent after)

end Laminar
