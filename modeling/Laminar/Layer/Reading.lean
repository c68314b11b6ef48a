import Laminar.Diagnostic
import Laminar.Layer.Template
import Laminar.Source.Printer
import Laminar.Source.Token
import Laminar.Source.Writable

/-!
# Reading a layer definition

A function of layer source defines a layer when its body is a sequence of assignments of calls to
names.  The body is never run: it is read as a `Definition`.

**Phases.** A definition is refused by the first phase that finds something wrong:

1. the formals: positional values cannot be collected;
2. the shape of every statement, in order: after a leading text and apart from `pass`, each is an
   assignment of a call to one name;
3. there is at least one assignment;
4. the targets, in order: none is a formal, none is bound twice;
5. the calls, in order: the callee, then the keywords, then the positional arguments.

* `Definition.read` reads a definition.
-/

namespace Laminar

open Source (Expr Statement ParameterKind)

/-- A formal parameter of a function with the value of its default. -/
structure FunctionFormal where
  name : String
  kind : ParameterKind
  default : Option Value := none

/-- A function of layer source whose defaults are evaluated. -/
structure FunctionSource where
  formals : List FunctionFormal
  /-- The line of the header. -/
  line : Nat
  body : List Statement

/-! ### Refusals -/

/-- Refuse a definition, at a line if one is to blame. -/
def refuse {α : Type} (layer : String) (line : Option Nat) (problem : Problem) : Except Failure α :=
  throw (.diagnostic (problem.within layer line))

/-- The text of an expression, if it has one. -/
def Source.Expr.written (e : Expr) : Except Failure String :=
  if e.writable then pure e.text else throw (.fault .digitLimit)

/-- The text of a statement, if it has one. -/
def Source.Statement.written (s : Statement) : Except Failure String :=
  if s.writable then pure s.text else throw (.fault .digitLimit)

/-! ### Formals -/

/-- A formal that can be given by name must not have the name of a reserved word, which a name may
have in another spelling. -/
def checkFormalNames : List FunctionFormal → Except Failure Unit
  | [] => pure ()
  | f :: rest =>
    if f.kind ≠ .positional ∧ f.name ∈ Source.reserved then throw (.fault (.formalName f.name))
    else checkFormalNames rest

/-- The formals of a function as the formals of a layer. -/
def readSignature (layer : String) : List FunctionFormal → Except Failure Signature
  | [] => pure { formals := [] }
  | f :: rest =>
    match f.kind with
    | .rest => refuse layer none (.restParameter f.name)
    | .keywords => do
      let s ← readSignature layer rest
      return { s with collector := some f.name }
    | .positional => do
      let s ← readSignature layer rest
      return { s with formals := ⟨f.name, .positional, f.default⟩ :: s.formals }
    | .standard => do
      let s ← readSignature layer rest
      return { s with formals := ⟨f.name, .standard, f.default⟩ :: s.formals }
    | .named => do
      let s ← readSignature layer rest
      return { s with formals := ⟨f.name, .named, f.default⟩ :: s.formals }

/-! ### Statements -/

/-- An assignment of a call to a name. -/
structure CallAssignment where
  line : Nat
  target : String
  callLine : Nat
  callee : Expr
  args : List Source.Argument
  keywords : List Source.Keyword

/-- A body without the text that may stand at its start. -/
def dropDocumentation : List Statement → List Statement
  | .expression _ (.literal (.str ..)) :: rest => rest
  | body => body

/-- The assignments of a body. -/
def readAssignments (layer : String) : List Statement → Except Failure (List CallAssignment)
  | [] => pure []
  | .pass _ :: rest => readAssignments layer rest
  | .assign line [.name target] (.call callLine callee args keywords) :: rest => do
    return { line, target, callLine, callee, args, keywords } :: (← readAssignments layer rest)
  | s@(.assign line [.name _] _) :: _ => do refuse layer (some line) (.notCall (← s.written))
  | s :: _ => do refuse layer (some s.line) (.notAssignment (← s.written))

/-- No target is a formal, and none is bound twice. -/
def checkTargets (layer : String) (formals : List String) :
    List String → List CallAssignment → Except Failure Unit
  | _, [] => pure ()
  | seen, a :: rest =>
    if a.target ∈ formals then
      refuse layer (some a.line) (.shadowsParameter a.target)
    else if a.target ∈ seen then
      refuse layer (some a.line) (.assignedTwice a.target)
    else checkTargets layer formals (a.target :: seen) rest

/-! ### Calls -/

/-- The names a body can use: those that stand for registers, the parameters, and the collector. -/
structure BodyNames where
  layer : String
  symbols : List String
  parameters : List String
  collector : Option String

/-- The symbols that an expression mentions, each once, sorted. -/
def BodyNames.mentioned (b : BodyNames) (e : Expr) : List String :=
  ((e.names.filter (b.symbols.contains ·)).eraseDups).mergeSort fun s t => !(t < s)

/-- Names of constants, which a name may have in another spelling. -/
def constantNames : List String := ["None", "True", "False"]

/-- Read an expression that is deferred: it is kept with its text, if it mentions no register. -/
def BodyNames.readDeferred (b : BodyNames) (line : Nat) (e : Expr) : Except Failure Term := do
  let text ← e.written
  match b.mentioned e, e.names.find? (constantNames.contains ·) with
  | [], none => pure (.deferred text e)
  | [], some name => throw (.fault (.constantName name))
  | symbols, _ => refuse b.layer (some line) (.symbolInside text symbols)

/-- Read an expression as a term. -/
def BodyNames.readTerm (b : BodyNames) (line : Nat) (e : Expr) : Except Failure Term :=
  match e with
  | .name id =>
    if b.symbols.contains id then pure (.symbol id)
    else if b.parameters.contains id || b.collector == some id then pure (.parameter id)
    else b.readDeferred line e
  | .literal value => pure (.literal (.ofLiteral value))
  | _ => b.readDeferred line e

/-- Read a callee. -/
def BodyNames.readCallee (b : BodyNames) (line : Nat) : Expr → Except Failure CalleeTerm
  | .name id =>
    if b.parameters.contains id then pure (.parameter id)
    else if b.symbols.contains id then
      refuse b.layer (some line) (.calleeIsSymbol id)
    else pure (.fixed id)
  | e => do refuse b.layer (some line) (.calleeNotName (← e.written))

/-- Read the keywords of a call. -/
def BodyNames.readKeywords (b : BodyNames) (line : Nat) :
    List Source.Keyword → Except Failure (List KeywordTerm)
  | [] => pure []
  | .named name valueLine value :: rest => do
    let term ← b.readTerm valueLine value
    return .named name term :: (← b.readKeywords line rest)
  | .forward value :: rest =>
    match b.collector with
    | none => refuse b.layer (some line) .nothingToForward
    | some own =>
      let foreign := do refuse b.layer (some line) (.foreignForward own (← value.written))
      match value with
      | .name id => if id = own then do return .forward :: (← b.readKeywords line rest) else foreign
      | _ => foreign

/-- Read the positional arguments of a call. -/
def BodyNames.readArguments (b : BodyNames) (line : Nat) :
    List Source.Argument → Except Failure (List Term)
  | [] => pure []
  | .mk _ (.starred e) :: _ => do
    refuse b.layer (some line) (.starredArgument (← (Expr.starred e).written))
  | .mk argumentLine e :: rest => do
    let term ← b.readTerm argumentLine e
    return term :: (← b.readArguments line rest)

/-- Read a call. -/
def BodyNames.readStatement (b : BodyNames) (a : CallAssignment) :
    Except Failure BodyStatement := do
  let callee ← b.readCallee a.callLine a.callee
  let keywords ← b.readKeywords a.callLine a.keywords
  let args ← b.readArguments a.callLine a.args
  return { line := a.line, target := a.target, call := { callee, keywords, args } }

/-- Read the calls of a body. -/
def BodyNames.readBody (b : BodyNames) : List CallAssignment → Except Failure (List BodyStatement)
  | [] => pure []
  | a :: rest => do
    let s ← b.readStatement a
    return s :: (← b.readBody rest)

/-! ### Definitions -/

/-- Read the body of a layer with a signature. -/
def Definition.readBody (layer : String) (signature : Signature) (line : Nat)
    (body : List Statement) (surroundings : Surroundings) (file : SourceFile) :
    Except Failure Definition := do
  let assignments ← readAssignments layer (dropDocumentation body)
  if assignments.isEmpty then refuse layer (some line) .noAssignments
  checkTargets layer signature.names [] assignments
  let names : BodyNames :=
    { layer
      symbols := signature.inputs ++ assignments.map (·.target)
      parameters := signature.parameterNames
      collector := signature.collector }
  let statements ← names.readBody assignments
  match statements.getLast? with
  | none => refuse layer (some line) .noAssignments
  | some last =>
    return { name := layer, signature, inner := statements.dropLast, last, surroundings, file }

/-- Read a layer definition. -/
def Definition.read (layer : String) (f : FunctionSource) (surroundings : Surroundings)
    (file : SourceFile) : Except Failure Definition := do
  checkFormalNames f.formals
  let signature ← readSignature layer f.formals
  Definition.readBody layer signature f.line f.body surroundings file

end Laminar
