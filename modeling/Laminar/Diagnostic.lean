import Laminar.Fault

/-!
# Diagnostics

A diagnostic describes a mistake in a layer definition or in a call of a layer.  It holds the
problem and, as far as they are known, the callee, the enclosing layer and the source line.

**Context.** Context is filled in from the inside out: what was set closer to the failure is kept.
Layer and line belong together, so a diagnostic that names its layer takes no line from outside.

* `Problem` lists what can be wrong, `Problem.message` words it.
* `Diagnostic.addContext` fills in context, `Diagnostic.text` is the whole report.
* `Failure` is either a diagnostic, a fault outside every call, or an expansion without end.
-/

namespace Laminar

/-- The classes of diagnostics. -/
inductive DiagnosticKind where
  | general
  | malformedExpression
  | unresolvedCallee
  | malformedCall
  | layerDefinition
  | duplicateOrMissingOutput
  deriving DecidableEq, Repr

/-- The name of a class of diagnostics. -/
def DiagnosticKind.label : DiagnosticKind → String
  | .general => "KnetError"
  | .malformedExpression => "MalformedExpression"
  | .unresolvedCallee => "UnresolvedCallee"
  | .malformedCall => "MalformedCall"
  | .layerDefinition => "LayerDefinitionError"
  | .duplicateOrMissingOutput => "DuplicateOrMissingOutput"

/-- All classes of diagnostics. -/
def DiagnosticKind.all : List DiagnosticKind :=
  [.general, .malformedExpression, .unresolvedCallee, .malformedCall, .layerDefinition,
    .duplicateOrMissingOutput]

/-- The class of diagnostics with a name. -/
def DiagnosticKind.ofLabel? (label : String) : Option DiagnosticKind :=
  all.find? (·.label == label)

/-- A class of diagnostics and the wider classes it belongs to, the widest last. -/
def DiagnosticKind.lineage : DiagnosticKind → List DiagnosticKind
  | .general => [.general]
  | .duplicateOrMissingOutput => [.duplicateOrMissingOutput, .layerDefinition, .general]
  | kind => [kind, .general]

/-- What is wrong. -/
inductive Problem where
  -- Expressions
  | targetNotSymbol (target : Node)
  | valueNotCall (target : Value) (value : Node)
  | tupleWithoutOperator (tuple : Value)
  | notCompilable (node : Node)
  | notInstruction (entry : Value)
  | writtenTwice (symbol entry : Value)
  -- Callees
  | notRegistered (callee : Value)
  | generatorFailed (callee : Value) (fault : Fault)
  | evaluationFailed (callee : Value) (text : String) (fault : Fault)
  -- Arguments of a call
  | misplacedParameters
  | badEntry (node : Node)
  | repeatedKeyword (name : Value)
  | badArgument (index : Nat) (node : Node)
  | badKeywordValue (node : Node)
  | notSymbol (label : String) (value : Value)
  | missingOutput
  | badDimension (value : Value)
  | missingArray
  | calleeNotText (value : Value)
  -- Calls in the body of a layer
  | calleeNotName (text : String)
  | calleeIsSymbol (name : String)
  | nothingToForward
  | foreignForward (own text : String)
  | starredArgument (text : String)
  | symbolInside (text : String) (symbols : List String)
  -- Definitions
  | restParameter (name : String)
  | sourceUnreadable (fault : Fault)
  | notPlainFunction
  | notAssignment (text : String)
  | notCall (text : String)
  | shadowsParameter (name : String)
  | noAssignments
  | assignedTwice (name : String)
  /-- A problem that a registered constructor reports by itself. -/
  | reported (kind : DiagnosticKind) (message : String)

/-- The class of a problem. -/
def Problem.kind : Problem → DiagnosticKind
  | .targetNotSymbol _ | .valueNotCall .. | .tupleWithoutOperator _ | .notCompilable _
  | .notInstruction _ | .writtenTwice .. => .malformedExpression
  | .notRegistered _ | .generatorFailed .. | .evaluationFailed .. => .unresolvedCallee
  | .misplacedParameters | .badEntry _ | .repeatedKeyword _ | .badArgument .. | .badKeywordValue _
  | .notSymbol .. | .missingOutput | .badDimension _ | .missingArray | .calleeNotText _
  | .calleeNotName _ | .calleeIsSymbol _ | .nothingToForward | .foreignForward ..
  | .starredArgument _ | .symbolInside .. => .malformedCall
  | .restParameter _ | .sourceUnreadable _ | .notPlainFunction | .notAssignment _ | .notCall _
  | .shadowsParameter _ => .layerDefinition
  | .noAssignments | .assignedTwice _ => .duplicateOrMissingOutput
  | .reported kind _ => kind

/-- The fault behind a problem. -/
def Problem.cause : Problem → Option Fault
  | .generatorFailed _ fault | .evaluationFailed _ _ fault | .sourceUnreadable fault => some fault
  | _ => none

/-- A fault with its class, as one line. -/
def Fault.line (fault : Fault) : String := fault.kind.label ++ ": " ++ fault.message

/-- The wording of a problem. -/
def Problem.message : Problem → String
  | .targetNotSymbol target => "assignment target must be a symbol, got " ++ target.repr
  | .valueNotCall target value =>
    "right-hand side of " ++ target.display ++ " must be a call, got " ++ value.repr
  | .tupleWithoutOperator tuple => "tuple does not start with an operator: " ++ tuple.repr
  | .notCompilable node => "cannot compile " ++ node.typeName ++ ": " ++ node.repr
  | .notInstruction entry => "not an instruction: " ++ entry.repr
  | .writtenTwice symbol entry =>
    "register '" ++ symbol.display ++ "' is written more than once: " ++ entry.repr
  | .notRegistered callee => "'" ++ callee.display ++ "' is not a registered layer or operator"
  | .generatorFailed callee fault => "calling '" ++ callee.display ++ "' failed: " ++ fault.line
  | .evaluationFailed callee text fault =>
    "calling '" ++ callee.display ++ "' failed: cannot evaluate '" ++ text ++ "': " ++ fault.line
  | .misplacedParameters => "parameters block must come right after the callee"
  | .badEntry node => "bad keyword parameter entry " ++ node.repr
  | .repeatedKeyword name => "keyword parameter '" ++ name.display ++ "' given more than once"
  | .badArgument index node =>
    "argument " ++ toString index ++ " must be a symbol or constant, got " ++ node.repr
  | .badKeywordValue node => "keyword value must be a constant, got " ++ node.repr
  | .notSymbol label value => label ++ " must be a symbol, got " ++ value.repr
  | .missingOutput => "par expects an output symbol"
  | .badDimension value => "par dimension must be a non-negative int, got " ++ value.repr
  | .missingArray => "arr requires init=<array>"
  | .calleeNotText value => "callee parameter must name a layer, got " ++ value.repr
  | .calleeNotName text => "callee must be a name: " ++ text
  | .calleeIsSymbol name => "'" ++ name ++ "' is a symbol, not a layer"
  | .nothingToForward => "layer has no **kwargs to forward"
  | .foreignForward own text => "only **" ++ own ++ " can be forwarded, got **" ++ text
  | .starredArgument text => "*args are not supported: " ++ text
  | .symbolInside text symbols =>
    "argument '" ++ text ++ "' uses symbol(s) [" ++ commaJoin (symbols.map Text.quote) ++
      "] inside an expression"
  | .restParameter name => "*" ++ name ++ " is not supported; inputs must be named"
  | .sourceUnreadable fault => "cannot read source: " ++ fault.message
  | .notPlainFunction => "@layer expects a plain function"
  | .notAssignment text => "expected 'name = call(...)', got: " ++ text
  | .notCall text => "right-hand side must be a call: " ++ text
  | .shadowsParameter name => "local '" ++ name ++ "' shadows a parameter"
  | .noAssignments => "layer has no assignments"
  | .assignedTwice name => "local '" ++ name ++ "' is assigned more than once"
  | .reported _ message => message

/-- Has a problem a text? What it shows may have none. -/
def Problem.writable : Problem → Bool
  | .targetNotSymbol node | .notCompilable node | .badEntry node | .badArgument _ node
  | .badKeywordValue node => node.writable
  | .valueNotCall target value => target.writable && value.writable
  | .writtenTwice symbol entry => symbol.writable && entry.writable
  | .tupleWithoutOperator v | .notInstruction v | .notRegistered v | .repeatedKeyword v
  | .notSymbol _ v | .badDimension v | .calleeNotText v => v.writable
  | .generatorFailed callee fault | .evaluationFailed callee _ fault =>
    callee.writable && fault.writable
  | _ => true

/-- A problem with the context it arose in. -/
structure Diagnostic where
  problem : Problem
  callee : Option Value := none
  layer : Option String := none
  line : Option Int := none

/-- A problem without context. -/
def Problem.diagnostic (problem : Problem) : Diagnostic := { problem }

/-- A problem in the definition of a layer. -/
def Problem.within (problem : Problem) (layer : String) (line : Option Nat) : Diagnostic :=
  { problem, layer := some layer, line := line.map Int.ofNat }

/-- The callee as context; nothing is no callee. -/
def calleeContext (v : Value) : Option Value :=
  match v.bare with
  | .null => none
  | v => some v

/-- Fill in missing context. -/
def Diagnostic.addContext (d : Diagnostic) (callee : Option Value) (layer : Option String)
    (line : Option Int) : Diagnostic :=
  { d with
    callee := d.callee <|> callee
    layer := d.layer <|> layer
    line := if d.layer.isSome then d.line else line }

/-- The places a diagnostic names, as a sentence lists them. -/
def Diagnostic.places (d : Diagnostic) : List String :=
  (match d.layer with
    | none => []
    | some layer => ["in layer '" ++ layer ++ "'" ++
        (match d.line with
          | none => ""
          | some line => " at line " ++ toString line)]) ++
  (match d.callee with
    | none => []
    | some callee => ["calling '" ++ callee.display ++ "'"])

/-- The whole report. -/
def Diagnostic.text (d : Diagnostic) : String :=
  match d.places with
  | [] => d.problem.message
  | places => d.problem.message ++ " (" ++ commaJoin places ++ ")"

/-- Why a computation ended without a result. -/
inductive Failure where
  | diagnostic (d : Diagnostic)
  | fault (f : Fault)
  /-- A layer expands into itself without end. -/
  | endless

/-- The class of a failure. -/
def Failure.label : Failure → String
  | .diagnostic d => d.problem.kind.label
  | .fault f => f.kind.label
  | .endless => "RecursionError"

/-- The report of a failure. -/
def Failure.text : Failure → String
  | .diagnostic d => d.text
  | .fault f => f.message
  | .endless => "maximum recursion depth exceeded"

/-- A diagnostic as a failure; one about a value that has no text is a fault. -/
def Diagnostic.failure (d : Diagnostic) : Failure :=
  if d.problem.writable then .diagnostic d else .fault .digitLimit

/-- A problem as a failure. -/
def Problem.failure (problem : Problem) : Failure := problem.diagnostic.failure

/-- A failure as a fault, by its class and its report. -/
def Failure.asFault : Failure → Fault
  | .fault f => f
  | e => .raised (.other e.label) e.text

/-- A result or a fault as a result or a failure. -/
def liftFault {α : Type} (r : Except Fault α) : Except Failure α :=
  r.mapError fun f => .fault f.settled

end Laminar
