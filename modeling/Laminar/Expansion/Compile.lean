import Laminar.Expansion.Call

/-!
# Expansion of trees

A tree is compiled to a program by expanding its calls, depth first and from left to right.  A call
of a primitive yields one instruction; a call of a layer yields a block, which is compiled in turn.

**Frames.** While the block of a layer is compiled, a frame remembers the layer and the line that
was marked last, so that a diagnostic can say where it arose.  Frames are popped again however the
compilation of the block ends.

**Depth.** Layers may call themselves, so the nesting of layers is bounded by an explicit number:
beyond it the expansion counts as endless.

* `Compiler` is the state: the counters and the frames.
* `resolveCall` expands one call, `compileNode` compiles a tree.
* `compile`, `compileCall` and `LayerFunction.compile` are the entry points.
-/

namespace Laminar

/-- A layer that is being expanded, and the line marked last in it. -/
structure Frame where
  layer : String
  line : Option Int := none
  deriving DecidableEq, Repr

/-- The state of a compilation: the counters, and the layers that are being expanded, the innermost
first. -/
structure Compiler where
  counters : Counters := {}
  frames : List Frame := []
  deriving DecidableEq, Repr

/-- A compilation step.  What it did to the state stays, also if it fails. -/
abbrev Compile (α : Type) := ExceptT Failure (StateM Compiler) α

/-- Fill the context of a diagnostic in from the innermost frame. -/
def Diagnostic.inFrames (d : Diagnostic) (callee : Option Value) : List Frame → Diagnostic
  | [] => d.addContext callee none none
  | f :: _ => d.addContext callee (some f.layer) f.line

/-- A diagnostic of a failure gets the context of the innermost frame. -/
def Failure.inFrames (e : Failure) (callee : Option Value) (frames : List Frame) : Failure :=
  match e with
  | .diagnostic d => .diagnostic (d.inFrames callee frames)
  | e => e

/-- Fail with a problem in the innermost frame. -/
def failWith {α : Type} (problem : Problem) : Compile α := do
  let s ← get
  throw (problem.failure.inFrames none s.frames)

/-- Mark a line in the innermost frame. -/
def markLine (line : Int) : Compile Unit :=
  modify fun s =>
    match s.frames with
    | [] => s
    | f :: fs => { s with frames := { f with line := some line } :: fs }

/-- Compile inside a frame, which is popped however that ends. -/
def withFrame {α : Type} (layer : String) (body : Compile α) : Compile α :=
  ExceptT.mk fun s =>
    let (result, after) := body.run { s with frames := { layer } :: s.frames }
    (result, { after with frames := after.frames.tail })

/-- How a call with an output is expanded. -/
abbrev Resolver := Value → List Node → Value → Compile Program

mutual

/-- Compile a tree, given how calls are expanded. -/
def compileNode (resolve : Resolver) : Node → Compile Program
  | .block statements => compileNodes resolve statements
  | .assign (.symbol output) (.call callee args) => resolve callee args output
  | .assign (.symbol output) value => failWith (.valueNotCall output value)
  | .assign target _ => failWith (.targetNotSymbol target)
  | .line number _ => do
    markLine number
    return []
  | .raw (.tuple items) =>
    match Value.instruction? (.tuple items) with
    | some i => pure [i]
    | none => failWith (.tupleWithoutOperator (.tuple items))
  | n => failWith (.notCompilable n)
termination_by structural n => n

/-- Compile statements one after the other. -/
def compileNodes (resolve : Resolver) : List Node → Compile Program
  | [] => pure []
  | n :: rest => do
    let first ← compileNode resolve n
    return first ++ (← compileNodes resolve rest)
termination_by structural ns => ns

end

/-- Expand one call bound to an output, with layers nested at most `depth` deep. -/
def resolveCall (lib : Library) : Nat → Resolver
  | 0, _, _, _ => throw .endless
  | depth + 1, callee, args, output => do
    let s ← get
    let (outcome, after) := expandCall lib callee args output s.counters
    set { s with counters := after }
    match outcome with
    | .error e => throw (e.inFrames (calleeContext callee) s.frames)
    | .ok (.instruction i) => return [i]
    | .ok (.value v) => compileNode (resolveCall lib depth) (Node.ofValue v)
    | .ok (.block n) => withFrame callee.display (compileNode (resolveCall lib depth) n)

/-- Compile a tree. -/
def compile (lib : Library) (depth : Nat) (n : Node) : Compile Program :=
  compileNode (resolveCall lib depth) n

/-- The arguments of a call from outside: the inputs as symbols, the parameters in front. -/
def callArguments (inputs : List Value) (params : List (String × Value)) : List Node :=
  let symbols := inputs.map Node.symbol
  match params with
  | [] => symbols
  | params => .parameters (params.map fun p => .keyword (.str p.1) (.const p.2)) :: symbols

/-- Compile a call from outside. -/
def compileCall (lib : Library) (depth : Nat) (name : Value) (inputs : List Value) (output : Value)
    (params : List (String × Value)) : Compile Program := do
  modify fun s => { s with frames := [] }
  resolveCall lib depth name (callArguments inputs params) output

/-- Compile a call of a layer function: the layer is called by its name, and the last symbol is the
output. -/
def LayerFunction.compile (f : LayerFunction) (lib : Library) (depth : Nat) (symbols : List Value)
    (params : List (String × Value)) : Compile Program := do
  let name := f.definition.name
  MonadExcept.ofExcept (checkSelf "LayerFunction.compile" params)
  let (inputs, output) ← MonadExcept.ofExcept (splitSymbols (.needsCompileOutput name) symbols)
  compileCall lib depth (.str name) inputs output params

/-! ### Frames -/

/-- Compiling a list of statements compiles the first, then the rest. -/
theorem compileNodes_cons (resolve : Resolver) (n : Node) (ns : List Node) :
    compileNodes resolve (n :: ns) = (do
      let first ← compileNode resolve n
      return first ++ (← compileNodes resolve ns)) := rfl

/-- A line mark compiles to nothing. -/
theorem compileNode_line (resolve : Resolver) (number : Int) (file : SourceFile) :
    compileNode resolve (.line number file) = (do markLine number; return []) := rfl

end Laminar
