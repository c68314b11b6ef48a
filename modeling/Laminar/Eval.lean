import Laminar.Call.Builtin
import Laminar.Diagnostic
import Laminar.Folding
import Laminar.Value.Attribute

/-!
# Evaluation of expressions

The value of an expression of layer source.  Names are looked up by an environment; operators follow
`Value.binary` and its companions, operands are evaluated from the left, and `and`, `or` and
conditionals evaluate only what they need.

**Objects.** Every value that comes into being gets a number, so the state of an evaluation holds
the next one.  A constant expression is one object in all of the source it stands in.

**Calls.** Positional arguments are evaluated before named ones; a spread `*e` adds the items
of a value and a forward `**e` the entries of a dictionary.  A spread that is the only positional
argument is taken apart after the named ones.  Named arguments in a row are added to the forwarded
ones together.  A layer function can be called too; it mints names from the shared counter, which is
part of the state.  So is the number of sources of samples that calls of initializers have made.

**Limits.** Values are numbers, texts, containers, initializers, operators, nodes and layer
functions.  Of the built-in functions `len`, `max`, `min`, `abs`, `int`, `float`, `str` and `range`
can be called, of the methods `get` of a dictionary, and the attributes are those of
`Value.attributes`; other built-in functions, methods and lambdas are left out.  No value is a
generator of names, a compiler or a registry.  So an expression touches a counter of minted names
only by calling a layer function, and none starts a compilation of its own or meets the compiler
that evaluates it.  Every evaluation ends, with a value or with a failure that the one who asked for
it can handle.

* `Environment` says what names stand for, `EvalState` is the state, which survives a failure.
* `evalExpr` evaluates an expression.
* `evalArguments`, `evalKeywords` evaluate the arguments of a call.
-/

namespace Laminar

open Source (Expr Argument Keyword CompareOp DictItem)

/-- How a layer function is called: its number, the values of the call, and the shared counter of
minted names.  The block it yields, and the counter after it. -/
abbrev LayerCall :=
  LayerId → List Value → List (String × Value) → Int → Except Failure Node × Int

/-- What an evaluation looks up. -/
structure Environment where
  /-- What a name stands for. -/
  lookup : String → Except Fault Value
  /-- The identity of constants. -/
  constants : Identity
  /-- Do the objects made here last? -/
  lasting : Bool
  /-- How layer functions are called. -/
  layer : LayerCall
  /-- What the sources of samples yield. -/
  samples : Samples

/-- What an evaluation changes. -/
structure EvalState where
  /-- The number of the next object. -/
  next : Nat
  /-- The shared counter of minted names. -/
  shared : Int
  /-- How many sources of samples have been made. -/
  sources : Nat
  deriving DecidableEq, Repr

/-- An evaluation.  What it did to the state stays, also if it fails. -/
abbrev Eval (α : Type) := ExceptT Failure (StateM EvalState) α

/-- A result that may be a fault. -/
def settle {α : Type} (r : Except Fault α) : Eval α := MonadExcept.ofExcept (liftFault r)

/-- Number the objects that have come into being in a value. -/
def Environment.keep (env : Environment) (v : Value) : Eval Value := do
  let s ← get
  let (v, next) := v.labelled env.lasting s.next
  set { s with next }
  return v

/-- The value of an operation as an object. -/
def Environment.result (env : Environment) (r : Except Fault Value) : Eval Value := do
  env.keep (← settle r)

/-- A constant as an object. -/
def Environment.constant (env : Environment) (v : Value) : Eval Value :=
  env.keep (v.asConstant env.constants)

/-! ### Names -/

/-- What a built-in name stands for. -/
def builtinValue (name : String) : Except Fault Value :=
  match Builtin.canonical name with
  | "None" => pure .null
  | "True" | "__debug__" => pure (.bool true)
  | "False" => pure (.bool false)
  | "Ellipsis" => pure .ellipsis
  | name => if Builtin.isBuiltin name then pure (.builtin name) else throw (.undefinedName name)

/-- What a name stands for: it is bound here, or in a table, or is built in. -/
def lookUp (names table : List (String × Value)) (name : String) : Except Fault Value :=
  match names.lookup name with
  | some v => pure v
  | none => match table.lookup name with
    | some v => pure v
    | none => builtinValue name

/-! ### Calls -/

/-- How a message about spread arguments names what is called. -/
def Value.calleeText (v : Value) : String :=
  match v.bare with
  | .initClass c => "knet.initializers." ++ c.name ++ "()"
  | .builtin name => name ++ "()"
  | .getter _ => "dict.get()"
  | v => v.display

/-- Add the entries of a dictionary to the keywords of a call; none may be given twice. -/
def forwardKeywords (callee : Value) (keywords : List (Value × Value)) :
    List (Value × Value) → Except Fault (List (Value × Value))
  | [] => pure keywords
  | (k, v) :: rest =>
    if keywords.any (·.1.sameKey k) then throw (.forwardedTwice callee.calleeText k.display)
    else forwardKeywords callee (keywords ++ [(k, v)]) rest

/-- The items of a spread that is the only positional argument. -/
def spreadItems (callee v : Value) : Except Fault (List Value) :=
  match v.items? with
  | some items => pure items
  | none => throw (.spreadNotIterable (some callee.calleeText) v.operandType)

/-- Call a value. -/
def Environment.call (env : Environment) (f : Value) (args : List Value)
    (keywords : List (Value × Value)) : Eval Value := do
  match f.bare with
  | .layer _ id =>
    let named ← settle (keywordTexts keywords)
    let s ← get
    let (result, shared) := env.layer id args named s.shared
    set { s with shared }
    env.keep (.node (← MonadExcept.ofExcept result))
  | _ =>
    let s ← get
    let (result, sources) := (f.call env.samples args keywords).run s.sources
    set { s with sources }
    env.result result

/-! ### Displays -/

/-- Add entries to a dictionary. -/
def addEntries (known : List (Value × Value)) (entries : List (Value × Value)) :
    Except Fault (List (Value × Value)) :=
  entries.foldlM (fun d e => do
    e.1.checkHashable
    return insertKey e.1 e.2 d) known

/-- How many entries stand before the next mapping that is forwarded. -/
def leadingEntries : List DictItem → Nat
  | .entry .. :: rest => leadingEntries rest + 1
  | _ => 0

/-- The most entries of a dictionary display that are taken together. -/
def maxTogether : Nat := 17

/-- So many entries of a dictionary display are added one by one as they are evaluated, fewer at
once. -/
def leastAddedSingly : Nat := 16

/-- So many items of a set display are added at once, more of them one by one. -/
def maxAddedAtOnce : Nat := 30

/-! ### Expressions -/

mutual

/-- The value of an expression. -/
def evalExpr (env : Environment) : Expr → Eval Value
  | .name id => settle (env.lookup id)
  | .literal value => env.constant (.ofLiteral value)
  | .list items => do env.keep (.list (← evalList env items))
  | .tuple items =>
    match foldedItems? items with
    | some values => env.constant (.tuple values)
    | none => do env.keep (.tuple (← evalList env items))
  | .set items => do
    let copied := 2 < items.length && (foldedItems? items).isSome
    let values ← evalSet env items [] (maxAddedAtOnce < items.length)
    env.result (do return .set (← setItems copied values))
  | .dict items => do env.keep (.dict (← evalItems env items [] [] 0 false))
  | .call _ callee [.mk _ (.starred e)] keywords => do
    let f ← evalExpr env callee
    let v ← evalExpr env e
    let named ← evalKeywords env f keywords [] []
    env.call f (← settle (spreadItems f v)) named
  | .call _ callee args keywords => do
    let f ← evalExpr env callee
    let positional ← evalArguments env args
    let named ← evalKeywords env f keywords [] []
    env.call f positional named
  | .attribute base field => do env.result ((← evalExpr env base).attribute field)
  | .subscript base (.slice lower upper step) => do
    let b ← evalExpr env base
    let l ← evalOption env lower
    let u ← evalOption env upper
    let s ← evalOption env step
    env.result (b.item (.slice l u s))
  | .subscript base (.tuple items) =>
    match (Expr.subscript base (.tuple items)).folded?, foldedItems? items with
    | some v, _ => env.constant v
    | none, some values => do
      let b ← evalExpr env base
      env.result (b.item (.value (← env.constant (.tuple values))))
    | none, none => do
      let b ← evalExpr env base
      let values ← evalIndices env items
      match values.mapM id with
      | some values => env.result (b.item (.value (← env.keep (.tuple values))))
      | none => env.result (b.item (.several values))
  | .subscript base index =>
    match (Expr.subscript base index).folded? with
    | some v => env.constant v
    | none => do
      let b ← evalExpr env base
      let i ← evalExpr env index
      env.result (b.item (.value i))
  | .slice .. => throw (.fault .notImplemented)
  | .unary op operand =>
    match (Expr.unary op operand).folded? with
    | some v => env.constant v
    | none => do env.result ((← evalExpr env operand).unary op)
  | .binary .mod (.literal (.str s raw)) (.tuple items) =>
    match foldedItems? items, formatPieces? s items.length with
    | none, some pieces => do
      let values ← evalPieces env items pieces.rest
      env.keep (joinPieces (plainPiece pieces.lead ++ values))
    | _, _ => do
      let v ← env.constant (.ofLiteral (.str s raw))
      let w ← match foldedItems? items with
        | some values => env.constant (.tuple values)
        | none => do env.keep (.tuple (← evalList env items))
      env.result (v.binary .mod w)
  | .binary op left right =>
    match (Expr.binary op left right).folded? with
    | some v => env.constant v
    | none => do
      let v ← evalExpr env left
      let w ← evalExpr env right
      env.result (v.binary op w)
  | .compare first rest => do
    let v ← evalExpr env first
    evalComparisons env v rest
  | .logical op operands => evalLogical env op operands
  | .conditional body test orelse => do
    if ← settle (← evalExpr env test).condition then evalExpr env body else evalExpr env orelse
  | .starred _ => throw (.fault .notImplemented)
  | .lambda .. => throw (.fault .notImplemented)
termination_by structural e => e

/-- The values of the items of a display; a spread item adds the items of a value. -/
def evalList (env : Environment) : List Expr → Eval (List Value)
  | [] => pure []
  | .starred e :: rest => do
    let v ← evalExpr env e
    match v.items? with
    | some items => return items ++ (← evalList env rest)
    | none => throw (.fault (.spreadNotIterable none v.operandType))
  | e :: rest => do
    let v ← evalExpr env e
    return v :: (← evalList env rest)
termination_by structural es => es

/-- The items of a set display, after those known already.  They are added at the end, but those
before a spread item when it is met, and those after one when they are evaluated. -/
def evalSet (env : Environment) :
    List Expr → (known : List Value) → (singly : Bool) → Eval (List Value)
  | [], known, _ => pure known
  | .starred e :: rest, known, _ => do
    settle (known.forM Value.checkHashable)
    let v ← evalExpr env e
    match v.items? with
    | some items => do
      settle (items.forM Value.checkHashable)
      evalSet env rest (known ++ items) true
    | none => throw (.fault (.notIterable v.operandType))
  | e :: rest, known, singly => do
    let v ← evalExpr env e
    if singly then settle v.checkHashable
    evalSet env rest (known ++ [v]) singly
termination_by structural es => es

/-- The entries of a dictionary display, after those known already and those waiting to be added.
`left` entries are still to be taken together with those, and are added one by one if `singly`. -/
def evalItems (env : Environment) :
    List DictItem → (known waiting : List (Value × Value)) → (left : Nat) → (singly : Bool) →
      Eval (List (Value × Value))
  | [], known, _, _, _ => pure known
  | .entry k v :: rest, known, waiting, left, singly => do
    let together := min maxTogether (leadingEntries rest + 1)
    let singly := if left = 0 then leastAddedSingly ≤ together else singly
    let left := if left = 0 then together else left
    let key ← evalExpr env k
    let value ← evalExpr env v
    let waiting := waiting ++ [(key, value)]
    if singly || left = 1 then
      evalItems env rest (← settle (addEntries known waiting)) [] (left - 1) singly
    else evalItems env rest known waiting (left - 1) singly
  | .forward e :: rest, known, _, _, _ => do
    let v ← evalExpr env e
    match v.bare with
    | .dict entries => do
      evalItems env rest (← settle (addEntries known entries)) [] 0 false
    | v => throw (.fault (.notMapping v.operandType))
termination_by structural es => es

/-- The pieces of a text that is filled, one after the other. -/
def evalPieces (env : Environment) : List Expr → List (Directive × String) → Eval (List Value)
  | e :: es, (d, plain) :: rest => do
    let v ← evalExpr env e
    let piece ← settle (d.piece v)
    return piece :: plainPiece plain ++ (← evalPieces env es rest)
  | _, _ => pure []
termination_by structural es => es

/-- The positional arguments of a call. -/
def evalArguments (env : Environment) : List Argument → Eval (List Value)
  | [] => pure []
  | .mk _ (.starred e) :: rest => do
    let v ← evalExpr env e
    match v.items? with
    | some items => return items ++ (← evalArguments env rest)
    | none => throw (.fault (.spreadNotIterable none v.operandType))
  | .mk _ e :: rest => do
    let v ← evalExpr env e
    return v :: (← evalArguments env rest)
termination_by structural es => es

/-- The named arguments of a call, after those known already and those waiting to be added. -/
def evalKeywords (env : Environment) (callee : Value) :
    List Keyword → (known waiting : List (Value × Value)) → Eval (List (Value × Value))
  | [], known, waiting => settle (forwardKeywords callee known waiting)
  | .named name _ e :: rest, known, waiting => do
    let v ← evalExpr env e
    evalKeywords env callee rest known (waiting ++ [(.kept .word (.str name), v)])
  | .forward e :: rest, known, waiting => do
    let known ← settle (forwardKeywords callee known waiting)
    let v ← evalExpr env e
    match v.bare with
    | .dict entries => do
      evalKeywords env callee rest (← settle (forwardKeywords callee known entries)) []
    | v => throw (.fault (.forwardNotMapping callee.calleeText v.operandType))
termination_by structural es => es

/-- Several items between brackets; a slice is none. -/
def evalIndices (env : Environment) : List Expr → Eval (List (Option Value))
  | [] => pure []
  | .slice lower upper step :: rest => do
    let _ ← evalOption env lower
    let _ ← evalOption env upper
    let _ ← evalOption env step
    return none :: (← evalIndices env rest)
  | e :: rest => do
    let v ← evalExpr env e
    return some v :: (← evalIndices env rest)
termination_by structural es => es

/-- A bound of a slice; none is nothing. -/
def evalOption (env : Environment) : Option Expr → Eval Value
  | none => pure .null
  | some e => evalExpr env e
termination_by structural e => e

/-- A chain of comparisons, given the left operand; it ends at the first that fails. -/
def evalComparisons (env : Environment) (left : Value) : List (CompareOp × Expr) → Eval Value
  | [] => pure (.bool true)
  | (op, e) :: rest => do
    let right ← evalExpr env e
    let result ← env.result (left.compares op right)
    if rest.isEmpty then return result
    else if ← settle result.condition then evalComparisons env right rest
    else return result
termination_by structural es => es

/-- The first operand that decides, or the last. -/
def evalLogical (env : Environment) (op : Source.LogicalOp) : List Expr → Eval Value
  | [] => pure .null
  | [e] => evalExpr env e
  | e :: rest => do
    let v ← evalExpr env e
    if (← settle v.condition) == (op == .or) then return v else evalLogical env op rest
termination_by structural es => es

end

end Laminar
