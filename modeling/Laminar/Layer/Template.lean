import Laminar.Layer.Signature
import Laminar.Value.Identity

/-!
# Layer definitions

A layer is defined by its signature and a body: a sequence of calls, each of whose results is bound
to a local name.  The last local is the output.  In the body stand *terms* for the arguments:

* a symbol: an input or a local, which stands for a register;
* a parameter, or the collected keywords as a whole, which stand for the value bound to them;
* a literal;
* a deferred expression over parameters, evaluated only when the call is resolved.

A callee is fixed, or it is a parameter whose value names the callee.  Keywords of a call are given
one by one, or are the collected keywords handed on.

**Body.** A body is never empty, so it is kept as the calls before the last and the last one.

* `Definition` is a layer definition; `Definition.locals` and `Definition.output` name its
  registers.
* `Definition.labelled` makes every literal of the body an object.
* `Definition.template` shows the body as an expression tree with placeholders.
-/

namespace Laminar

/-- An argument in the body of a layer. -/
inductive Term where
  | symbol (name : String)
  | parameter (name : String)
  | literal (value : Value)
  | deferred (text : String) (expr : Source.Expr)

/-- A callee in the body of a layer. -/
inductive CalleeTerm where
  | fixed (name : String)
  | parameter (name : String)

/-- A keyword in the body of a layer. -/
inductive KeywordTerm where
  | named (name : String) (value : Term)
  /-- The collected keywords are handed on. -/
  | forward

/-- A call in the body of a layer. -/
structure CallTerm where
  callee : CalleeTerm
  keywords : List KeywordTerm
  args : List Term

/-- A statement of a body: the line it stands on, the local that is bound, and the call. -/
structure BodyStatement where
  line : Nat
  target : String
  call : CallTerm

/-- The names a layer sees besides its own: a table of globals and, for a layer defined inside other
source, the table around it with the names it takes from there, in order. -/
structure Surroundings where
  globals : ScopeId
  enclosing : Option ScopeId := none
  free : List String := []

/-- A layer definition. -/
structure Definition where
  name : String
  signature : Signature
  /-- The statements before the last. -/
  inner : List BodyStatement
  /-- The last statement, which binds the output. -/
  last : BodyStatement
  surroundings : Surroundings
  /-- Where it was defined. -/
  file : SourceFile

namespace Definition

/-- All statements in order. -/
def body (d : Definition) : List BodyStatement := d.inner ++ [d.last]

/-- The locals in order. -/
def locals (d : Definition) : List String := d.body.map (·.target)

/-- The locals that need a minted name: all but the output. -/
def innerLocals (d : Definition) : List String := d.inner.map (·.target)

/-- The local that names the result. -/
def output (d : Definition) : String := d.last.target

/-- The names that stand for registers. -/
def symbolNames (d : Definition) : List String := d.signature.inputs ++ d.locals

/-- A one-line description. -/
def summary (d : Definition) : String :=
  "<layer " ++ d.name ++ "(" ++ commaJoin d.signature.inputs ++ ") -> " ++ d.output ++ ">"

@[simp]
theorem locals_eq (d : Definition) : d.locals = d.innerLocals ++ [d.output] := by
  simp [locals, body, innerLocals, output]

/-! ### Objects -/

/-- A term whose literal is an object of its own, with the number after it. -/
def labelTerm (n : Nat) : Term → Term × Nat
  | .literal value =>
    let (value, m) := value.labelled true n
    (.literal value, m)
  | t => (t, n)

/-- Terms whose literals are objects of their own. -/
def labelTerms (n : Nat) : List Term → List Term × Nat
  | [] => ([], n)
  | t :: ts =>
    let (t, m) := labelTerm n t
    let (ts, m) := labelTerms m ts
    (t :: ts, m)

/-- Keywords whose literals are objects of their own. -/
def labelKeywords (n : Nat) : List KeywordTerm → List KeywordTerm × Nat
  | [] => ([], n)
  | .named name value :: ks =>
    let (value, m) := labelTerm n value
    let (ks, m) := labelKeywords m ks
    (.named name value :: ks, m)
  | .forward :: ks =>
    let (ks, m) := labelKeywords n ks
    (.forward :: ks, m)

/-- A statement whose literals are objects of their own. -/
def labelStatement (n : Nat) (s : BodyStatement) : BodyStatement × Nat :=
  let (keywords, m) := labelKeywords n s.call.keywords
  let (args, m) := labelTerms m s.call.args
  ({ s with call := { s.call with keywords, args } }, m)

/-- Statements whose literals are objects of their own. -/
def labelStatements (n : Nat) : List BodyStatement → List BodyStatement × Nat
  | [] => ([], n)
  | s :: rest =>
    let (s, m) := labelStatement n s
    let (rest, m) := labelStatements m rest
    (s :: rest, m)

/-- A definition in which every literal is an object of its own, numbered from `n` on, and the
number after the last: a literal is the same object in all calls of the layer. -/
def labelled (d : Definition) (n : Nat) : Definition × Nat :=
  let (inner, m) := labelStatements n d.inner
  let (last, m) := labelStatement m d.last
  ({ d with inner, last }, m)

/-! ### The body as a tree -/

/-- A term as a node. -/
def termNode (globals : ScopeId) : Term → Node
  | .symbol name => .placeholder name
  | .parameter name => .placeholder name
  | .literal value => .const value
  | .deferred text expr => .deferred text expr globals [] .new

/-- A callee as a value. -/
def calleeValue : CalleeTerm → Value
  | .fixed name => .str name
  | .parameter name => .node (.placeholder name)

/-- A keyword as an entry of a parameter block. -/
def keywordEntry (globals : ScopeId) (collector : String) : KeywordTerm → Entry
  | .named name value => .keyword (.str name) (termNode globals value)
  | .forward => .other (.splat collector)

/-- The arguments of a call, with the parameter block in front if there is one. -/
def withParameters {α : Type} (keywords : List α) (entries : List Entry) (args : List Node) :
    List Node :=
  if keywords.isEmpty then args else .parameters entries :: args

/-- A call as a node. -/
def callNode (d : Definition) (c : CallTerm) : Node :=
  let globals := d.surroundings.globals
  let entries := c.keywords.map (keywordEntry globals (d.signature.collector.getD ""))
  .call (calleeValue c.callee) (withParameters c.keywords entries (c.args.map (termNode globals)))

/-- A statement as a line mark and an assignment. -/
def statementNodes (d : Definition) (s : BodyStatement) : List Node :=
  [.line s.line d.file, .assign (.placeholder s.target) (d.callNode s.call)]

/-- The body as a tree with a placeholder for every formal and local. -/
def template (d : Definition) : Node := .block (d.body.flatMap d.statementNodes)

end Definition

end Laminar
