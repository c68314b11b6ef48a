import Mathlib
import Laminar.Expansion.Compile
import Laminar.Proofs.Acceptance
import Laminar.Proofs.Arguments
import Laminar.Proofs.Emission

/-!
# Expansion as a relation

The compiler is a stateful recursive function: it carries frames for its diagnostics, it bounds the
depth of nesting, and it walks over trees of which most shapes never occur.  None of that matters
to *what* it produces.  This module says what it produces, as an inductive relation, and later
theory argues by induction over the relation alone.

A program comes from a list of pending calls.  A call of a primitive emits one instruction.  A call
of a layer is replaced by the calls of the layer's body, filled in.

* `Pending` is a call that waits to be expanded, `Evaluated` says what its arguments amount to.
* `Filled` relates a statement of a body to the call it becomes.
* `Expands lib calls c prog c'`: the calls expand to the program, and take the counters from `c` to
  `c'`.
* `expandCall_cases` says what one call amounts to in an ordinary registry; conversely,
  `expandCall_of_primitive` and `expandCall_of_composite`.
* `expands_of_compileCall`: in an ordinary registry, whatever is compiled is expanded.

**Design.** Only successful runs are described.  The results that need failures (for instance that a
wrapper fails exactly when what it wraps does) argue about the compiler itself.
-/

namespace Laminar

/-! ### Calls that wait -/

/-- A call that waits to be expanded. -/
structure Pending where
  callee : Value
  args : List Node
  /-- What receives the result. -/
  output : Value

/-- The arguments of a call amount to positional and named values, and evaluating them takes the
counters from `c` to `after`. -/
def Evaluated (lib : Library) (call : Pending) (c : Counters) (values : List Value)
    (named : List (String × Value)) (after : Counters) : Prop :=
  ∃ keywords s,
    (splitArguments lib call.callee call.args).run (argumentState call.args c) =
        (.ok (keywords, values), s) ∧
      keywordTexts keywords = .ok named ∧ after = c.after s

namespace Evaluated

variable {lib : Library} {call : Pending} {c after : Counters} {values : List Value}
  {named : List (String × Value)}

theorem values_given (h : Evaluated lib call c values named after) :
    ∀ v ∈ values, ∃ n ∈ positionalNodes call.args, n.Gives v := by
  obtain ⟨keywords, s, hsplit, -, -⟩ := h
  exact (splitArguments_values hsplit).1

theorem named_given (h : Evaluated lib call c values named after) :
    ∀ p ∈ named, ∃ k n, .keyword k n ∈ blockEntries call.args ∧ k.bare = .str p.1 ∧
      n.Gives p.2 := by
  obtain ⟨keywords, s, hsplit, hnamed, -⟩ := h
  intro p hp
  obtain ⟨k, hk, hname, hvalue⟩ := keywordTexts_values hnamed p hp
  obtain ⟨n, hn, hgives⟩ := (splitArguments_values hsplit).2 k hk
  exact ⟨k.1, n, hn, hname, hvalue ▸ hgives⟩

theorem own_eq (h : Evaluated lib call c values named after) : after.own = c.own := by
  obtain ⟨keywords, s, -, -, rfl⟩ := h
  rfl

/-- The counter in use moves along a relation if the deferred arguments move it along, or if it is
not the shared one. -/
theorem current_moves {R : Int → Int → Prop} [Std.Refl R] [IsTrans Int R]
    (h : Evaluated lib call c values named after)
    (hmoves : c.own.isSome ∨ ∀ n ∈ argumentNodes call.args, n.MovesBy lib R) :
    R c.current after.current := by
  obtain ⟨keywords, s, hsplit, -, rfl⟩ := h
  cases hown : c.own with
  | some n =>
    simp only [Counters.current, Counters.after, hown, Option.getD_some]
    exact Std.Refl.refl n
  | none =>
    have hall := hmoves.resolve_left (by simp [hown])
    have step := moves_splitArguments call.callee hall (argumentState call.args c)
    rw [hsplit] at step
    simpa only [Counters.current, Counters.after, argumentState, hown, Option.getD_none] using step

/-- Evaluating arguments never lowers the counter. -/
theorem current_le (h : Evaluated lib call c values named after) : c.current ≤ after.current := by
  refine h.current_moves (.inr fun n _ => ?_)
  cases n
  case deferred => exact evaluateIn_never_lowers _ _ _ _ _ _
  all_goals trivial

end Evaluated

/-- A callee names a generator of a registry. -/
def Registry.Names (r : Registry) (callee : Value) (body : GeneratorBody) : Prop :=
  ∃ name g, callee.bare = .str name ∧ r.get? name = some g ∧ g.body = body

theorem Registry.Names.holds {r : Registry} {callee : Value} {d : Definition}
    (h : r.Names callee (.composite d)) : r.Holds d := by
  obtain ⟨name, g, -, hget, hbody⟩ := h
  exact ⟨name, g, hget, hbody⟩

theorem Registry.Names.lookup {r : Registry} {callee : Value} {body : GeneratorBody}
    (h : r.Names callee body) : ∃ g, r.lookup callee = .ok (some g) ∧ g.body = body := by
  obtain ⟨name, g, hname, hget, hbody⟩ := h
  refine ⟨g, ?_, hbody⟩
  rw [Registry.lookup, hname]
  exact congrArg Except.ok hget

/-! ### Filling in -/

/-- What a statement of a body becomes: the call that binds what its target stands for. -/
structure Filled (d : Definition) (a : Actuals) (s : BodyStatement) (call : Pending) : Prop where
  target : a.get s.target = .ok call.output
  callee : Definition.fillCallee a s.call.callee = .ok call.callee
  args : ∃ entries nodes,
    Definition.fillKeywords d.surroundings.globals a s.call.keywords = .ok entries ∧
      Definition.fillTerms d.surroundings.globals a s.call.args = .ok nodes ∧
      call.args = Definition.withParameters s.call.keywords entries nodes

section Filling

variable {globals : ScopeId} {a : Actuals}

/-- An entry that is filled in is a keyword of the body, or one of those handed on. -/
theorem fillKeywords_entries {keywords : List KeywordTerm} {entries : List Entry}
    (h : Definition.fillKeywords globals a keywords = .ok entries) :
    ∀ e ∈ entries, ∃ name n, e = .keyword (.str name) n ∧
      ((∃ t, .named name t ∈ keywords ∧ Definition.fillTerm globals a t = .ok n) ∨
        ∃ v, (name, v) ∈ a.collected ∧ n = .const v) := by
  induction keywords generalizing entries with
  | nil =>
    simp only [Definition.fillKeywords, pure_eq_ok] at h
    simp [← h]
  | cons k rest ih =>
    have later {others : List Entry}
        (hothers : Definition.fillKeywords globals a rest = .ok others) :
        ∀ e ∈ others, ∃ name n, e = .keyword (.str name) n ∧
          ((∃ t, .named name t ∈ k :: rest ∧ Definition.fillTerm globals a t = .ok n) ∨
            ∃ v, (name, v) ∈ a.collected ∧ n = .const v) := by
      intro e he
      obtain ⟨name, n, rfl, hn⟩ := ih hothers e he
      refine ⟨name, n, rfl, hn.imp_left ?_⟩
      rintro ⟨t, ht, hfill⟩
      exact ⟨t, List.mem_cons_of_mem _ ht, hfill⟩
    cases k with
    | named name value =>
      simp only [Definition.fillKeywords, bind_eq_ok, pure_eq_ok] at h
      obtain ⟨node, hnode, others, hothers, rfl⟩ := h
      rw [List.forall_mem_cons]
      exact ⟨⟨name, node, rfl, .inl ⟨value, List.mem_cons_self .., hnode⟩⟩, later hothers⟩
    | forward =>
      simp only [Definition.fillKeywords, bind_eq_ok, pure_eq_ok] at h
      obtain ⟨others, hothers, rfl⟩ := h
      rw [List.forall_mem_append]
      refine ⟨fun e he => ?_, later hothers⟩
      obtain ⟨⟨name, v⟩, hv, rfl⟩ := List.mem_map.1 he
      exact ⟨name, .const v, rfl, .inr ⟨v, hv, rfl⟩⟩

theorem fillTerms_nodes {terms : List Term} {nodes : List Node}
    (h : Definition.fillTerms globals a terms = .ok nodes) :
    ∀ n ∈ nodes, ∃ t ∈ terms, Definition.fillTerm globals a t = .ok n := by
  induction terms generalizing nodes with
  | nil =>
    simp only [Definition.fillTerms, pure_eq_ok] at h
    simp [← h]
  | cons t rest ih =>
    simp only [Definition.fillTerms, bind_eq_ok, pure_eq_ok] at h
    obtain ⟨node, hnode, others, hothers, rfl⟩ := h
    rw [List.forall_mem_cons]
    refine ⟨⟨t, List.mem_cons_self .., hnode⟩, fun n hn => ?_⟩
    obtain ⟨u, hu, hfill⟩ := ih hothers n hn
    exact ⟨u, List.mem_cons_of_mem _ hu, hfill⟩

/-- A term never becomes a parameter block. -/
theorem fillTerm_ne_parameters {t : Term} {entries : List Entry} :
    Definition.fillTerm globals a t ≠ .ok (.parameters entries) := by
  intro h
  cases t with
  | symbol name =>
    obtain ⟨v, -, hv⟩ := bind_eq_ok.1 h
    cases pure_eq_ok.1 hv
  | parameter name =>
    obtain ⟨v, -, hv⟩ := bind_eq_ok.1 h
    cases pure_eq_ok.1 hv
  | literal value => cases pure_eq_ok.1 h
  | deferred text e => cases pure_eq_ok.1 h

theorem not_block_of_fillTerms {terms : List Term} {nodes : List Node}
    (h : Definition.fillTerms globals a terms = .ok nodes) :
    blockEntries nodes = [] ∧ positionalNodes nodes = nodes := by
  rcases nodes with _ | ⟨n, rest⟩
  · exact ⟨rfl, rfl⟩
  · obtain ⟨t, -, hfill⟩ := fillTerms_nodes h n (List.mem_cons_self ..)
    cases n
    case parameters entries => exact absurd hfill fillTerm_ne_parameters
    all_goals exact ⟨rfl, rfl⟩

end Filling

namespace Filled

variable {d : Definition} {a : Actuals} {s : BodyStatement} {call : Pending}

/-- The keywords of a call that was filled in. -/
theorem entries (h : Filled d a s call) : ∀ e ∈ blockEntries call.args,
    ∃ name n, e = .keyword (.str name) n ∧
      ((∃ t, .named name t ∈ s.call.keywords ∧
          Definition.fillTerm d.surroundings.globals a t = .ok n) ∨
        ∃ v, (name, v) ∈ a.collected ∧ n = .const v) := by
  obtain ⟨entries, nodes, hentries, hnodes, hargs⟩ := h.args
  rw [hargs, Definition.withParameters]
  split
  · rw [(not_block_of_fillTerms hnodes).1]
    simp
  · exact fillKeywords_entries hentries

/-- The positional arguments of a call that was filled in. -/
theorem positional (h : Filled d a s call) : ∀ n ∈ positionalNodes call.args,
    ∃ t ∈ s.call.args, Definition.fillTerm d.surroundings.globals a t = .ok n := by
  obtain ⟨entries, nodes, hentries, hnodes, hargs⟩ := h.args
  rw [hargs, Definition.withParameters]
  split
  · rw [(not_block_of_fillTerms hnodes).2]
    exact fillTerms_nodes hnodes
  · exact fillTerms_nodes hnodes

/-- Whatever is evaluated for a call that was filled in is a term of the statement, or the value of
a keyword handed on. -/
theorem nodes (h : Filled d a s call) : ∀ n ∈ argumentNodes call.args,
    (∃ t ∈ s.call.terms, Definition.fillTerm d.surroundings.globals a t = .ok n) ∨
      ∃ k ∈ a.collected, n = .const k.2 := by
  intro n hn
  rcases List.mem_append.1 hn with hn | hn
  · obtain ⟨e, he, hnode⟩ := List.mem_filterMap.1 hn
    obtain ⟨name, m, rfl, hm⟩ := h.entries e he
    cases hnode
    rcases hm with ⟨t, ht, hfill⟩ | ⟨v, hv, rfl⟩
    · refine .inl ⟨t, List.mem_append_left _ (List.mem_filterMap.2 ?_), hfill⟩
      exact ⟨_, ht, rfl⟩
    · exact .inr ⟨_, hv, rfl⟩
  · obtain ⟨t, ht, hfill⟩ := h.positional n hn
    exact .inl ⟨t, List.mem_append_right _ ht, hfill⟩

/-- The names of the keywords of a call that was filled in. -/
theorem names (h : Filled d a s call) {k : Value} {n : Node}
    (hk : .keyword k n ∈ blockEntries call.args) :
    ∃ name, k = .str name ∧ (name ∈ s.call.keywordNames ∨ ∃ v, (name, v) ∈ a.collected) := by
  obtain ⟨name, m, heq, hm⟩ := h.entries _ hk
  cases heq
  refine ⟨name, rfl, ?_⟩
  rcases hm with ⟨t, ht, -⟩ | ⟨v, hv, -⟩
  · exact .inl (List.mem_filterMap.2 ⟨_, ht, rfl⟩)
  · exact .inr ⟨v, hv⟩

end Filled

/-- A body is filled in statement by statement. -/
theorem fillBody_cons_eq_ok {d : Definition} {a : Actuals} {s : BodyStatement}
    {rest : List BodyStatement} {statements : List Node}
    (h : Definition.fillBody d.file d.surroundings.globals a (s :: rest) = .ok statements) :
    ∃ call others, Filled d a s call ∧
      Definition.fillBody d.file d.surroundings.globals a rest = .ok others ∧
      statements = .line s.line d.file ::
        .assign (.symbol call.output) (.call call.callee call.args) :: others := by
  simp only [Definition.fillBody, Definition.fillCall, bind_eq_ok, pure_eq_ok] at h
  obtain ⟨target, htarget, call, ⟨callee, hcallee, entries, hentries, args, hargs, rfl⟩,
    others, hothers, rfl⟩ := h
  exact ⟨⟨callee, _, target⟩, others, ⟨htarget, hcallee, entries, args, hentries, hargs, rfl⟩,
    hothers, rfl⟩

/-- Statements that can be filled in one by one are filled in together. -/
theorem fillBody_cons_of_filled {d : Definition} {a : Actuals} {s : BodyStatement}
    {rest : List BodyStatement} {call : Pending} {others : List Node} (h : Filled d a s call)
    (hrest : Definition.fillBody d.file d.surroundings.globals a rest = .ok others) :
    Definition.fillBody d.file d.surroundings.globals a (s :: rest) =
      .ok (.line s.line d.file ::
        .assign (.symbol call.output) (.call call.callee call.args) :: others) := by
  obtain ⟨entries, nodes, hentries, hnodes, hargs⟩ := h.args
  simp only [Definition.fillBody, Definition.fillCall, bind_eq_ok, pure_eq_ok]
  exact ⟨_, h.target, _, ⟨_, h.callee, entries, hentries, nodes, hnodes, rfl⟩, others, hrest,
    by rw [hargs]⟩

/-! ### Expansion -/

/-- **Expansion.** The pending calls become a program, one after the other. -/
inductive Expands (lib : Library) : List Pending → Counters → Program → Counters → Prop where
  | done (c : Counters) : Expands lib [] c [] c
  /-- A primitive emits one instruction. -/
  | primitive {call : Pending} {rest : List Pending} {c c₁ c₂ : Counters} {values : List Value}
      {named : List (String × Value)} {p : Primitive} {i : Instruction} {prog : Program}
      (args : Evaluated lib call c values named c₁)
      (emitted : p.instruction (unlabelledList (values ++ [call.output])) (unlabelledNamed named) =
        .ok i)
      (more : Expands lib rest c₁ prog c₂) :
      Expands lib (call :: rest) c (i :: prog) c₂
  /-- A layer is replaced by its body, for which new names are minted. -/
  | layer {call : Pending} {rest body : List Pending} {c c₁ c₂ c₃ : Counters}
      {values : List Value} {named : List (String × Value)} {d : Definition} {b : Binding}
      {out : String} {inner prog : Program}
      (args : Evaluated lib call c values named c₁)
      (held : lib.registry.Holds d)
      (bound : d.bindCall values call.output named = .ok (b, out))
      (filled : List.Forall₂
        (Filled d (d.actuals b (lib.scopes.closure d.surroundings) out c₁.current)) d.body body)
      (inside : Expands lib body (c₁.setCurrent (c₁.current + d.inner.length)) inner c₂)
      (more : Expands lib rest c₂ prog c₃) :
      Expands lib (call :: rest) c (inner ++ prog) c₃

/-- Expanding calls in two parts is expanding them together. -/
theorem Expands.append {lib : Library} {calls calls' : List Pending} {c c₁ c₂ : Counters}
    {prog prog' : Program} (h : Expands lib calls c prog c₁) (h' : Expands lib calls' c₁ prog' c₂) :
    Expands lib (calls ++ calls') c (prog ++ prog') c₂ := by
  induction h with
  | done => exact h'
  | primitive args emitted _ ih => exact .primitive args emitted (ih h')
  | layer args held bound filled inside _ _ ih =>
    rw [List.append_assoc]
    exact .layer args held bound filled inside (ih h')

/-! ### The compiler expands -/

/-- The state in which a line is marked in the innermost frame. -/
def Compiler.marked (c : Compiler) (line : Int) : Compiler :=
  match c.frames with
  | [] => c
  | f :: fs => { c with frames := { f with line := some line } :: fs }

theorem run_markLine (line : Int) (c : Compiler) :
    (markLine line).run c = (.ok (), c.marked line) := rfl

@[simp]
theorem counters_marked (c : Compiler) (line : Int) : (c.marked line).counters = c.counters := by
  unfold Compiler.marked
  split <;> rfl

theorem counters_of_markLine {line : Int} {u : Unit} {c c' : Compiler}
    (h : (markLine line).run c = (.ok u, c')) : c'.counters = c.counters := by
  rw [run_markLine] at h
  obtain ⟨-, rfl⟩ := Prod.mk.inj h
  exact counters_marked c line

/-- A statement of a body marks its line, and then its call is resolved. -/
theorem run_compileNodes_statement (resolve : Resolver) (line : Int) (file : SourceFile)
    (output callee : Value) (args others : List Node) (c : Compiler) :
    (compileNodes resolve
        (.line line file :: .assign (.symbol output) (.call callee args) :: others)).run c =
      (do
        let first ← resolve callee args output
        return first ++ (← compileNodes resolve others) : Compile Program).run
          (c.marked line) := by
  rw [compileNodes_cons, run_bind, compileNode_line, run_bind, run_markLine]
  change ((do
      let more ← compileNodes resolve (.assign (.symbol output) (.call callee args) :: others)
      return [] ++ more) : Compile Program).run (c.marked line) = _
  simp only [List.nil_append, bind_pure, compileNodes_cons]
  rfl

/-- Compiling in a frame is compiling, as far as results and counters go. -/
theorem run_withFrame {α : Type} {layer : String} {body : Compile α} {a : α} {c c' : Compiler}
    (h : (withFrame layer body).run c = (.ok a, c')) :
    ∃ c'', body.run { c with frames := { layer } :: c.frames } = (.ok a, c'') ∧
      c'.counters = c''.counters := by
  obtain ⟨hresult, rfl⟩ := Prod.mk.inj h
  exact ⟨_, Prod.ext hresult rfl, rfl⟩

section Compiler

variable {lib : Library}

/-- **A body is compiled call by call.** Whatever holds of no calls, and of one more call if it holds
of the calls after it, holds of the calls of a body that was filled in. -/
theorem inTurn_of_fillBody {resolve : Resolver}
    {R : List Pending → Counters → Program → Counters → Prop} (done : ∀ c, R [] c [] c)
    (next : ∀ {call rest s t first more c'},
      (resolve call.callee call.args call.output).run s = (.ok first, t) →
        R rest t.counters more c' → R (call :: rest) s.counters (first ++ more) c')
    {d : Definition} {a : Actuals} {body : List BodyStatement} {statements : List Node}
    (hfill : Definition.fillBody d.file d.surroundings.globals a body = .ok statements)
    {c c' : Compiler} {prog : Program}
    (h : (compileNodes resolve statements).run c = (.ok prog, c')) :
    ∃ calls, List.Forall₂ (Filled d a) body calls ∧ R calls c.counters prog c'.counters := by
  induction body generalizing statements c prog with
  | nil =>
    simp only [Definition.fillBody, pure_eq_ok] at hfill
    subst hfill
    obtain ⟨rfl, rfl⟩ := run_pure_eq_ok.1 h
    exact ⟨[], .nil, done _⟩
  | cons s rest ih =>
    obtain ⟨call, others, hfilled, hothers, rfl⟩ := fillBody_cons_eq_ok hfill
    rw [run_compileNodes_statement] at h
    obtain ⟨first, c₁, hfirst, hlater⟩ := run_bind_eq_ok.1 h
    obtain ⟨more, c₂, hmore, hboth⟩ := run_bind_eq_ok.1 hlater
    obtain ⟨rfl, rfl⟩ := run_pure_eq_ok.1 hboth
    obtain ⟨calls, hcalls, hrest⟩ := ih hothers hmore
    have hall := next hfirst hrest
    rw [counters_marked] at hall
    exact ⟨_, .cons hfilled hcalls, hall⟩

theorem get?_of_lookup {r : Registry} {v : Value} {g : Generator} (h : r.lookup v = .ok (some g)) :
    ∃ name, v.bare = .str name ∧ r.get? name = some g := by
  unfold Registry.lookup at h
  split at h
  · rename_i name hname
    exact ⟨name, hname, pure_eq_ok.1 h⟩
  · obtain ⟨_, -, h⟩ := bind_eq_ok.1 h
    cases pure_eq_ok.1 h

theorem setCurrent_current (c : Counters) : c.setCurrent c.current = c := by
  obtain ⟨shared, own, sources⟩ := c
  cases own <;> rfl

section Invocation

variable {g : Generator} {scopes : Scopes} {args : List Value} {output : Value}
  {keywords : List (Value × Value)} {n after : Int} {o : Outcome}

theorem invoke_primitive {p : Primitive} (hg : g.body = .primitive p)
    (h : g.invoke scopes args output keywords n = (.ok o, after)) :
    ∃ named i, keywordTexts keywords = .ok named ∧ o = .instruction i ∧ after = n ∧
      p.instruction (unlabelledList (args ++ [output])) (unlabelledNamed named) = .ok i := by
  simp only [Generator.invoke, hg] at h
  split at h
  · simp at h
  · rename_i named hnamed
    simp only [Prod.mk.injEq, map_eq_ok] at h
    obtain ⟨⟨i, hi, rfl⟩, rfl⟩ := h
    exact ⟨named, i, hnamed, rfl, rfl, hi⟩

theorem invoke_composite {d : Definition} (hg : g.body = .composite d)
    (h : g.invoke scopes args output keywords n = (.ok o, after)) :
    ∃ named b out statements, keywordTexts keywords = .ok named ∧
      o = .block (.block statements) ∧ after = n + d.inner.length ∧
      d.bindCall args output named = .ok (b, out) ∧
      firstUnwritable d.inner.length n = none ∧
      Definition.fillBody d.file d.surroundings.globals
        (d.actuals b (scopes.closure d.surroundings) out n) d.body = .ok statements := by
  simp only [Generator.invoke, hg] at h
  split at h
  · simp at h
  · rename_i named hnamed
    simp only [Prod.mk.injEq, map_eq_ok, Definition.generate] at h
    obtain ⟨⟨node, hnode, rfl⟩, rfl⟩ := h
    split at hnode
    · simp at hnode
    · rename_i b out hbind
      split at hnode
      · simp at hnode
      · rename_i hnumbers
        simp only [Definition.instantiate, bind_eq_ok, pure_eq_ok] at hnode
        obtain ⟨statements, hfill, rfl⟩ := hnode
        exact ⟨named, b, out, statements, hnamed, rfl, by simp, hbind, hnumbers, hfill⟩

end Invocation

/-- **What one call amounts to** in an ordinary registry: the instruction of a primitive, or the
body of a layer. -/
theorem expandCall_cases (hr : lib.registry.Ordinary) {callee : Value} {args : List Node}
    {output : Value} {c c' : Counters} {o : Outcome}
    (h : expandCall lib callee args output c = (.ok o, c')) :
    ∃ values named c₁, Evaluated lib ⟨callee, args, output⟩ c values named c₁ ∧
      ((∃ p i, lib.registry.Names callee (.primitive p) ∧ o = .instruction i ∧ c' = c₁ ∧
          p.instruction (unlabelledList (values ++ [output])) (unlabelledNamed named) = .ok i) ∨
        ∃ d b out statements, lib.registry.Names callee (.composite d) ∧
          o = .block (.block statements) ∧
          c' = c₁.setCurrent (c₁.current + d.inner.length) ∧
          d.bindCall values output named = .ok (b, out) ∧
          firstUnwritable d.inner.length c₁.current = none ∧
          Definition.fillBody d.file d.surroundings.globals
            (d.actuals b (lib.scopes.closure d.surroundings) out c₁.current) d.body =
              .ok statements) := by
  unfold expandCall at h
  rcases hsplit : (splitArguments lib callee args).run (argumentState args c) with
    ⟨_ | ⟨keywords, values⟩, s⟩
  · simp [hsplit] at h
  simp only [hsplit] at h
  split at h
  · simp at h
  · simp at h
  · rename_i g hlookup
    obtain ⟨name, hname, hget⟩ := get?_of_lookup hlookup
    obtain ⟨hresult, rfl⟩ := Prod.mk.inj h
    rw [mapError_eq_ok] at hresult
    rcases hr name g hget with ⟨p, hp⟩ | ⟨d, hd, -⟩
    · obtain ⟨named, i, hnamed, rfl, hafter, hi⟩ := invoke_primitive hp (Prod.ext hresult rfl)
      refine ⟨values, named, _, ⟨keywords, s, hsplit, hnamed, rfl⟩,
        .inl ⟨p, i, ⟨name, g, hname, hget, hp⟩, rfl, ?_, hi⟩⟩
      exact (congrArg _ hafter).trans (setCurrent_current _)
    · obtain ⟨named, b, out, statements, hnamed, rfl, hafter, hbind, hnumbers, hfill⟩ :=
        invoke_composite hd (Prod.ext hresult rfl)
      refine ⟨values, named, _, ⟨keywords, s, hsplit, hnamed, rfl⟩,
        .inr ⟨d, b, out, statements, ⟨name, g, hname, hget, hd⟩, rfl, ?_, hbind, hnumbers, hfill⟩⟩
      exact congrArg _ hafter

section Amounts

variable {callee : Value} {args : List Node} {output : Value} {c c₁ : Counters}
  {values : List Value} {named : List (String × Value)}

/-- A call of a primitive amounts to its instruction. -/
theorem expandCall_of_primitive {p : Primitive} {i : Instruction}
    (hargs : Evaluated lib ⟨callee, args, output⟩ c values named c₁)
    (hp : lib.registry.Names callee (.primitive p))
    (hi : p.instruction (unlabelledList (values ++ [output])) (unlabelledNamed named) = .ok i) :
    expandCall lib callee args output c = (.ok (.instruction i), c₁) := by
  obtain ⟨keywords, s, hsplit, hnamed, rfl⟩ := hargs
  obtain ⟨g, hlookup, hbody⟩ := hp.lookup
  simp only [expandCall, hsplit, hlookup, Generator.invoke, hbody, hnamed, hi]
  exact Prod.ext rfl (setCurrent_current _)

/-- A call of a layer amounts to its body, filled in. -/
theorem expandCall_of_composite {d : Definition} {b : Binding} {out : String}
    {statements : List Node}
    (hargs : Evaluated lib ⟨callee, args, output⟩ c values named c₁)
    (hd : lib.registry.Names callee (.composite d))
    (hbind : d.bindCall values output named = .ok (b, out))
    (hnumbers : firstUnwritable d.inner.length c₁.current = none)
    (hfill : Definition.fillBody d.file d.surroundings.globals
      (d.actuals b (lib.scopes.closure d.surroundings) out c₁.current) d.body = .ok statements) :
    expandCall lib callee args output c =
      (.ok (.block (.block statements)), c₁.setCurrent (c₁.current + d.inner.length)) := by
  obtain ⟨keywords, s, hsplit, hnamed, rfl⟩ := hargs
  obtain ⟨g, hlookup, hbody⟩ := hd.lookup
  simp only [expandCall, hsplit, hlookup, Generator.invoke, hbody, hnamed, Definition.generate,
    hbind, hnumbers, Definition.instantiate, hfill]
  rfl

end Amounts

/-- What a call amounts to is compiled further: a block of a layer in a frame of its own. -/
def compileOutcome (resolve : Resolver) (callee : Value) : Outcome → Compile Program
  | .instruction i => pure [i]
  | .value v => compileNode resolve (Node.ofValue v)
  | .block n => withFrame callee.display (compileNode resolve n)

/-- **A call is resolved** by finding out what it amounts to and compiling that. -/
theorem resolveCall_eq_ok {depth : Nat} {callee : Value} {args : List Node} {output : Value}
    {c c' : Compiler} {prog : Program} :
    (resolveCall lib (depth + 1) callee args output).run c = (.ok prog, c') ↔
      ∃ o after, expandCall lib callee args output c.counters = (.ok o, after) ∧
        (compileOutcome (resolveCall lib depth) callee o).run { c with counters := after } =
          (.ok prog, c') := by
  rw [resolveCall, run_bind, run_get]
  rcases hcall : expandCall lib callee args output c.counters with ⟨_ | o, after⟩
  · simp only [hcall, run_bind_eq_ok, run_throw_ne_ok, and_false, exists_false, Prod.mk.injEq,
      reduceCtorEq, false_and]
  · simp only [hcall, run_bind_eq_ok, run_set, Prod.mk.injEq, Except.ok.injEq]
    constructor
    · rintro ⟨_, _, ⟨-, rfl⟩, h⟩
      refine ⟨o, after, ⟨rfl, rfl⟩, ?_⟩
      cases o <;> exact h
    · rintro ⟨_, _, ⟨rfl, rfl⟩, h⟩
      refine ⟨⟨⟩, _, rfl, ?_⟩
      cases o <;> exact h

/-- Resolving a call in an ordinary registry expands it. -/
theorem expands_of_resolveCall (hr : lib.registry.Ordinary) {depth : Nat} {callee : Value}
    {args : List Node} {output : Value} {c c' : Compiler} {prog : Program}
    (h : (resolveCall lib depth callee args output).run c = (.ok prog, c')) :
    Expands lib [⟨callee, args, output⟩] c.counters prog c'.counters := by
  induction depth generalizing callee args output c prog c' with
  | zero => exact absurd h run_throw_ne_ok
  | succ depth ih =>
    obtain ⟨o, after, hcall, hrest⟩ := resolveCall_eq_ok.1 h
    obtain ⟨values, named, c₀, heval, hcases⟩ := expandCall_cases hr hcall
    rcases hcases with
      ⟨p, i, -, rfl, rfl, hi⟩ | ⟨d, b, out, statements, hd, rfl, rfl, hbind, -, hfill⟩
    · obtain ⟨rfl, rfl⟩ := run_pure_eq_ok.1 hrest
      exact .primitive heval hi (.done _)
    · obtain ⟨c₃, hbody, hcounters⟩ := run_withFrame hrest
      obtain ⟨calls, hfilled, hinside⟩ :=
        inTurn_of_fillBody .done (fun hcall hrest => (ih hcall).append hrest) hfill hbody
      rw [hcounters, ← List.append_nil prog]
      exact .layer heval hd.holds hbind hfilled hinside (.done _)

/-- A call from outside is resolved without any frame around it. -/
theorem run_compileCall (depth : Nat) (name : Value) (inputs : List Value) (output : Value)
    (params : List (String × Value)) (c : Compiler) :
    (compileCall lib depth name inputs output params).run c =
      (resolveCall lib depth name (callArguments inputs params) output).run
        { c with frames := [] } := by
  rw [compileCall, run_bind, run_modify]

theorem blockEntries_callArguments {inputs : List Value} {params : List (String × Value)} :
    blockEntries (callArguments inputs params) =
      params.map fun p => .keyword (.str p.1) (.const p.2) := by
  cases params with
  | nil => cases inputs <;> rfl
  | cons p ps => rfl

theorem positionalNodes_callArguments {inputs : List Value} {params : List (String × Value)} :
    positionalNodes (callArguments inputs params) = inputs.map .symbol := by
  cases params with
  | nil => cases inputs <;> rfl
  | cons p ps => rfl

/-- **Compilation is expansion.** What a call from outside compiles to in an ordinary registry is
what that one pending call expands to. -/
theorem expands_of_compileCall (hr : lib.registry.Ordinary) {depth : Nat} {name : Value}
    {inputs : List Value} {output : Value} {params : List (String × Value)} {c c' : Compiler}
    {prog : Program}
    (h : (compileCall lib depth name inputs output params).run c = (.ok prog, c')) :
    Expands lib [⟨name, callArguments inputs params, output⟩] c.counters prog c'.counters := by
  rw [run_compileCall] at h
  exact (expands_of_resolveCall hr h :)

end Compiler

/-- The default registry without anything around it. -/
def Library.standard : Library :=
  { registry := Registry.default, scopes := [], samples := .zeros }

end Laminar
