import Mathlib
import Laminar.Proofs.CallLanguage
import Laminar.Proofs.SingleAssignment
import Laminar.Proofs.Wording

/-!
# Where a failure is located

A diagnostic names the callee, the layer whose body holds the call, and the line of the statement.
The compiler takes layer and line from its frames: it pushes one when it enters a layer, overwrites
its line at every statement, and pops it again.  This module shows that the place a diagnostic names
is a place of the source, namely the one at which the failing call stands.

* `Reaches lib first call`: the compiler gets from one call to another through the bodies of layers.
* `frames_of_resolveCall`: a call that succeeds leaves the frames as they were, so after any
  number of statements the line is still that of the statement at hand (`fails_of_fillBody`).
* `blamed_of_resolveCall`: what a failing call fails with, and where.
* `compileCall_fails_located` is the theorem about calls from outside.

One failure has no place.  A deferred argument may fail over a missing key that is too long to be
written; then the diagnostic about it cannot be worded either, and the failure is a bare fault.
-/

namespace Laminar

/-! ### Calls that are reached -/

/-- A call enters a layer: its callee names the layer, its arguments are evaluated and bound, and
the names of the body then stand for the actuals. -/
structure Enters (lib : Library) (call : Pending) (d : Definition) (b : Binding) (a : Actuals) :
    Prop where
  named : lib.registry.Names call.callee (.composite d)
  bound : ∃ c c₁ values named out, Evaluated lib call c values named c₁ ∧
    d.bindCall values call.output named = .ok (b, out) ∧
    a = d.actuals b (lib.scopes.closure d.surroundings) out c₁.current

/-- The compiler gets from one call to another through the bodies of layers. -/
inductive Reaches (lib : Library) (first : Pending) : Pending → Prop where
  | refl : Reaches lib first first
  | step {call inner : Pending} {d : Definition} {b : Binding} {a : Actuals} {s : BodyStatement}
      (before : Reaches lib first call) (enters : Enters lib call d b a) (statement : s ∈ d.body)
      (filled : Filled d a s inner) : Reaches lib first inner

/-! ### Evaluation of arguments that fails -/

/-- A deferred argument, shown as `text`, fails when it is evaluated in some state. -/
inductive Node.FailsAs (lib : Library) : Node → String → Failure → Prop where
  | deferred {text : String} {e : Source.Expr} {globals : ScopeId} {names : List (String × Value)}
      {object : Identity} {err : Failure} {s t : EvalState}
      (fails : (evaluateIn lib.samples lib.functions lib.scopes globals names e).run s =
        (.error err, t)) :
      FailsAs lib (.deferred text e globals names object) text err

/-- What may stand as an argument of a call: a symbol, a constant or a deferred expression. -/
def Node.IsArgument : Node → Prop
  | .symbol _ | .const _ | .deferred .. => True
  | _ => False

/-- Arguments as calls in bodies and calls from outside have them. -/
structure OrdinaryArguments (args : List Node) : Prop where
  entries : ∀ e ∈ blockEntries args, ∃ name n, e = .keyword (.str name) n
  nodes : ∀ n ∈ argumentNodes args, n.IsArgument

theorem Node.isArgument_of_fillTerm {globals : ScopeId} {a : Actuals} {t : Term} {n : Node}
    (h : Definition.fillTerm globals a t = .ok n) : n.IsArgument := by
  cases t with
  | symbol name =>
    obtain ⟨v, -, h⟩ := bind_eq_ok.1 h
    cases pure_eq_ok.1 h
    trivial
  | parameter name =>
    obtain ⟨v, -, h⟩ := bind_eq_ok.1 h
    cases pure_eq_ok.1 h
    trivial
  | literal value =>
    cases pure_eq_ok.1 h
    trivial
  | deferred text e =>
    cases pure_eq_ok.1 h
    trivial

theorem Filled.ordinaryArguments {d : Definition} {a : Actuals} {s : BodyStatement} {call : Pending}
    (h : Filled d a s call) : OrdinaryArguments call.args := by
  refine ⟨fun e he => ?_, fun n hn => ?_⟩
  · obtain ⟨name, n, heq, -⟩ := h.entries e he
    exact ⟨name, n, heq⟩
  · rcases h.nodes n hn with ⟨t, -, hfill⟩ | ⟨k, -, rfl⟩
    · exact Node.isArgument_of_fillTerm hfill
    · trivial

theorem ordinaryArguments_callArguments (inputs : List Value) (params : List (String × Value)) :
    OrdinaryArguments (callArguments inputs params) := by
  refine ⟨fun e he => ?_, fun n hn => ?_⟩
  · rw [blockEntries_callArguments] at he
    obtain ⟨p, -, rfl⟩ := List.mem_map.1 he
    exact ⟨p.1, _, rfl⟩
  · rw [argumentNodes, blockEntries_callArguments, positionalNodes_callArguments] at hn
    rcases List.mem_append.1 hn with hn | hn
    · obtain ⟨e, he, hnode⟩ := List.mem_filterMap.1 hn
      obtain ⟨p, -, rfl⟩ := List.mem_map.1 he
      cases hnode
      trivial
    · obtain ⟨v, -, rfl⟩ := List.mem_map.1 hn
      trivial

section Arguments

variable {lib : Library} {callee : Value} {s t : EvalState} {e : Failure}

/-- The failure of a call one of whose deferred arguments fails. -/
def DeferredFails (lib : Library) (callee : Value) (nodes : List Node) (e : Failure) : Prop :=
  ∃ n ∈ nodes, ∃ text err, n.FailsAs lib text err ∧
    e = (Problem.evaluationFailed callee text err.asFault.settled).calling callee

theorem DeferredFails.mono {nodes nodes' : List Node} (h : DeferredFails lib callee nodes e)
    (hsubset : nodes ⊆ nodes') : DeferredFails lib callee nodes' e := by
  obtain ⟨n, hn, rest⟩ := h
  exact ⟨n, hsubset hn, rest⟩

theorem evaluateDeferred_eq_error {text : String} {x : Source.Expr} {globals : ScopeId}
    {names : List (String × Value)} (object : Identity)
    (h : (evaluateDeferred lib callee text x globals names).run s = (.error e, t)) :
    DeferredFails lib callee [.deferred text x globals names object] e := by
  rcases hrun : (evaluateIn lib.samples lib.functions lib.scopes globals names x).run s with
    ⟨err | v, u⟩
  · rw [run_evaluateDeferred_of_error text hrun] at h
    cases h
    exact ⟨_, List.mem_singleton_self _, text, err, .deferred hrun, rfl⟩
  · rw [run_evaluateDeferred_of_ok text hrun] at h
    cases h

theorem keywordValue_eq_error {n : Node} (hn : n.IsArgument)
    (h : (keywordValue lib callee n).run s = (.error e, t)) : DeferredFails lib callee [n] e := by
  cases n
  case deferred => exact evaluateDeferred_eq_error _ h
  case symbol | const => exact absurd h run_pure_ne_error
  all_goals exact hn.elim

theorem argumentValue_eq_error {index : Nat} {n : Node} (hn : n.IsArgument)
    (h : (argumentValue lib callee index n).run s = (.error e, t)) :
    DeferredFails lib callee [n] e := by
  cases n
  case deferred => exact evaluateDeferred_eq_error _ h
  case symbol | const => exact absurd h run_pure_ne_error
  all_goals exact hn.elim

theorem splitEntries_eq_error {entries : List Entry} {known : List (Value × Value)}
    (hentries : ∀ e ∈ entries, ∃ name n, e = .keyword (.str name) n)
    (hnodes : ∀ n ∈ entries.filterMap Entry.node?, n.IsArgument)
    (h : (splitEntries lib callee entries known).run s = (.error e, t)) :
    (∃ name, e = (Problem.repeatedKeyword (.str name)).failure) ∨
      DeferredFails lib callee (entries.filterMap Entry.node?) e := by
  induction entries generalizing known s with
  | nil => exact absurd h run_pure_ne_error
  | cons entry rest ih =>
    obtain ⟨⟨name, n, rfl⟩, hrest⟩ := List.forall_mem_cons.1 hentries
    simp only [List.filterMap_cons, Entry.node?, List.forall_mem_cons] at hnodes ⊢
    rw [splitEntries] at h
    -- A text can always be looked up among the keywords.
    have hhash : (settle (Value.checkHashable (.str name))).run s = (.ok (), s) := rfl
    rw [run_bind, hhash] at h
    dsimp only at h
    split at h
    · left
      rcases run_bind_eq_error.1 h with h | ⟨_, _, h, -⟩
      · exact ⟨name, (run_throw_eq_error.1 h).1.symm⟩
      · exact absurd h run_throw_ne_ok
    · rcases run_bind_eq_error.1 h with h | ⟨v, u, -, h⟩
      · exact .inr ((keywordValue_eq_error hnodes.1 h).mono (by simp))
      · exact (ih hrest hnodes.2 h).imp_right fun hlater => hlater.mono (List.subset_cons_self ..)

theorem splitPositional_eq_error {index : Nat} {nodes : List Node}
    (hnodes : ∀ n ∈ nodes, n.IsArgument)
    (h : (splitPositional lib callee index nodes).run s = (.error e, t)) :
    DeferredFails lib callee nodes e := by
  induction nodes generalizing index s with
  | nil => exact absurd h run_pure_ne_error
  | cons n rest ih =>
    obtain ⟨hn, hrest⟩ := List.forall_mem_cons.1 hnodes
    unfold splitPositional at h
    split at h
    · exact absurd h run_pure_ne_error
    · rename_i heq
      cases heq
      exact hn.elim
    · rename_i heq
      cases heq
      rcases run_bind_eq_error.1 h with h | ⟨v, u, -, h⟩
      · exact (argumentValue_eq_error hn h).mono (by simp)
      · rcases run_bind_eq_error.1 h with h | ⟨vs, w, -, h⟩
        · exact (ih hrest h).mono (List.subset_cons_self ..)
        · exact absurd h run_pure_ne_error

/-- **How the evaluation of arguments fails**: a keyword is repeated, or a deferred argument
fails. -/
theorem splitArguments_eq_error {args : List Node} (hargs : OrdinaryArguments args)
    (h : (splitArguments lib callee args).run s = (.error e, t)) :
    (∃ name, e = (Problem.repeatedKeyword (.str name)).failure) ∨
      DeferredFails lib callee (argumentNodes args) e := by
  obtain ⟨hentries, hnodes⟩ := hargs
  unfold splitArguments at h
  split at h
  · obtain ⟨hnamed, hpositional⟩ := List.forall_mem_append.1 hnodes
    rcases run_bind_eq_error.1 h with h | ⟨ks, u, -, h⟩
    · exact (splitEntries_eq_error hentries hnamed h).imp_right fun hfails =>
        hfails.mono (List.subset_append_left ..)
    · rcases run_bind_eq_error.1 h with h | ⟨vs, w, -, h⟩
      · exact .inr ((splitPositional_eq_error hpositional h).mono (List.subset_append_right ..))
      · exact absurd h run_pure_ne_error
  · rename_i notBlock
    have hall : positionalNodes args = args := by
      unfold positionalNodes
      split
      · exact (notBlock _ _ rfl).elim
      · rfl
    have hpositional := (List.forall_mem_append.1 hnodes).2
    rw [hall] at hpositional
    rcases run_bind_eq_error.1 h with h | ⟨vs, w, -, h⟩
    · refine .inr ((splitPositional_eq_error hpositional h).mono ?_)
      rw [argumentNodes, hall]
      exact List.subset_append_right ..
    · exact absurd h run_pure_ne_error

end Arguments

/-! ### One call that fails -/

/-- A diagnostic about the call of a callee in the innermost of some frames. -/
structure Diagnostic.Located (dg : Diagnostic) (callee : String) (frames : List Frame) : Prop where
  kind : dg.problem.kind = .malformedCall ∨ dg.problem.kind = .unresolvedCallee
  callee : dg.callee = some (.str callee)
  layer : dg.layer = frames.head?.map (·.layer)
  line : dg.line = frames.head?.bind (·.line)

/-- A diagnostic that names no layer yet, and no callee but the one that is called. -/
structure Diagnostic.Unplaced (dg : Diagnostic) (callee : String) : Prop where
  kind : dg.problem.kind = .malformedCall ∨ dg.problem.kind = .unresolvedCallee
  callee : dg.callee = none ∨ dg.callee = some (.str callee)
  layer : dg.layer = none

/-- The frames complete a diagnostic. -/
theorem Diagnostic.Unplaced.located {dg : Diagnostic} {callee : String} (h : dg.Unplaced callee)
    (frames : List Frame) : (dg.inFrames (some (.str callee)) frames).Located callee frames := by
  obtain ⟨hkind, hcallee, hlayer⟩ := h
  have hname : (dg.callee <|> some (.str callee)) = some (.str callee) := by
    rcases hcallee with h | h <;> rw [h] <;> rfl
  cases frames with
  | nil => exact ⟨hkind, hname, by simp [inFrames, addContext, hlayer],
      by simp [inFrames, addContext, hlayer]⟩
  | cons f fs => exact ⟨hkind, hname, by simp [inFrames, addContext, hlayer],
      by simp [inFrames, addContext, hlayer]⟩

/-- A problem with the callee that can be told is a diagnostic. -/
theorem calling_eq_diagnostic {problem : Problem} {callee : String}
    (hkind : problem.kind = .unresolvedCallee) (hwritable : problem.writable = true) :
    ∃ dg, problem.calling (.str callee) = .diagnostic dg ∧ dg.Unplaced callee := by
  refine ⟨{ problem, callee := some (.str callee) }, ?_, .inr hkind, .inr rfl, rfl⟩
  rw [Problem.calling, Diagnostic.failure]
  exact if_pos hwritable

/-- A failure of a generator is blamed on the callee. -/
theorem blameCallee_of_told {e : Failure} (he : e.Told) (callee : String) :
    ∃ dg, blameCallee (.str callee) e = .diagnostic dg ∧ dg.Unplaced callee := by
  cases e with
  | diagnostic dg =>
    obtain ⟨hkind, hcallee, hlayer, -⟩ := he
    exact ⟨dg, rfl, .inl hkind, .inl hcallee, hlayer⟩
  | fault f => exact calling_eq_diagnostic rfl (Fault.writable_settled he)
  | endless => exact he.elim

/-- A deferred argument of a call fails over a key that is too long to be written. -/
def FailsUntold (lib : Library) (args : List Node) : Prop :=
  ∃ n ∈ argumentNodes args, ∃ text key,
    n.FailsAs lib text (.fault (.missingKey key)) ∧ key.writable = false

/-- Only a missing key may be a fault without a text. -/
theorem Fault.eq_missingKey_of_not_writable {f : Fault} (h : f.writable = false) :
    ∃ key, f = .missingKey key ∧ key.writable = false := by
  cases f
  case missingKey key => exact ⟨key, rfl, h⟩
  all_goals cases h

section Call

variable {lib : Library} {callee : String} {args : List Node} {output : Value} {e : Failure}

/-- A deferred argument that fails is told, unless its failure has no text. -/
theorem DeferredFails.told (h : DeferredFails lib (.str callee) (argumentNodes args) e) :
    (∃ dg, e = .diagnostic dg ∧ dg.Unplaced callee) ∨
      FailsUntold lib args ∧ e = .fault .digitLimit := by
  obtain ⟨n, hn, text, err, hfails, rfl⟩ := h
  by_cases hwritable : err.asFault.settled.writable = true
  · exact .inl (calling_eq_diagnostic rfl hwritable)
  · right
    have hfault : err.asFault.writable = false := by
      rw [← Bool.not_eq_true]
      exact fun h => hwritable (Fault.writable_settled h)
    obtain ⟨key, hkey, hlong⟩ := Fault.eq_missingKey_of_not_writable hfault
    have herr : err = .fault (.missingKey key) := by
      cases err with
      | fault f => exact congrArg Failure.fault hkey
      | diagnostic dg => cases hkey
      | endless => cases hkey
    refine ⟨⟨n, hn, text, key, herr ▸ hfails, hlong⟩, ?_⟩
    rw [Problem.calling, Diagnostic.failure]
    exact if_neg hwritable

/-- **How one call fails** before anything is expanded further. -/
theorem expandCall_eq_error (hr : lib.registry.Ordinary) (hargs : OrdinaryArguments args)
    {c c' : Counters} (h : expandCall lib (.str callee) args output c = (.error e, c')) :
    (∃ dg, e = .diagnostic dg ∧ dg.Unplaced callee) ∨
      FailsUntold lib args ∧ e = .fault .digitLimit := by
  unfold expandCall at h
  rcases hsplit : (splitArguments lib (.str callee) args).run (argumentState args c) with
    ⟨e₀ | ⟨keywords, values⟩, s⟩
  · simp only [hsplit] at h
    obtain ⟨rfl, -⟩ : e₀ = e ∧ _ := by simpa using h
    rcases splitArguments_eq_error hargs hsplit with ⟨name, rfl⟩ | hdeferred
    · exact .inl ⟨_, rfl, .inl rfl, .inl rfl, rfl⟩
    · exact hdeferred.told
  · simp only [hsplit, Registry.lookup_str] at h
    left
    cases hget : lib.registry.get? callee with
    | none =>
      simp only [hget, Prod.mk.injEq, Except.error.injEq] at h
      obtain ⟨rfl, -⟩ := h
      exact calling_eq_diagnostic rfl rfl
    | some g =>
      simp only [hget, Prod.mk.injEq] at h
      obtain ⟨e₀, hinvoke, rfl⟩ := mapError_eq_error.1 h.1
      have hgenerator : (∃ p, g.body = .primitive p) ∨ ∃ d, g.body = .composite d :=
        (hr callee g hget).imp_right fun ⟨d, hd, _⟩ => ⟨d, hd⟩
      exact blameCallee_of_told (Generator.told_invoke hgenerator _ _ _ _ _ e₀ hinvoke) callee

end Call

/-! ### Frames -/

section Frames

variable {lib : Library}

/-- A layer is left with the failure of its body. -/
theorem withFrame_eq_error {α : Type} {layer : String} {body : Compile α} {e : Failure}
    {c c' : Compiler} (h : (withFrame layer body).run c = (.error e, c')) :
    ∃ c'', body.run { c with frames := { layer } :: c.frames } = (.error e, c'') := by
  obtain ⟨hresult, rfl⟩ := Prod.mk.inj h
  exact ⟨_, Prod.ext hresult rfl⟩

/-- A call fails because of what it amounts to, or because of something inside. -/
theorem resolveCall_eq_error {depth : Nat} {callee : Value} {args : List Node} {output : Value}
    {c c' : Compiler} {e : Failure}
    (h : (resolveCall lib (depth + 1) callee args output).run c = (.error e, c')) :
    (∃ e₀ after, expandCall lib callee args output c.counters = (.error e₀, after) ∧
        e = e₀.inFrames (calleeContext callee) c.frames) ∨
      ∃ o after, expandCall lib callee args output c.counters = (.ok o, after) ∧
        (compileOutcome (resolveCall lib depth) callee o).run { c with counters := after } =
          (.error e, c') := by
  rw [resolveCall, run_bind, run_get] at h
  rcases hcall : expandCall lib callee args output c.counters with ⟨e₀ | o, after⟩
  · simp only [hcall, run_bind, run_set, run_throw_eq_error] at h
    exact .inl ⟨e₀, after, rfl, h.1.symm⟩
  · simp only [hcall, run_bind, run_set] at h
    refine .inr ⟨o, after, rfl, ?_⟩
    cases o <;> exact h

theorem frames_marked {c : Compiler} {f : Frame} {fs : List Frame} (h : c.frames = f :: fs)
    (line : Int) : (c.marked line).frames = ⟨f.layer, some line⟩ :: fs := by
  simp only [Compiler.marked, h]

variable {resolve : Resolver}

/-- If resolving calls leaves the frames alone, a body changes the line of its own frame only. -/
theorem frames_of_fillBody
    (hresolve : ∀ {callee args output c prog c'},
      (resolve callee args output).run c = (.ok prog, c') → c'.frames = c.frames)
    {d : Definition} {a : Actuals} {body : List BodyStatement} {statements : List Node}
    (hfill : Definition.fillBody d.file d.surroundings.globals a body = .ok statements)
    {c c' : Compiler} {prog : Program} {f : Frame} {fs : List Frame} (hframes : c.frames = f :: fs)
    (h : (compileNodes resolve statements).run c = (.ok prog, c')) :
    ∃ line, c'.frames = ⟨f.layer, line⟩ :: fs := by
  induction body generalizing statements c prog f with
  | nil =>
    simp only [Definition.fillBody, pure_eq_ok] at hfill
    subst hfill
    obtain ⟨-, rfl⟩ := run_pure_eq_ok.1 h
    exact ⟨f.line, hframes⟩
  | cons s rest ih =>
    obtain ⟨call, others, -, hothers, rfl⟩ := fillBody_cons_eq_ok hfill
    rw [run_compileNodes_statement] at h
    obtain ⟨first, c₁, hfirst, hlater⟩ := run_bind_eq_ok.1 h
    obtain ⟨more, c₂, hmore, hboth⟩ := run_bind_eq_ok.1 hlater
    obtain ⟨-, rfl⟩ := run_pure_eq_ok.1 hboth
    exact ih (f := ⟨f.layer, some s.line⟩) hothers
      ((hresolve hfirst).trans (frames_marked hframes s.line)) hmore

/-- **A call that succeeds leaves the frames as they were.** -/
theorem frames_of_resolveCall (hr : lib.registry.Ordinary) {depth : Nat} {callee : Value}
    {args : List Node} {output : Value} {c c' : Compiler} {prog : Program}
    (h : (resolveCall lib depth callee args output).run c = (.ok prog, c')) :
    c'.frames = c.frames := by
  induction depth generalizing callee args output c prog c' with
  | zero => exact absurd h run_throw_ne_ok
  | succ depth ih =>
    obtain ⟨o, after, hcall, hrest⟩ := resolveCall_eq_ok.1 h
    obtain ⟨values, named, c₁, -, hcases⟩ := expandCall_cases hr hcall
    rcases hcases with ⟨p, i, -, rfl, -, -⟩ | ⟨d, b, out, statements, -, rfl, -, -, -, hfill⟩
    · obtain ⟨-, rfl⟩ := run_pure_eq_ok.1 hrest
      rfl
    · obtain ⟨hresult, rfl⟩ := Prod.mk.inj hrest
      obtain ⟨line, hframes⟩ := frames_of_fillBody ih hfill rfl (Prod.ext hresult rfl)
      exact congrArg List.tail hframes

/-- **The failing statement.** A body fails where the call of one of its statements fails, in a
state in which the line of the frame is that of the statement, whatever was expanded before. -/
theorem fails_of_fillBody
    (hresolve : ∀ {callee args output c prog c'},
      (resolve callee args output).run c = (.ok prog, c') → c'.frames = c.frames)
    {d : Definition} {a : Actuals} {body : List BodyStatement} {statements : List Node}
    (hfill : Definition.fillBody d.file d.surroundings.globals a body = .ok statements)
    {c c' : Compiler} {e : Failure} {f : Frame} {fs : List Frame} (hframes : c.frames = f :: fs)
    (h : (compileNodes resolve statements).run c = (.error e, c')) :
    ∃ s ∈ body, ∃ call u u', Filled d a s call ∧ u.frames = ⟨f.layer, some s.line⟩ :: fs ∧
      (resolve call.callee call.args call.output).run u = (.error e, u') := by
  induction body generalizing statements c f with
  | nil =>
    simp only [Definition.fillBody, pure_eq_ok] at hfill
    subst hfill
    exact absurd h run_pure_ne_error
  | cons s rest ih =>
    obtain ⟨call, others, hfilled, hothers, rfl⟩ := fillBody_cons_eq_ok hfill
    have hmarked := frames_marked hframes s.line
    rw [run_compileNodes_statement] at h
    rcases run_bind_eq_error.1 h with hhere | ⟨first, c₁, hfirst, hlater⟩
    · exact ⟨s, List.mem_cons_self .., call, _, c', hfilled, hmarked, hhere⟩
    · rcases run_bind_eq_error.1 hlater with hrest | ⟨more, c₂, -, hnone⟩
      · obtain ⟨s', hs', found⟩ := ih hothers ((hresolve hfirst).trans hmarked) hrest
        exact ⟨s', List.mem_cons_of_mem _ hs', found⟩
      · exact absurd hnone run_pure_ne_error

end Frames

/-! ### What a call fails with -/

/-- What a call fails with that is compiled in some frames, having been reached from a first one:
an expansion without end, a diagnostic about the call itself, a diagnostic about a call in a layer
further inside, or a fault that cannot be told. -/
inductive Blamed (lib : Library) (first : Pending) (callee : String) (frames : List Frame) :
    Failure → Prop where
  | endless : Blamed lib first callee frames .endless
  | here {dg : Diagnostic} (located : dg.Located callee frames) :
      Blamed lib first callee frames (.diagnostic dg)
  | inside {dg : Diagnostic} {outer inner : Pending} {layer name : String} {d : Definition}
      {b : Binding} {a : Actuals} {s : BodyStatement} (reached : Reaches lib first outer)
      (named : outer.callee = .str layer) (enters : Enters lib outer d b a)
      (statement : s ∈ d.body) (filled : Filled d a s inner) (called : inner.callee = .str name)
      (located : dg.Located name [⟨layer, some s.line⟩]) :
      Blamed lib first callee frames (.diagnostic dg)
  | untold {call : Pending} (reached : Reaches lib first call)
      (fails : FailsUntold lib call.args) :
      Blamed lib first callee frames (.fault .digitLimit)

/-- A callee that is filled in is a text. -/
theorem Filled.callee_eq_str {d : Definition} {a : Actuals} {s : BodyStatement} {call : Pending}
    (h : Filled d a s call) : ∃ name, call.callee = .str name ∧
      (s.call.callee = .fixed name ∨
        ∃ p v, s.call.callee = .parameter p ∧ a.get p = .ok v ∧ v.bare = .str name) := by
  have hcallee := h.callee
  cases hterm : s.call.callee with
  | fixed name =>
    rw [hterm] at hcallee
    exact ⟨name, (pure_eq_ok.1 hcallee).symm, .inl rfl⟩
  | parameter p =>
    rw [hterm, Definition.fillCallee] at hcallee
    obtain ⟨v, hv, hcallee⟩ := bind_eq_ok.1 hcallee
    split at hcallee
    · rename_i name hname
      exact ⟨name, (pure_eq_ok.1 hcallee).symm, .inr ⟨p, v, rfl, hv, hname⟩⟩
    · exact absurd hcallee throw_ne_ok

/-- **A call that fails is blamed.** -/
theorem blamed_of_resolveCall {lib : Library} (hr : lib.registry.Ordinary) {first call : Pending}
    {callee : String} {depth : Nat} {c c' : Compiler} {e : Failure}
    (hcallee : call.callee = .str callee) (hargs : OrdinaryArguments call.args)
    (hreached : Reaches lib first call)
    (h : (resolveCall lib depth call.callee call.args call.output).run c = (.error e, c')) :
    Blamed lib first callee c.frames e := by
  induction depth generalizing call callee c c' with
  | zero =>
    obtain ⟨rfl, -⟩ := run_throw_eq_error.1 h
    exact .endless
  | succ depth ih =>
    rcases resolveCall_eq_error h with ⟨e₀, after, hcall, rfl⟩ | ⟨o, after, hcall, hrest⟩
    · rw [hcallee] at hcall ⊢
      rcases expandCall_eq_error hr hargs hcall with ⟨dg, rfl, hunplaced⟩ | ⟨huntold, rfl⟩
      · exact .here (hunplaced.located c.frames)
      · exact .untold hreached huntold
    · obtain ⟨values, named, c₁, heval, hcases⟩ := expandCall_cases hr hcall
      rcases hcases with
        ⟨p, i, -, rfl, -, -⟩ | ⟨d, b, out, statements, hd, rfl, -, hbind, -, hfill⟩
      · exact absurd hrest run_pure_ne_error
      · obtain ⟨c'', hbody⟩ := withFrame_eq_error hrest
        obtain ⟨s, hs, inner, u, u', hfilled, hframes, hinner⟩ :=
          fails_of_fillBody (frames_of_resolveCall hr) hfill rfl hbody
        obtain ⟨name, hname, -⟩ := hfilled.callee_eq_str
        have henters : Enters lib call d b _ := ⟨hd, _, _, _, _, _, heval, hbind, rfl⟩
        have hblamed := ih hname hfilled.ordinaryArguments (hreached.step henters hs hfilled) hinner
        rw [hcallee] at hframes
        cases hblamed with
        | endless => exact .endless
        | here located =>
          refine .inside hreached hcallee henters hs hfilled hname ?_
          rw [hframes] at located
          exact ⟨located.kind, located.callee, located.layer, located.line⟩
        | inside reached named enters statement filled called located =>
          exact .inside reached named enters statement filled called located
        | untold reached fails => exact .untold reached fails

/-! ### Calls from outside -/

/-- The template of a layer holds a line mark, directly followed by an assignment whose call has a
certain callee, or a parameter as its callee that is bound to it. -/
def Definition.CallsAt (d : Definition) (b : Binding) (line : Int) (callee : String) : Prop :=
  ∃ before after target v args,
    d.template = .block (before ++ .line line d.file :: .assign target (.call v args) :: after) ∧
      (v = .str callee ∨
        ∃ p w, p ∈ d.signature.parameterNames ∧ v = .node (.placeholder p) ∧ b.get? p = some w ∧
          w.bare = .str callee)

/-- The call of a statement stands in the template, after the mark of its line. -/
theorem callsAt_of_filled {lib : Library} (hr : lib.registry.Ordinary) {call inner : Pending}
    {d : Definition} {b : Binding} {a : Actuals} {s : BodyStatement} {callee : String}
    (henters : Enters lib call d b a) (hs : s ∈ d.body) (hfilled : Filled d a s inner)
    (hcallee : inner.callee = .str callee) : d.CallsAt b s.line callee := by
  obtain ⟨before, after, hbody⟩ := List.append_of_mem hs
  obtain ⟨args, hnode⟩ : ∃ args,
      d.callNode s.call = .call (Definition.calleeValue s.call.callee) args := ⟨_, rfl⟩
  refine ⟨before.flatMap d.statementNodes, after.flatMap d.statementNodes, .placeholder s.target,
    Definition.calleeValue s.call.callee, args, ?_, ?_⟩
  · rw [Definition.template, hbody, List.flatMap_append, List.flatMap_cons, ← hnode]
    rfl
  · obtain ⟨name, hname, hterm⟩ := hfilled.callee_eq_str
    obtain rfl : callee = name := Value.str.inj (hcallee.symm.trans hname)
    rcases hterm with hfixed | ⟨p, v, hparameter, hget, hv⟩
    · left
      rw [hfixed]
      rfl
    · right
      obtain ⟨hnamed, c, c₁, values, named, out, -, hbind, rfl⟩ := henters
      obtain ⟨hp, hlocal⟩ := (hr.accepted hnamed.holds).calleesBound s hs p hparameter
      refine ⟨p, v, hp, ?_, ?_, hv⟩
      · rw [hparameter]
        rfl
      · exact Definition.get?_of_get (Definition.bindCall_eq_ok hbind).1 hp hlocal hget

/-- **Failures are located.** A call from outside that fails, and not because it expands without
end, fails with a diagnostic about malformed or unresolved calls.  Either the diagnostic is about
the call itself, and names its callee and no layer; or it names a layer that is reached from the
call, a line that is marked in its template, and the callee of the call that stands right after the
mark.  The one exception is a deferred argument of a call that is reached, whose evaluation fails
over a missing key that is too long to be written. -/
theorem compileCall_fails_located {lib : Library} (hr : lib.registry.Ordinary) {depth : Nat}
    {name : String} {inputs : List Value} {output : Value} {params : List (String × Value)}
    {c c' : Compiler} {e : Failure}
    (h : (compileCall lib depth (.str name) inputs output params).run c = (.error e, c')) :
    e = .endless ∨
      (∃ dg, e = .diagnostic dg ∧
        (dg.problem.kind = .malformedCall ∨ dg.problem.kind = .unresolvedCallee) ∧
        ((dg.layer = none ∧ dg.line = none ∧ dg.callee = some (.str name)) ∨
          ∃ call layer d b a line callee,
            Reaches lib ⟨.str name, callArguments inputs params, output⟩ call ∧
              call.callee = .str layer ∧ Enters lib call d b a ∧ d.CallsAt b line callee ∧
              dg.layer = some layer ∧ dg.line = some line ∧ dg.callee = some (.str callee))) ∨
      (e = .fault .digitLimit ∧
        ∃ call, Reaches lib ⟨.str name, callArguments inputs params, output⟩ call ∧
          FailsUntold lib call.args) := by
  rw [run_compileCall] at h
  have hreached : Reaches lib ⟨.str name, callArguments inputs params, output⟩
      ⟨.str name, callArguments inputs params, output⟩ := .refl
  have hblamed := blamed_of_resolveCall hr rfl (ordinaryArguments_callArguments inputs params)
    hreached h
  cases hblamed with
  | endless => exact .inl rfl
  | here located =>
    exact .inr (.inl ⟨_, rfl, located.kind, .inl ⟨located.layer, located.line, located.callee⟩⟩)
  | inside reached named enters statement filled called located =>
    have hcalls := callsAt_of_filled hr enters statement filled called
    exact .inr (.inl ⟨_, rfl, located.kind, .inr ⟨_, _, _, _, _, _, _, reached, named, enters,
      hcalls, located.layer, located.line, located.callee⟩⟩)
  | untold reached fails => exact .inr (.inr ⟨rfl, _, reached, fails⟩)

/-! ### A failure with a place, and one without -/

namespace LongKey

open Source (Expr)

/-- The expression `{}[10 ** 5000]`, which fails over a missing key too long to be written. -/
def expression : Expr :=
  .subscript (.dict []) (.binary .pow (.literal (.int 10)) (.literal (.int 5000)))

/-- A layer that gives its weights an option. -/
def layerWith (option : Term) : Definition where
  name := "f"
  signature := { formals := [⟨"x", .standard, none⟩] }
  inner := []
  last := Standard.statement 3 "y" "par" [.named "k" option] [.literal (.int 0)]
  surroundings := { globals := 0 }
  file := .layers 0

/-- The layer whose option is the expression. -/
def layer : Definition := layerWith (.deferred expression.text expression)

/-- The standard layers and this one. -/
def library : Library :=
  { registry := Registry.default.registerLayer layer, scopes := [], samples := .zeros }

/-- The layer is accepted if its option can be read. -/
theorem accepted_layerWith {e : Expr} {t : Term}
    (hread : BodyNames.readTerm ⟨"f", ["x", "y"], [], none⟩ 3 e = .ok t) :
    (layerWith t).Accepted := by
  have hbody : BodyNames.readBody ⟨"f", ["x", "y"], [], none⟩
      [⟨3, "y", 3, .name "par", [.mk 3 (.literal (.int 0))], [.named "k" 3 e]⟩] =
        .ok [(layerWith t).last] := by
    rw [BodyNames.readBody, BodyNames.readStatement, BodyNames.readKeywords, hread]
    rfl
  exact Standard.accepted_of_steps ⟨[⟨"x", .standard, none⟩], 2,
    [.assign 3 [.name "y"] (.call 3 (.name "par") [.mk 3 (.literal (.int 0))]
      [.named "k" 3 e])]⟩ rfl rfl rfl rfl rfl hbody

theorem accepted_layer : layer.Accepted :=
  accepted_layerWith (BodyNames.readTerm_eq_deferred (by simp [expression]) (by simp [expression])
    (by decide +kernel) (by decide) (by decide))

theorem ordinary_library : library.registry.Ordinary :=
  Registry.ordinary_default.registerLayer accepted_layer

/-- The layer, the line and the callee that a failed run tells. -/
def toldPlace (outcome : Except Failure Program) : Option String × Option Int × Option String :=
  match outcome with
  | .error (.diagnostic dg) => (dg.layer, dg.line, dg.callee.map Value.display)
  | _ => (none, none, none)

/-- Has a run failed at a number that cannot be written? -/
def endsAtDigitLimit (outcome : Except Failure Program) : Bool :=
  match outcome with
  | .error (.fault .digitLimit) => true
  | _ => false

/-- **A perceptron with an unknown activation** fails two layers deep, in `wf`, where the activation
is called by the parameter that names it.  **The layer with the long key** fails without a place. -/
theorem fails_with_and_without_place :
    (∃ dg c', (compileCall library 5 (.str "mlp2") [.str "x"] (.str "out")
        [("f", .str "nope")]).run {} = (.error (.diagnostic dg), c') ∧
      dg.layer = some "wf" ∧ dg.line = some 16 ∧ dg.callee = some (.str "nope") ∧
      ∃ call d b a,
        Reaches library ⟨.str "mlp2", callArguments [.str "x"] [("f", .str "nope")], .str "out"⟩
          call ∧ Enters library call d b a ∧ d.CallsAt b 16 "nope") ∧
      ∃ c', (compileCall library 2 (.str "f") [.str "x"] (.str "out") []).run {} =
          (.error (.fault .digitLimit), c') ∧
        ∃ call, Reaches library ⟨.str "f", callArguments [.str "x"] [], .str "out"⟩ call ∧
          FailsUntold library call.args := by
  constructor
  · have hplace : toldPlace ((compileCall library 5 (.str "mlp2") [.str "x"] (.str "out")
        [("f", .str "nope")]).run {}).1 = (some "wf", some 16, some "nope") := by decide +kernel
    rcases hrun : (compileCall library 5 (.str "mlp2") [.str "x"] (.str "out")
      [("f", .str "nope")]).run {} with ⟨(dg | f | _) | prog, c'⟩
    all_goals rw [hrun] at hplace
    case left.error.diagnostic =>
      simp only [toldPlace, Prod.mk.injEq] at hplace
      obtain ⟨hlayer, hline, hcallee⟩ := hplace
      rcases compileCall_fails_located ordinary_library hrun with h | ⟨dg', heq, -, hcases⟩ | h
      · cases h
      · cases heq
        rcases hcases with ⟨hnone, -⟩ | ⟨call, layer, d, b, a, line, callee, hreaches, -, henters,
          hcalls, -, hline', hcallee'⟩
        · rw [hlayer] at hnone
          cases hnone
        · rw [hline'] at hline
          rw [hcallee'] at hcallee
          cases hline
          obtain rfl : callee = "nope" := Option.some.inj hcallee
          exact ⟨dg, c', rfl, hlayer, hline', hcallee', call, d, b, a, hreaches, henters, hcalls⟩
      · cases h.1
    all_goals cases hplace
  · have hfault : endsAtDigitLimit
        ((compileCall library 2 (.str "f") [.str "x"] (.str "out") []).run {}).1 = true := by
      decide +kernel
    rcases hrun : (compileCall library 2 (.str "f") [.str "x"] (.str "out") []).run {} with
      ⟨(dg | f | _) | prog, c'⟩
    all_goals rw [hrun] at hfault
    case right.error.fault =>
      rcases compileCall_fails_located ordinary_library hrun with h | ⟨dg, h, -⟩ | ⟨h, hreached⟩
      · cases h
      · cases h
      · cases h
        exact ⟨c', rfl, hreached⟩
    all_goals cases hfault

end LongKey

end Laminar
