import Mathlib
import Laminar.Layer.Reading
import Laminar.Layer.Standard
import Laminar.Proofs.Computation

/-!
# Accepted layers

A layer is *accepted* when reading its source succeeds.  Everything that later theory knows about
the bodies of layers comes from the checks that reading makes, so it is stated here once and
derived from them.

* `Definition.Accepted` holds of what `Definition.read` yields, and of the same with its literals
  made objects.
* `Definition.WellFormed` is what acceptance guarantees: no local is bound twice, and a term that
  reads a parameter never names a local.  `Definition.Accepted.wellFormed` is the theorem.
* `Definition.CalleesBound`, from `Definition.Accepted.calleesBound`: a callee that is a parameter is
  one of the layer's own.
* `Registry.Ordinary`: the registry holds primitives and accepted layers, and nothing else.

**Design.** Acceptance is a predicate on definitions, not on runs of source: a registry may be
filled by any sequence of commands, and the theory does not depend on which.
-/

namespace Laminar

/-! ### What stands in a body -/

/-- The term that a keyword gives. -/
def KeywordTerm.term? : KeywordTerm → Option Term
  | .named _ value => some value
  | .forward => none

/-- The name that a keyword gives. -/
def KeywordTerm.name? : KeywordTerm → Option String
  | .named name _ => some name
  | .forward => none

/-- The terms of a call: those given by name, then those given by position. -/
def CallTerm.terms (c : CallTerm) : List Term := c.keywords.filterMap KeywordTerm.term? ++ c.args

/-- The names of the keywords that are written in a call. -/
def CallTerm.keywordNames (c : CallTerm) : List String := c.keywords.filterMap KeywordTerm.name?

namespace Definition

/-- All terms in the body of a layer. -/
def terms (d : Definition) : List Term := d.body.flatMap (·.call.terms)

/-- The names of all keywords that are written in the body of a layer. -/
def keywordNames (d : Definition) : List String := d.body.flatMap (·.call.keywordNames)

theorem mem_terms {d : Definition} {t : Term} : t ∈ d.terms ↔ ∃ s ∈ d.body, t ∈ s.call.terms := by
  simp [terms]

/-- What the checks on a body guarantee. -/
structure WellFormed (d : Definition) : Prop where
  /-- No local is bound twice. -/
  nodup_locals : d.locals.Nodup
  /-- What is read as a parameter is not a local. -/
  parameter_not_local : ∀ name, .parameter name ∈ d.terms → name ∉ d.locals

/-- The definitions that are accepted as layers. -/
inductive Accepted : Definition → Prop where
  /-- A function whose source can be read as a layer. -/
  | read {layer : String} {f : FunctionSource} {around : Surroundings} {file : SourceFile}
      {d : Definition} (h : Definition.read layer f around file = .ok d) : Accepted d
  /-- Making the literals objects changes nothing else. -/
  | labelled {d : Definition} (n : Nat) (h : Accepted d) : Accepted (d.labelled n).1

end Definition

/-! ### The checks -/

/-- Targets that pass the check are distinct, and differ from the formals and from those seen. -/
theorem checkTargets_eq_ok {layer : String} {formals seen : List String}
    {assignments : List CallAssignment}
    (h : checkTargets layer formals seen assignments = .ok ()) :
    (∀ a ∈ assignments, a.target ∉ formals ∧ a.target ∉ seen) ∧
      (assignments.map (·.target)).Nodup := by
  induction assignments generalizing seen with
  | nil => simp
  | cons a rest ih =>
    simp only [checkTargets, refuse] at h
    split at h
    · exact absurd h throw_ne_ok
    · rename_i notFormal
      split at h
      · exact absurd h throw_ne_ok
      · rename_i notSeen
        obtain ⟨hmem, hnodup⟩ := ih h
        refine ⟨?_, ?_⟩
        · rw [List.forall_mem_cons]
          exact ⟨⟨notFormal, notSeen⟩, fun b hb =>
            ⟨(hmem b hb).1, fun hs => (hmem b hb).2 (List.mem_cons_of_mem _ hs)⟩⟩
        · rw [List.map_cons, List.nodup_cons]
          refine ⟨?_, hnodup⟩
          rw [List.mem_map]
          rintro ⟨b, hb, heq⟩
          exact (hmem b hb).2 (heq ▸ List.mem_cons_self ..)

namespace BodyNames

variable {b : BodyNames}

/-- What is deferred is no parameter. -/
theorem readDeferred_ne_parameter (line : Nat) (e : Source.Expr) (name : String) :
    b.readDeferred line e ≠ .ok (.parameter name) := by
  intro h
  obtain ⟨text, -, h⟩ := bind_eq_ok.1 h
  split at h
  · simp at h
  · simp at h
  · simp [refuse] at h

/-- A term is read as a parameter only if its name stands for no register. -/
theorem notMem_symbols_of_readTerm {line : Nat} {e : Source.Expr} {name : String}
    (h : b.readTerm line e = .ok (.parameter name)) : name ∉ b.symbols := by
  unfold readTerm at h
  split at h
  · rename_i id
    by_cases notSymbol : b.symbols.contains id
    · rw [if_pos notSymbol] at h
      simp at h
    · rw [if_neg notSymbol] at h
      split at h
      · simp only [pure_eq_ok, Term.parameter.injEq] at h
        simpa [h] using notSymbol
      · exact absurd h (readDeferred_ne_parameter line _ name)
  · simp at h
  · exact absurd h (readDeferred_ne_parameter line _ name)

/-- Every term among keywords that were read was read from an expression. -/
theorem term_of_readKeywords {line : Nat} {keywords : List Source.Keyword}
    {read : List KeywordTerm} (h : b.readKeywords line keywords = .ok read) {t : Term}
    (ht : t ∈ read.filterMap KeywordTerm.term?) : ∃ l e, b.readTerm l e = .ok t := by
  induction keywords generalizing read with
  | nil =>
    simp only [readKeywords, pure_eq_ok] at h
    simp [← h] at ht
  | cons k rest ih =>
    cases k with
    | named name valueLine value =>
      simp only [readKeywords, bind_eq_ok, pure_eq_ok] at h
      obtain ⟨term, hterm, others, hothers, rfl⟩ := h
      simp only [List.filterMap_cons, KeywordTerm.term?, List.mem_cons] at ht
      rcases ht with rfl | ht
      · exact ⟨_, _, hterm⟩
      · exact ih hothers ht
    | forward value =>
      simp only [readKeywords] at h
      split at h
      · simp [refuse] at h
      · split at h
        · split at h
          · simp only [bind_eq_ok, pure_eq_ok] at h
            obtain ⟨others, hothers, rfl⟩ := h
            simp only [List.filterMap_cons, KeywordTerm.term?] at ht
            exact ih hothers ht
          · simp [bind_eq_ok, refuse] at h
        · simp [bind_eq_ok, refuse] at h

/-- Every positional term that was read was read from an expression. -/
theorem term_of_readArguments {line : Nat} {args : List Source.Argument} {read : List Term}
    (h : b.readArguments line args = .ok read) {t : Term} (ht : t ∈ read) :
    ∃ l e, b.readTerm l e = .ok t := by
  induction args generalizing read with
  | nil =>
    simp only [readArguments, pure_eq_ok] at h
    simp [← h] at ht
  | cons a rest ih =>
    obtain ⟨argumentLine, e⟩ := a
    unfold readArguments at h
    split at h
    · simp at *
    · simp [bind_eq_ok, refuse] at h
    · rename_i heq
      cases heq
      simp only [bind_eq_ok, pure_eq_ok] at h
      obtain ⟨term, hterm, others, hothers, rfl⟩ := h
      rcases List.mem_cons.1 ht with rfl | ht
      · exact ⟨_, _, hterm⟩
      · exact ih hothers ht

/-- Reading a body keeps its targets, and every term of it was read from an expression. -/
theorem readBody_eq_ok {assignments : List CallAssignment} {statements : List BodyStatement}
    (h : b.readBody assignments = .ok statements) :
    statements.map (·.target) = assignments.map (·.target) ∧
      ∀ s ∈ statements, ∀ t ∈ s.call.terms, ∃ l e, b.readTerm l e = .ok t := by
  induction assignments generalizing statements with
  | nil =>
    simp only [readBody, pure_eq_ok] at h
    simp [← h]
  | cons a rest ih =>
    simp only [readBody, readStatement, bind_eq_ok, pure_eq_ok] at h
    obtain ⟨s, ⟨callee, -, keywords, hkeywords, args, hargs, rfl⟩, others, hothers, rfl⟩ := h
    obtain ⟨targets, terms⟩ := ih hothers
    refine ⟨by simp [targets], ?_⟩
    rw [List.forall_mem_cons]
    refine ⟨fun t ht => ?_, terms⟩
    rcases List.mem_append.1 ht with ht | ht
    · exact term_of_readKeywords hkeywords ht
    · exact term_of_readArguments hargs ht

/-- A callee is read as a parameter only if it is one. -/
theorem parameter_of_readBody {assignments : List CallAssignment}
    {statements : List BodyStatement} (h : b.readBody assignments = .ok statements) :
    ∀ s ∈ statements, ∀ p, s.call.callee = .parameter p → p ∈ b.parameters := by
  induction assignments generalizing statements with
  | nil =>
    simp only [readBody, pure_eq_ok] at h
    simp [← h]
  | cons a rest ih =>
    simp only [readBody, readStatement, bind_eq_ok, pure_eq_ok] at h
    obtain ⟨s, ⟨callee, hcallee, keywords, -, args, -, rfl⟩, others, hothers, rfl⟩ := h
    rw [List.forall_mem_cons]
    refine ⟨?_, ih hothers⟩
    rintro p rfl
    unfold readCallee at hcallee
    split at hcallee
    · split at hcallee
      · rename_i hcontains
        cases pure_eq_ok.1 hcallee
        exact List.contains_iff_mem.1 hcontains
      · split at hcallee
        · simp [refuse] at hcallee
        · cases pure_eq_ok.1 hcallee
    · simp [bind_eq_ok, refuse] at hcallee

end BodyNames

namespace Definition

/-- What reading a body goes through. -/
theorem readBody_eq_ok {layer : String} {signature : Signature} {line : Nat}
    {body : List Source.Statement} {around : Surroundings} {file : SourceFile} {d : Definition}
    (h : Definition.readBody layer signature line body around file = .ok d) :
    ∃ assignments statements last,
      readAssignments layer (dropDocumentation body) = .ok assignments ∧
      checkTargets layer signature.names [] assignments = .ok () ∧
      BodyNames.readBody ⟨layer, signature.inputs ++ assignments.map (·.target),
        signature.parameterNames, signature.collector⟩ assignments = .ok statements ∧
      statements.getLast? = some last ∧
      d = ⟨layer, signature, statements.dropLast, last, around, file⟩ := by
  simp only [Definition.readBody, bind_eq_ok] at h
  obtain ⟨assignments, hassignments, h⟩ := h
  split at h
  · simp [refuse, bind_eq_ok] at h
  simp only [bind_eq_ok] at h
  obtain ⟨⟨⟩, htargets, statements, hread, h⟩ := h
  split at h
  · simp [refuse] at h
  · rename_i last hlast
    exact ⟨assignments, statements, last, hassignments, htargets, hread, hlast,
      (pure_eq_ok.1 h).symm⟩

/-- What reading a body guarantees. -/
theorem wellFormed_of_readBody {layer : String} {signature : Signature} {line : Nat}
    {body : List Source.Statement} {around : Surroundings} {file : SourceFile} {d : Definition}
    (h : Definition.readBody layer signature line body around file = .ok d) : d.WellFormed := by
  obtain ⟨assignments, statements, last, -, htargets, hread, hlast, rfl⟩ := readBody_eq_ok h
  obtain ⟨targets, terms⟩ := BodyNames.readBody_eq_ok hread
  have hbody : statements.dropLast ++ [last] = statements := List.dropLast_append_getLast? _ hlast
  refine ⟨?_, ?_⟩
  · simp only [locals, Definition.body, hbody, targets]
    exact (checkTargets_eq_ok htargets).2
  · intro name hname
    simp only [Definition.terms, Definition.body, hbody, List.mem_flatMap] at hname
    obtain ⟨s, hs, ht⟩ := hname
    obtain ⟨l, e, hterm⟩ := terms s hs _ ht
    have notSymbol := BodyNames.notMem_symbols_of_readTerm hterm
    simp only [locals, Definition.body, hbody, targets]
    exact fun hlocal => notSymbol (List.mem_append_right _ hlocal)

/-! ### Literals as objects -/

theorem parameter_of_labelTerms {n : Nat} {ts : List Term} {name : String}
    (h : .parameter name ∈ (labelTerms n ts).1) : .parameter name ∈ ts := by
  induction ts generalizing n with
  | nil => simp [labelTerms] at h
  | cons t ts ih =>
    simp only [labelTerms, List.mem_cons] at h ⊢
    rcases h with h | h
    · cases t with
      | literal value => simp [labelTerm] at h
      | _ => exact .inl h
    · exact .inr (ih h)

theorem parameter_of_labelKeywords {n : Nat} {ks : List KeywordTerm} {name : String}
    (h : .parameter name ∈ (labelKeywords n ks).1.filterMap KeywordTerm.term?) :
    .parameter name ∈ ks.filterMap KeywordTerm.term? := by
  induction ks generalizing n with
  | nil => simp [labelKeywords] at h
  | cons k ks ih =>
    cases k with
    | forward =>
      simp only [labelKeywords, List.filterMap_cons, KeywordTerm.term?] at h ⊢
      exact ih h
    | named key t =>
      simp only [labelKeywords, List.filterMap_cons, KeywordTerm.term?, List.mem_cons] at h ⊢
      rcases h with h | h
      · cases t with
        | literal value => simp [labelTerm] at h
        | _ => exact .inl h
      · exact .inr (ih h)

theorem parameter_of_labelStatement {n : Nat} {s : BodyStatement} {name : String}
    (h : .parameter name ∈ (labelStatement n s).1.call.terms) :
    .parameter name ∈ s.call.terms := by
  rcases List.mem_append.1 h with h | h
  · exact List.mem_append_left _ (parameter_of_labelKeywords h)
  · exact List.mem_append_right _ (parameter_of_labelTerms h)

theorem map_target_labelStatements (n : Nat) (body : List BodyStatement) :
    (labelStatements n body).1.map (·.target) = body.map (·.target) := by
  induction body generalizing n with
  | nil => rfl
  | cons s rest ih => exact congrArg (s.target :: ·) (ih _)

theorem parameter_of_labelStatements {n : Nat} {body : List BodyStatement} {name : String}
    (h : ∃ s ∈ (labelStatements n body).1, .parameter name ∈ s.call.terms) :
    ∃ s ∈ body, .parameter name ∈ s.call.terms := by
  induction body generalizing n with
  | nil => simp [labelStatements] at h
  | cons s rest ih =>
    obtain ⟨u, hu, ht⟩ := h
    rcases List.mem_cons.1 hu with rfl | hu
    · exact ⟨s, List.mem_cons_self .., parameter_of_labelStatement ht⟩
    · obtain ⟨v, hv, ht⟩ := ih ⟨u, hu, ht⟩
      exact ⟨v, List.mem_cons_of_mem _ hv, ht⟩

/-- Making literals objects keeps the locals. -/
theorem locals_labelled (d : Definition) (n : Nat) : (d.labelled n).1.locals = d.locals := by
  simp only [locals, body, labelled, List.map_append, List.map_cons, List.map_nil,
    map_target_labelStatements]
  rfl

theorem WellFormed.labelled {d : Definition} (h : d.WellFormed) (n : Nat) :
    (d.labelled n).1.WellFormed := by
  refine ⟨?_, fun name hname => ?_⟩
  · rw [locals_labelled]
    exact h.nodup_locals
  · rw [locals_labelled]
    refine h.parameter_not_local name (mem_terms.2 ?_)
    obtain ⟨s, hs, ht⟩ := mem_terms.1 hname
    rcases List.mem_append.1 hs with hs | hs
    · obtain ⟨u, hu, ht⟩ := parameter_of_labelStatements ⟨s, hs, ht⟩
      exact ⟨u, List.mem_append_left _ hu, ht⟩
    · rw [List.mem_singleton] at hs
      subst hs
      exact ⟨d.last, by simp [body], parameter_of_labelStatement ht⟩

/-! ### Callees -/

/-- A callee that is a parameter is a parameter of the layer, and no local. -/
def CalleesBound (d : Definition) : Prop :=
  ∀ s ∈ d.body, ∀ p, s.call.callee = .parameter p →
    p ∈ d.signature.parameterNames ∧ p ∉ d.locals

theorem calleesBound_of_readBody {layer : String} {signature : Signature} {line : Nat}
    {body : List Source.Statement} {around : Surroundings} {file : SourceFile} {d : Definition}
    (h : Definition.readBody layer signature line body around file = .ok d) : d.CalleesBound := by
  obtain ⟨assignments, statements, last, -, htargets, hread, hlast, rfl⟩ := readBody_eq_ok h
  have hbody : statements.dropLast ++ [last] = statements := List.dropLast_append_getLast? _ hlast
  intro s hs p hp
  simp only [Definition.body, hbody] at hs
  have hparameter := BodyNames.parameter_of_readBody hread s hs p hp
  refine ⟨hparameter, fun hlocal => ?_⟩
  simp only [locals, Definition.body, hbody, (BodyNames.readBody_eq_ok hread).1] at hlocal
  obtain ⟨a, ha, rfl⟩ := List.mem_map.1 hlocal
  refine ((checkTargets_eq_ok htargets).1 a ha).1 ?_
  exact List.mem_append_left _ (List.mem_append_right _ hparameter)

theorem map_callee_labelStatements (n : Nat) (body : List BodyStatement) :
    (labelStatements n body).1.map (·.call.callee) = body.map (·.call.callee) := by
  induction body generalizing n with
  | nil => rfl
  | cons s rest ih => exact congrArg (s.call.callee :: ·) (ih _)

theorem CalleesBound.labelled {d : Definition} (h : d.CalleesBound) (n : Nat) :
    (d.labelled n).1.CalleesBound := by
  have same : (d.labelled n).1.body.map (·.call.callee) = d.body.map (·.call.callee) := by
    simp only [body, Definition.labelled, List.map_append, List.map_cons, List.map_nil,
      map_callee_labelStatements]
    rfl
  intro s hs p hp
  have hmem : CalleeTerm.parameter p ∈ d.body.map (·.call.callee) := by
    rw [← same, ← hp]
    exact List.mem_map_of_mem hs
  obtain ⟨u, hu, hcallee⟩ := List.mem_map.1 hmem
  rw [locals_labelled]
  exact h u hu p hcallee

/-- In an accepted layer a callee that is a parameter is bound by the call. -/
theorem Accepted.calleesBound {d : Definition} (h : d.Accepted) : d.CalleesBound := by
  induction h with
  | read h =>
    simp only [Definition.read, bind_eq_ok] at h
    obtain ⟨⟨⟩, -, signature, -, h⟩ := h
    exact calleesBound_of_readBody h
  | labelled n _ ih => exact ih.labelled n

/-- **Accepted layers are well-formed.** -/
theorem Accepted.wellFormed {d : Definition} (h : d.Accepted) : d.WellFormed := by
  induction h with
  | read h =>
    simp only [Definition.read, bind_eq_ok] at h
    obtain ⟨⟨⟩, -, signature, -, h⟩ := h
    exact wellFormed_of_readBody h
  | labelled n _ ih => exact ih.labelled n

end Definition

/-! ### Registries -/

namespace Registry

/-- Does a registry hold a layer, under whatever name? -/
def Holds (r : Registry) (d : Definition) : Prop :=
  ∃ name g, r.get? name = some g ∧ g.body = .composite d

/-- A registry of primitives and accepted layers. -/
def Ordinary (r : Registry) : Prop :=
  ∀ name g, r.get? name = some g →
    (∃ p, g.body = .primitive p) ∨ ∃ d, g.body = .composite d ∧ d.Accepted

theorem Ordinary.accepted {r : Registry} (hr : r.Ordinary) {d : Definition} (hd : r.Holds d) :
    d.Accepted := by
  obtain ⟨name, g, hget, hbody⟩ := hd
  rcases hr name g hget with ⟨p, hp⟩ | ⟨e, he, haccepted⟩
  · rw [hbody] at hp
    cases hp
  · rw [hbody] at he
    cases he
    exact haccepted

/-- Registering a primitive or an accepted layer keeps a registry ordinary. -/
theorem Ordinary.register {r : Registry} (hr : r.Ordinary) {g : Generator}
    (hg : (∃ p, g.body = .primitive p) ∨ ∃ d, g.body = .composite d ∧ d.Accepted) :
    (r.register g).Ordinary := by
  intro name g' hget
  rw [get?_register] at hget
  split at hget
  · cases hget
    exact hg
  · exact hr name g' hget

theorem Ordinary.registerLayer {r : Registry} (hr : r.Ordinary) {d : Definition}
    (hd : d.Accepted) : (r.registerLayer d).Ordinary :=
  hr.register (.inr ⟨d, rfl, hd⟩)

/-- Where only primitives are registered, every generator is one. -/
theorem primitive_of_get? {name : String} {g : Generator}
    (h : Registry.primitives.get? name = some g) : ∃ p, g.body = .primitive p := by
  suffices ∀ (ps : List Primitive) (r : Registry),
      (∀ name g, r.get? name = some g → ∃ p, g.body = .primitive p) →
        ∀ name g, (ps.foldl (fun r p => r.register { name := p.name, body := .primitive p }) r).get?
          name = some g → ∃ p, g.body = .primitive p from
    this _ _ (fun name g h => by simp at h) name g h
  intro ps
  induction ps with
  | nil => exact fun _ hr => hr
  | cons p ps ih =>
    intro r hr
    refine ih _ fun name g hget => ?_
    rw [get?_register] at hget
    split at hget
    · cases hget
      exact ⟨p, rfl⟩
    · exact hr name g hget

/-- The primitives alone are an ordinary registry. -/
theorem ordinary_primitives : Registry.primitives.Ordinary :=
  fun _ _ h => .inl (primitive_of_get? h)

theorem not_holds_primitives (d : Definition) : ¬ Registry.primitives.Holds d := by
  rintro ⟨name, g, hget, hbody⟩
  obtain ⟨p, hp⟩ := primitive_of_get? hget
  rw [hbody] at hp
  cases hp

/-- Registering layers adds these layers and no others. -/
theorem holds_of_foldl {layers : List Definition} {r : Registry} {d : Definition}
    (h : Holds (layers.foldl Registry.registerLayer r) d) : r.Holds d ∨ d ∈ layers := by
  induction layers generalizing r with
  | nil => exact .inl h
  | cons e rest ih =>
    rcases ih h with ⟨name, g, hget, hbody⟩ | hmem
    · rw [registerLayer, get?_register] at hget
      split at hget
      · cases hget
        cases hbody
        exact .inr (List.mem_cons_self ..)
      · exact .inl ⟨name, g, hget, hbody⟩
    · exact .inr (List.mem_cons_of_mem _ hmem)

/-- The default registry holds the standard layers only. -/
theorem mem_standard_of_holds {d : Definition} (h : Registry.default.Holds d) :
    d ∈ Standard.all :=
  (holds_of_foldl h).resolve_left (not_holds_primitives d)

end Registry

/-! ### The standard layers -/

namespace Standard

open Source (Expr Statement)

/-- A function of one input, parameters with defaults, and collected keywords. -/
def function (params : List (String × Value)) (body : List Statement) : FunctionSource :=
  { formals := ⟨"x", .standard, none⟩ :: params.map (fun p => ⟨p.1, .standard, some p.2⟩) ++
      [⟨collector, .keywords, none⟩]
    line := 1
    body }

/-- An assignment of a call, which may end by handing the collected keywords on. -/
def assignment (line : Nat) (target callee : String) (args : List Expr)
    (keywords : List (String × Expr)) (forwards : Bool) : Statement :=
  .assign line [.name target] (.call line (.name callee) (args.map (.mk line))
    (keywords.map (fun k => .named k.1 line k.2) ++
      if forwards then [.forward (.name collector)] else []))

/-- What a function reads as is accepted. -/
theorem accepted_of_read {d : Definition} {f : FunctionSource}
    (h : Definition.read d.name f d.surroundings d.file = .ok d) : d.Accepted :=
  .read h

/-- A layer is what a function reads as if every step of reading it goes through. -/
theorem read_of_steps {d : Definition} {f : FunctionSource} {assignments : List CallAssignment}
    (hformals : checkFormalNames f.formals = .ok ())
    (hsignature : readSignature d.name f.formals = .ok d.signature)
    (hassignments : readAssignments d.name (dropDocumentation f.body) = .ok assignments)
    (hnonempty : assignments.isEmpty = false)
    (htargets : checkTargets d.name d.signature.names [] assignments = .ok ())
    (hread : BodyNames.readBody ⟨d.name, d.signature.inputs ++ assignments.map (·.target),
      d.signature.parameterNames, d.signature.collector⟩ assignments = .ok d.body) :
    Definition.read d.name f d.surroundings d.file = .ok d := by
  simp only [Definition.read, hformals, hsignature, ok_bind, Definition.readBody, hassignments,
    hnonempty, htargets, hread, Definition.body, List.getLast?_concat, List.dropLast_concat]
  rfl

/-- A layer is accepted if every step of reading it goes through. -/
theorem accepted_of_steps {d : Definition} (f : FunctionSource) {assignments : List CallAssignment}
    (hformals : checkFormalNames f.formals = .ok ())
    (hsignature : readSignature d.name f.formals = .ok d.signature)
    (hassignments : readAssignments d.name (dropDocumentation f.body) = .ok assignments)
    (hnonempty : assignments.isEmpty = false)
    (htargets : checkTargets d.name d.signature.names [] assignments = .ok ())
    (hread : BodyNames.readBody ⟨d.name, d.signature.inputs ++ assignments.map (·.target),
      d.signature.parameterNames, d.signature.collector⟩ assignments = .ok d.body) :
    d.Accepted :=
  accepted_of_read (read_of_steps hformals hsignature hassignments hnonempty htargets hread)

theorem accepted_wdot : wdot.Accepted :=
  accepted_of_read (f := function
      [("out", .int 0), ("winit", .initializer (.gaussian (.int 0) (.float 0.01)))]
      [assignment 23 "w" "par" [.name "out", .literal (.int 0)] [("init", .name "winit")] true,
        assignment 24 "y" "dot" [.name "w", .name "x"] [] false])
    rfl

theorem accepted_bias : bias.Accepted :=
  accepted_of_read (f := function [("binit", .initializer (.constant (.int 0)))]
      [assignment 30 "b" "par" [.literal (.int 0)] [("init", .name "binit")] true,
        assignment 31 "y" "add" [.name "b", .name "x"] [] false])
    rfl

theorem accepted_wb : wb.Accepted :=
  accepted_of_read (f := function []
      [assignment 37 "y" "wdot" [.name "x"] [] true, assignment 38 "z" "bias" [.name "y"] [] true])
    rfl

theorem accepted_wf : wf.Accepted :=
  accepted_of_read (f := function [("f", .str "relu")]
      [assignment 15 "y" "wb" [.name "x"] [] true, assignment 16 "z" "f" [.name "y"] [] false])
    rfl

theorem accepted_dropWf : dropWf.Accepted :=
  accepted_of_read (f := function [("pdrop", .float 0.5)]
      [assignment 22 "d" "drop" [.name "x"] [("pdrop", .name "pdrop")] false,
        assignment 23 "y" "wf" [.name "d"] [] true])
    rfl

theorem accepted_mlp2 : mlp2.Accepted :=
  accepted_of_read (f := function [("hidden", .int 64), ("out", .int 10), ("f", .str "relu")]
      [assignment 33 "h" "wf" [.name "x"] [("out", .name "hidden"), ("f", .name "f")] true,
        assignment 34 "y" "wf" [.name "h"]
          [("out", .name "out"), ("f", .literal (.str "soft" false))] true])
    rfl

end Standard

/-- **The default registry is ordinary.** -/
theorem Registry.ordinary_default : Registry.default.Ordinary := by
  have h := Registry.ordinary_primitives
  replace h := h.registerLayer Standard.accepted_wdot
  replace h := h.registerLayer Standard.accepted_bias
  replace h := h.registerLayer Standard.accepted_wb
  replace h := h.registerLayer Standard.accepted_wf
  replace h := h.registerLayer Standard.accepted_dropWf
  exact h.registerLayer Standard.accepted_mlp2

end Laminar
