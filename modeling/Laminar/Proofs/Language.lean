import Mathlib
import Laminar.Proofs.CallLanguage

/-!
# The language of layers

Which functions define layers?  Reading a definition goes through phases, and the first phase that
finds something wrong decides how the definition is refused.  This module says the same without
phases: a function is accepted exactly if it is *in the language*, which is a condition on its
formals, its statements, its targets and its calls, and if all that reading has to write down can
be expressed.

* `FunctionSource.InLanguage` is the language, `FunctionSource.Expressible` the other condition: a
  deferred expression is kept with its text, and a text there may be none.
* `FunctionSource.Refused f kind`: what is wrong with a function that is not in the language, and
  the class of the diagnostic about it, in the order of the phases.
* `Decided`: whether a function is read and how it is refused; `Definition.decided_read` goes through
  the phases, the last of which is `judged_readBody`.
* `Definition.read_iff_inLanguage` is the theorem.
-/

namespace Laminar

open Source (Expr Statement)

/-! ### What a function consists of -/

/-- A formal of a function as a formal of a layer, unless it collects. -/
def FunctionFormal.layerFormal? (p : FunctionFormal) : Option LayerFormal :=
  match p.kind with
  | .positional => some ⟨p.name, .positional, p.default⟩
  | .standard => some ⟨p.name, .standard, p.default⟩
  | .named => some ⟨p.name, .named, p.default⟩
  | .rest | .keywords => none

/-- The assignment of a call to a name that a statement is. -/
def callAssignment? : Statement → Option CallAssignment
  | .assign line [.name target] (.call callLine callee args keywords) =>
    some { line, target, callLine, callee, args, keywords }
  | _ => none

/-- A statement is `pass` or the assignment of a call to one name. -/
def InShape (s : Statement) : Prop := (∃ line, s = .pass line) ∨ (callAssignment? s).isSome

namespace FunctionSource

/-- The signature of a function as a layer. -/
def signature (f : FunctionSource) : Signature where
  formals := f.formals.filterMap FunctionFormal.layerFormal?
  collector := (f.formals.find? (·.kind == .keywords)).map (·.name)

/-- The assignments of calls in the body of a function. -/
def assignments (f : FunctionSource) : List CallAssignment :=
  (dropDocumentation f.body).filterMap callAssignment?

/-- The names that the calls of a function can use.  What the layer itself is called plays no part
in that. -/
def bodyNames (f : FunctionSource) (layer : String := "") : BodyNames where
  layer := layer
  symbols := f.signature.inputs ++ f.assignments.map (·.target)
  parameters := f.signature.parameterNames
  collector := f.signature.collector

/-! ### Which functions are in the language -/

/-- No formal collects positional values. -/
def NoRest (f : FunctionSource) : Prop := ∀ p ∈ f.formals, p.kind ≠ .rest

/-- After a leading text, every statement is `pass` or the assignment of a call to one name. -/
def Shaped (f : FunctionSource) : Prop := ∀ s ∈ dropDocumentation f.body, InShape s

/-- Targets that are distinct, and no formals. -/
def Targets (f : FunctionSource) (assignments : List CallAssignment) : Prop :=
  (assignments.map (·.target)).Nodup ∧ ∀ a ∈ assignments, a.target ∉ f.signature.names

/-- **The language of layers.** -/
structure InLanguage (f : FunctionSource) : Prop where
  noRest : f.NoRest
  shaped : f.Shaped
  nonempty : f.assignments ≠ []
  targets : f.Targets f.assignments
  calls : ∀ a ∈ f.assignments, f.bodyNames.Admits a

/-- What reading a function writes down can be expressed: no formal that can be given by name is
spelled like a reserved word, and deferred expressions have a text and name no constant. -/
structure Expressible (f : FunctionSource) : Prop where
  formals : ∀ p ∈ f.formals, p.kind ≠ .positional → p.name ∉ Source.reserved
  values : ∀ a ∈ f.assignments, ∀ e ∈ a.values, f.bodyNames.Expresses e

/-- **Refusals.** The class of the diagnostic about a function that is not in the language: the
first phase that fails decides. -/
inductive Refused (f : FunctionSource) : DiagnosticKind → Prop where
  /-- The formals. -/
  | rest (h : ¬ f.NoRest) : Refused f .layerDefinition
  /-- The shape of the statements. -/
  | shape (formals : f.NoRest) (h : ¬ f.Shaped) : Refused f .layerDefinition
  /-- At least one assignment. -/
  | empty (formals : f.NoRest) (shaped : f.Shaped) (h : f.assignments = []) :
      Refused f .duplicateOrMissingOutput
  /-- The first target that is wrong is a formal. -/
  | shadows {before after : List CallAssignment} {a : CallAssignment} (formals : f.NoRest)
      (shaped : f.Shaped) (first : f.assignments = before ++ a :: after) (fine : f.Targets before)
      (h : a.target ∈ f.signature.names) : Refused f .layerDefinition
  /-- The first target that is wrong is no formal, but was assigned before. -/
  | twice {before after : List CallAssignment} {a : CallAssignment} (formals : f.NoRest)
      (shaped : f.Shaped) (first : f.assignments = before ++ a :: after) (fine : f.Targets before)
      (fresh : a.target ∉ f.signature.names) (h : a.target ∈ before.map (·.target)) :
      Refused f .duplicateOrMissingOutput
  /-- The calls. -/
  | call (formals : f.NoRest) (shaped : f.Shaped) (nonempty : f.assignments ≠ [])
      (fine : f.Targets f.assignments) (h : ¬ ∀ a ∈ f.assignments, f.bodyNames.Admits a) :
      Refused f .malformedCall

/-- The faults that stand for what cannot be expressed: a formal, a number in the body that is too
long to be written, or the name of a constant. -/
inductive Inexpressible (f : FunctionSource) : Fault → Prop where
  | formal {p : FunctionFormal} (member : p ∈ f.formals) (named : p.kind ≠ .positional)
      (h : p.name ∈ Source.reserved) : Inexpressible f (.formalName p.name)
  | number {s : Statement} (member : s ∈ dropDocumentation f.body) (h : s.writable = false) :
      Inexpressible f .digitLimit
  | constant {a : CallAssignment} {e : Expr} {name : String} (member : a ∈ f.assignments)
      (written : e ∈ a.expressions) (mentioned : name ∈ e.names) (h : name ∈ constantNames) :
      Inexpressible f (.constantName name)

end FunctionSource

/-! ### The phases before the calls -/

theorem checkFormalNames_cases (formals : List FunctionFormal) :
    (checkFormalNames formals = .ok () ∧
        ∀ p ∈ formals, p.kind ≠ .positional → p.name ∉ Source.reserved) ∨
      ∃ p ∈ formals, p.kind ≠ .positional ∧ p.name ∈ Source.reserved ∧
        checkFormalNames formals = .error (.fault (.formalName p.name)) := by
  induction formals with
  | nil => exact .inl ⟨rfl, by simp⟩
  | cons p rest ih =>
    unfold checkFormalNames
    split
    · rename_i hbad
      exact .inr ⟨p, List.mem_cons_self .., hbad.1, hbad.2, rfl⟩
    · rename_i hgood
      rcases ih with ⟨hok, hrest⟩ | ⟨q, hq, hkind, hreserved, herror⟩
      · refine .inl ⟨hok, ?_⟩
        rw [List.forall_mem_cons]
        exact ⟨fun hkind hreserved => hgood ⟨hkind, hreserved⟩, hrest⟩
      · exact .inr ⟨q, List.mem_cons_of_mem _ hq, hkind, hreserved, herror⟩

theorem readSignature_of_noRest (layer : String) {formals : List FunctionFormal}
    (h : ∀ p ∈ formals, p.kind ≠ .rest) :
    readSignature layer formals =
      .ok ⟨formals.filterMap FunctionFormal.layerFormal?,
        (formals.find? (·.kind == .keywords)).map (·.name)⟩ := by
  induction formals with
  | nil => rfl
  | cons p rest ih =>
    obtain ⟨hp, hrest⟩ := List.forall_mem_cons.1 h
    rw [readSignature, ih hrest]
    cases hkind : p.kind with
    | rest => exact absurd hkind hp
    | _ => simp [hkind, FunctionFormal.layerFormal?, ok_bind, pure, Except.pure]

theorem readSignature_of_rest (layer : String) {formals : List FunctionFormal}
    (h : ¬ ∀ p ∈ formals, p.kind ≠ .rest) :
    ∃ name, readSignature layer formals =
      .error (.diagnostic ((Problem.restParameter name).within layer none)) := by
  induction formals with
  | nil => exact absurd (by simp) h
  | cons p rest ih =>
    rw [readSignature]
    cases hkind : p.kind with
    | rest => exact ⟨p.name, rfl⟩
    | _ =>
      obtain ⟨name, hname⟩ := ih fun hrest => h (List.forall_mem_cons.2 ⟨by simp [hkind], hrest⟩)
      exact ⟨name, by rw [hname]; rfl⟩

/-- A statement that is not in the language is refused, with its text if it has one. -/
theorem refuse_written {α : Type} (layer : String) (line : Option Nat) (s : Statement)
    {problem : String → Problem} (hkind : ∀ text, (problem text).kind = .layerDefinition) :
    ∃ e, (do refuse layer line (problem (← s.written)) : Except Failure α) = .error e ∧
      ((∃ dg, e = .diagnostic dg ∧ dg.problem.kind = .layerDefinition) ∨
        e = .fault .digitLimit ∧ s.writable = false) := by
  unfold Statement.written
  split
  · exact ⟨_, rfl, .inl ⟨_, rfl, hkind _⟩⟩
  · rename_i hlong
    exact ⟨_, rfl, .inr ⟨rfl, by simpa using hlong⟩⟩

/-- The two forms of a statement in the language. -/
theorem InShape.cases {s : Statement} (h : InShape s) : (∃ line, s = .pass line) ∨
    ∃ line target callLine callee args keywords,
      s = .assign line [.name target] (.call callLine callee args keywords) := by
  refine h.imp_right fun hcall => ?_
  unfold callAssignment? at hcall
  split at hcall
  · exact ⟨_, _, _, _, _, _, rfl⟩
  · cases hcall

theorem readAssignments_of_inShape (layer : String) {body : List Statement}
    (h : ∀ s ∈ body, InShape s) :
    readAssignments layer body = .ok (body.filterMap callAssignment?) := by
  induction body with
  | nil => rfl
  | cons s rest ih =>
    obtain ⟨hs, hrest⟩ := List.forall_mem_cons.1 h
    rcases hs.cases with ⟨line, rfl⟩ | ⟨line, target, callLine, callee, args, keywords, rfl⟩
    · exact ih hrest
    · rw [readAssignments, ih hrest]
      rfl

theorem readAssignments_of_not_inShape (layer : String) {body : List Statement}
    (h : ¬ ∀ s ∈ body, InShape s) :
    ∃ e, readAssignments layer body = .error e ∧
      ((∃ dg, e = .diagnostic dg ∧ dg.problem.kind = .layerDefinition) ∨
        e = .fault .digitLimit ∧ ∃ s ∈ body, s.writable = false) := by
  induction body with
  | nil => exact absurd (by simp) h
  | cons s rest ih =>
    by_cases hs : InShape s
    · -- The statement is in shape, so one of the rest is not.
      obtain ⟨e, hread, hcause⟩ := ih fun hrest => h (List.forall_mem_cons.2 ⟨hs, hrest⟩)
      refine ⟨e, ?_, hcause.imp_right fun ⟨heq, u, hu, hlong⟩ =>
        ⟨heq, u, List.mem_cons_of_mem _ hu, hlong⟩⟩
      rcases hs.cases with ⟨line, rfl⟩ | ⟨line, target, callLine, callee, args, keywords, rfl⟩
      · exact hread
      · rw [readAssignments, hread]
        rfl
    · have refused {problem : String → Problem} {line : Option Nat}
          (hkind : ∀ text, (problem text).kind = .layerDefinition) :
          ∃ e, (do refuse layer line (problem (← s.written)) :
              Except Failure (List CallAssignment)) = .error e ∧
            ((∃ dg, e = .diagnostic dg ∧ dg.problem.kind = .layerDefinition) ∨
              e = .fault .digitLimit ∧ ∃ u ∈ s :: rest, u.writable = false) := by
        obtain ⟨e, hread, hcause⟩ := refuse_written (α := List CallAssignment) layer line s hkind
        exact ⟨e, hread, hcause.imp_right fun ⟨heq, hlong⟩ =>
          ⟨heq, s, List.mem_cons_self .., hlong⟩⟩
      unfold readAssignments
      split
      · rename_i heq
        cases heq
      · rename_i heq
        cases heq
        exact absurd (.inl ⟨_, rfl⟩) hs
      · rename_i heq
        cases heq
        exact absurd (.inr rfl) hs
      · rename_i heq
        cases heq
        exact refused fun _ => rfl
      · rename_i heq
        cases heq
        exact refused fun _ => rfl

/-- The check of the targets stops at the first one that is wrong. -/
theorem checkTargets_cases (layer : String) (formals seen : List String)
    (assignments : List CallAssignment) :
    (checkTargets layer formals seen assignments = .ok () ∧
        (∀ a ∈ assignments, a.target ∉ formals ∧ a.target ∉ seen) ∧
        (assignments.map (·.target)).Nodup) ∨
      ∃ before a after, ∃ problem : Problem, assignments = before ++ a :: after ∧
        (∀ x ∈ before, x.target ∉ formals ∧ x.target ∉ seen) ∧
        (before.map (·.target)).Nodup ∧
        checkTargets layer formals seen assignments =
          .error (.diagnostic (problem.within layer (some a.line))) ∧
        ((a.target ∈ formals ∧ problem = .shadowsParameter a.target) ∨
          a.target ∉ formals ∧ (a.target ∈ seen ∨ a.target ∈ before.map (·.target)) ∧
            problem = .assignedTwice a.target) := by
  induction assignments generalizing seen with
  | nil => exact .inl ⟨rfl, by simp, by simp⟩
  | cons a rest ih =>
    unfold checkTargets
    split
    · rename_i hformal
      exact .inr ⟨[], a, rest, _, rfl, by simp, by simp, rfl, .inl ⟨hformal, rfl⟩⟩
    · rename_i hformal
      split
      · rename_i hseen
        exact .inr ⟨[], a, rest, _, rfl, by simp, by simp, rfl, .inr ⟨hformal, .inl hseen, rfl⟩⟩
      · rename_i hseen
        -- What differs from the target and from those seen before it is new to the rest.
        have extend {xs : List CallAssignment}
            (hxs : ∀ x ∈ xs, x.target ∉ formals ∧ x.target ∉ a.target :: seen)
            (hnodup : (xs.map (·.target)).Nodup) :
            (∀ x ∈ a :: xs, x.target ∉ formals ∧ x.target ∉ seen) ∧
              ((a :: xs).map (·.target)).Nodup := by
          refine ⟨List.forall_mem_cons.2 ⟨⟨hformal, hseen⟩, fun x hx => ?_⟩, ?_⟩
          · exact ⟨(hxs x hx).1, fun h => (hxs x hx).2 (List.mem_cons_of_mem _ h)⟩
          · rw [List.map_cons, List.nodup_cons]
            refine ⟨fun hmem => ?_, hnodup⟩
            obtain ⟨x, hx, heq⟩ := List.mem_map.1 hmem
            exact (hxs x hx).2 (heq ▸ List.mem_cons_self ..)
        rcases ih (a.target :: seen) with ⟨hok, hall, hnodup⟩ |
          ⟨before, bad, after, problem, rfl, hbefore, hnodup, herror, hcause⟩
        · exact .inl ⟨hok, extend hall hnodup⟩
        · obtain ⟨hbefore', hnodup'⟩ := extend hbefore hnodup
          refine .inr ⟨a :: before, bad, after, problem, rfl, hbefore', hnodup', herror, ?_⟩
          refine hcause.imp_right ?_
          rintro ⟨hnew, hrepeated, hproblem⟩
          refine ⟨hnew, ?_, hproblem⟩
          simp only [List.map_cons, List.mem_cons] at hrepeated ⊢
          tauto

/-! ### Reading as a whole -/

/-- Whether a function is read, and how it is refused. -/
structure Decided (f : FunctionSource) (r : Except Failure Definition) : Prop where
  success : r.isOk = true ↔ f.InLanguage ∧ f.Expressible
  failure : ∀ e, r = .error e →
    (∃ dg, e = .diagnostic dg ∧ f.Refused dg.problem.kind) ∨
      ∃ fault, e = .fault fault ∧ f.Inexpressible fault

section Decided

variable {f : FunctionSource}

/-- What is refused is not in the language. -/
theorem FunctionSource.Refused.not_inLanguage {kind : DiagnosticKind} (h : f.Refused kind) :
    ¬ f.InLanguage := by
  intro hin
  cases h with
  | rest h => exact h hin.noRest
  | shape _ h => exact h hin.shaped
  | empty _ _ h => exact hin.nonempty h
  | shadows _ _ first _ h =>
    refine hin.targets.2 _ ?_ h
    rw [first]
    simp
  | twice _ _ first _ _ h =>
    have hnodup := hin.targets.1
    rw [first, List.map_append, List.map_cons, List.nodup_append'] at hnodup
    exact hnodup.2.2 h (List.mem_cons_self ..)
  | call _ _ _ _ h => exact h hin.calls

theorem decided_diagnostic {dg : Diagnostic} (h : f.Refused dg.problem.kind) :
    Decided f (.error (.diagnostic dg)) where
  success := ⟨fun hok => absurd hok (by simp [Except.isOk, Except.toBool]),
    fun hin => (h.not_inLanguage hin.1).elim⟩
  failure := by
    intro e he
    cases he
    exact .inl ⟨dg, rfl, h⟩

theorem decided_fault {fault : Fault} (h : f.Inexpressible fault)
    (hnot : ¬ (f.InLanguage ∧ f.Expressible)) : Decided f (.error (.fault fault)) where
  success := ⟨fun hok => absurd hok (by simp [Except.isOk, Except.toBool]),
    fun hin => (hnot hin).elim⟩
  failure := by
    intro e he
    cases he
    exact .inr ⟨fault, rfl, h⟩

end Decided

/-- The parts of a list of arguments or keywords that can be written can be written. -/
theorem writable_of_arguments {args : List Source.Argument}
    (h : Source.writableArguments args = true) :
    ∀ e ∈ args.map Source.Argument.value, e.writable = true := by
  induction args with
  | nil => simp
  | cons a rest ih =>
    obtain ⟨line, e⟩ := a
    simp only [Source.writableArguments, Bool.and_eq_true] at h
    rw [List.map_cons, List.forall_mem_cons]
    exact ⟨h.1, ih h.2⟩

theorem writable_of_keywords {keywords : List Source.Keyword}
    (h : Source.writableKeywords keywords = true) :
    ∀ e ∈ keywords.map Source.Keyword.expression, e.writable = true := by
  induction keywords with
  | nil => simp
  | cons k rest ih =>
    cases k with
    | named name line value =>
      simp only [Source.writableKeywords, Bool.and_eq_true] at h
      rw [List.map_cons, List.forall_mem_cons]
      exact ⟨h.1, ih h.2⟩
    | forward value =>
      simp only [Source.writableKeywords, Bool.and_eq_true] at h
      rw [List.map_cons, List.forall_mem_cons]
      exact ⟨h.1, ih h.2⟩

/-- A statement with an expression that cannot be written cannot be written. -/
theorem not_writable_of_expression {s : Statement} {a : CallAssignment} {e : Expr}
    (hs : callAssignment? s = some a) (he : e ∈ a.expressions) (h : e.writable = false) :
    s.writable = false := by
  unfold callAssignment? at hs
  split at hs
  · cases hs
    rw [← Bool.not_eq_true]
    intro hwritable
    simp only [Statement.writable, Expr.writable, Bool.and_eq_true] at hwritable
    obtain ⟨-, ⟨hcallee, hargs⟩, hkeywords⟩ := hwritable
    suffices e.writable = true by rw [h] at this; cases this
    rcases List.mem_cons.1 he with rfl | he
    · exact hcallee
    · rcases List.mem_append.1 he with he | he
      · exact writable_of_keywords hkeywords e he
      · exact writable_of_arguments hargs e he
  · cases hs

/-- A fault over an expression of a call is one over the function. -/
theorem FunctionSource.inexpressible_of_unspeakable {f : FunctionSource} {fault : Fault}
    (h : Unspeakable (f.assignments.flatMap CallAssignment.expressions) fault) :
    f.Inexpressible fault := by
  rcases h with ⟨rfl, e, he, hlong⟩ | ⟨name, hname, rfl, e, he, hmem⟩
  · obtain ⟨a, ha, hea⟩ := List.mem_flatMap.1 he
    obtain ⟨s, hs, hcall⟩ := List.mem_filterMap.1 ha
    exact .number hs (not_writable_of_expression hcall hea hlong)
  · obtain ⟨a, ha, hea⟩ := List.mem_flatMap.1 he
    exact .constant ha hea hmem hname

namespace Definition

variable (layer : String) (f : FunctionSource) (around : Surroundings) (file : SourceFile)

/-- Reading the calls of a function whose targets are fine decides the rest. -/
theorem decided_calls (hformals : ∀ p ∈ f.formals, p.kind ≠ .positional → p.name ∉ Source.reserved)
    (hrest : f.NoRest) (hshaped : f.Shaped) (hnonempty : f.assignments ≠ [])
    (htargets : f.Targets f.assignments) :
    Decided f (do
      let statements ← (f.bodyNames layer).readBody f.assignments
      match statements.getLast? with
      | none => refuse layer (some f.line) .noAssignments
      | some last =>
        return { name := layer, signature := f.signature, inner := statements.dropLast, last,
                 surroundings := around, file }) := by
  have hjudged := (f.bodyNames layer).judged_readBody f.assignments
  cases hread : (f.bodyNames layer).readBody f.assignments with
  | error e =>
    rw [hread] at hjudged
    rw [error_bind]
    have hnot : ¬ (f.InLanguage ∧ f.Expressible) := fun ⟨hin, hex⟩ => by
      cases hjudged.success.2 ⟨hin.calls, hex.values⟩
    rcases hjudged.failure e rfl with ⟨hrefused, dg, rfl, hkind⟩ | ⟨fault, rfl, hfault⟩
    · refine decided_diagnostic ?_
      rw [hkind]
      exact .call hrest hshaped hnonempty htargets hrefused
    · exact decided_fault (FunctionSource.inexpressible_of_unspeakable hfault) hnot
  | ok statements =>
    rw [hread] at hjudged
    obtain ⟨hcalls, hvalues⟩ := hjudged.success.1 rfl
    have hall := BodyNames.forall₂_of_readBody hread
    obtain ⟨last, hlast⟩ : ∃ last, statements.getLast? = some last := by
      rw [← Option.isSome_iff_exists, List.getLast?_isSome]
      rintro rfl
      exact hnonempty (List.forall₂_nil_right_iff.1 hall)
    rw [ok_bind, hlast]
    refine ⟨iff_of_true rfl ⟨?_, ?_⟩, fun e he => absurd he pure_ne_error⟩
    · exact ⟨hrest, hshaped, hnonempty, htargets, hcalls⟩
    · exact ⟨hformals, hvalues⟩

/-- **Every function is decided**, phase by phase. -/
theorem decided_read : Decided f (Definition.read layer f around file) := by
  unfold Definition.read
  rcases checkFormalNames_cases f.formals with ⟨hok, hformals⟩ | ⟨p, hp, hkind, hreserved, herror⟩
  swap
  · rw [herror, error_bind]
    exact decided_fault (.formal hp hkind hreserved) fun ⟨_, hex⟩ => hex.formals p hp hkind hreserved
  rw [hok, ok_bind]
  by_cases hrest : f.NoRest
  swap
  · obtain ⟨name, herror⟩ := readSignature_of_rest layer hrest
    rw [herror, error_bind]
    exact decided_diagnostic (.rest hrest)
  rw [readSignature_of_noRest layer hrest, ok_bind]
  unfold Definition.readBody
  by_cases hshaped : f.Shaped
  swap
  · obtain ⟨e, herror, ⟨dg, rfl, hkind⟩ | ⟨rfl, s, hs, hlong⟩⟩ :=
      readAssignments_of_not_inShape layer hshaped
    · rw [herror, error_bind]
      refine decided_diagnostic ?_
      rw [hkind]
      exact .shape hrest hshaped
    · rw [herror, error_bind]
      exact decided_fault (.number hs hlong) fun h => hshaped h.1.shaped
  rw [readAssignments_of_inShape layer hshaped, ok_bind]
  change Decided f (do
    if f.assignments.isEmpty then refuse layer (some f.line) .noAssignments
    checkTargets layer f.signature.names [] f.assignments
    let statements ← (f.bodyNames layer).readBody f.assignments
    match statements.getLast? with
    | none => refuse layer (some f.line) .noAssignments
    | some last =>
      return { name := layer, signature := f.signature, inner := statements.dropLast, last,
               surroundings := around, file })
  by_cases hempty : f.assignments = []
  · rw [hempty]
    exact decided_diagnostic (.empty hrest hshaped hempty)
  rw [if_neg (by simpa using hempty)]
  rcases checkTargets_cases layer f.signature.names [] f.assignments with
    ⟨hok, hfresh, hnodup⟩ | ⟨before, a, after, problem, hfirst, hbefore, hnodup, herror, hcause⟩
  · rw [hok, ok_bind]
    exact decided_calls layer f around file hformals hrest hshaped hempty
      ⟨hnodup, fun a ha => (hfresh a ha).1⟩
  · rw [herror, error_bind]
    have hfine : f.Targets before := ⟨hnodup, fun x hx => (hbefore x hx).1⟩
    rcases hcause with ⟨hformal, rfl⟩ | ⟨hfresh, hrepeated, rfl⟩
    · exact decided_diagnostic (.shadows hrest hshaped hfirst hfine hformal)
    · exact decided_diagnostic (.twice hrest hshaped hfirst hfine hfresh
        (hrepeated.resolve_left (List.not_mem_nil)))

/-- Statements that keep the lines and targets of assignments show them in the template. -/
theorem flatMap_statementNodes (d : Definition) {assignments : List CallAssignment}
    {statements : List BodyStatement}
    (h : List.Forall₂ (fun a s => s.line = a.line ∧ s.target = a.target) assignments statements) :
    ∃ calls : List (Value × List Node), calls.length = assignments.length ∧
      statements.flatMap d.statementNodes = (assignments.zip calls).flatMap fun p =>
        [.line p.1.line d.file, .assign (.placeholder p.1.target) (.call p.2.1 p.2.2)] := by
  induction h with
  | nil => exact ⟨[], rfl, rfl⟩
  | @cons a s _ _ hs _ ih =>
    obtain ⟨calls, hlength, heq⟩ := ih
    obtain ⟨args, hnode⟩ : ∃ args,
        d.callNode s.call = .call (calleeValue s.call.callee) args := ⟨_, rfl⟩
    refine ⟨(calleeValue s.call.callee, args) :: calls, by simp [hlength], ?_⟩
    rw [List.flatMap_cons, List.zip_cons_cons, List.flatMap_cons, heq, statementNodes, hnode, hs.1,
      hs.2]

variable {layer f around file}

/-- What a function is read as: its targets are the locals, the last one is the output, and the
template has one line mark and one assignment for each of its assignments. -/
theorem shape_of_read {d : Definition} (h : Definition.read layer f around file = .ok d) :
    d.locals = f.assignments.map (·.target) ∧
      f.assignments.getLast?.map (·.target) = some d.output ∧
      ∃ calls : List (Value × List Node), calls.length = f.assignments.length ∧
        d.template = .block ((f.assignments.zip calls).flatMap fun p =>
          [.line p.1.line file, .assign (.placeholder p.1.target) (.call p.2.1 p.2.2)]) := by
  have hin := ((decided_read layer f around file).success.1 (by rw [h]; rfl)).1
  simp only [Definition.read, bind_eq_ok] at h
  obtain ⟨⟨⟩, -, signature, -, h⟩ := h
  obtain ⟨assignments, statements, last, hassignments, -, hread, hlast, rfl⟩ := readBody_eq_ok h
  rw [readAssignments_of_inShape layer hin.shaped] at hassignments
  obtain rfl : f.assignments = assignments := Except.ok.inj hassignments
  have hbody : statements.dropLast ++ [last] = statements := List.dropLast_append_getLast? _ hlast
  have htargets := (BodyNames.readBody_eq_ok hread).1
  refine ⟨?_, ?_, ?_⟩
  · simp only [locals, body, hbody, htargets]
  · rw [← List.getLast?_map, ← htargets, List.getLast?_map, hlast]
    rfl
  · obtain ⟨calls, hlength, heq⟩ := flatMap_statementNodes
      ⟨layer, signature, statements.dropLast, last, around, file⟩
      (BodyNames.forall₂_of_readBody hread)
    refine ⟨calls, hlength, ?_⟩
    simp only [template, body, hbody]
    exact congrArg Node.block heq

/-- **The language of layers.** A function is read as a layer exactly if it is in the language and
what has to be written down can be expressed.  Then its targets are the locals of the layer, the
last one is the output, and the template has a line mark and an assignment for each assignment, in
order.  Otherwise it is refused with a diagnostic of the class of the first phase that fails, or
with a fault over something that cannot be expressed. -/
theorem read_iff_inLanguage (layer : String) (f : FunctionSource) (around : Surroundings)
    (file : SourceFile) :
    ((∃ d, Definition.read layer f around file = .ok d) ↔ f.InLanguage ∧ f.Expressible) ∧
      (∀ d, Definition.read layer f around file = .ok d →
        d.locals = f.assignments.map (·.target) ∧
          f.assignments.getLast?.map (·.target) = some d.output ∧
          ∃ calls : List (Value × List Node), calls.length = f.assignments.length ∧
            d.template = .block ((f.assignments.zip calls).flatMap fun p =>
              [.line p.1.line file, .assign (.placeholder p.1.target) (.call p.2.1 p.2.2)])) ∧
      ∀ e, Definition.read layer f around file = .error e →
        (∃ dg, e = .diagnostic dg ∧ f.Refused dg.problem.kind) ∨
          ∃ fault, e = .fault fault ∧ f.Inexpressible fault := by
  have hdecided := decided_read layer f around file
  refine ⟨?_, fun d h => shape_of_read h, hdecided.failure⟩
  rw [← hdecided.success]
  constructor
  · rintro ⟨d, h⟩
    rw [h]
    rfl
  · intro hok
    cases h : Definition.read layer f around file with
    | error e =>
      rw [h] at hok
      cases hok
    | ok d => exact ⟨d, rfl⟩

end Definition

/-! ### A number that is too long -/

/-- A function in the language whose one call is given a negative number too long to be written. -/
def longNumber : FunctionSource where
  formals := [⟨"x", .standard, none⟩]
  line := 2
  body := [.assign 3 [.name "y"] (.call 3 (.name "par") [.mk 3 (.literal (.int 0))]
    [.named "k" 3 (.unary .neg (.literal (.int (10 ^ 4300))))])]

theorem inLanguage_longNumber : longNumber.InLanguage where
  noRest := by
    intro p hp
    rw [List.mem_singleton.1 hp]
    decide
  shaped := by
    intro s hs
    rw [List.mem_singleton.1 hs]
    exact .inr rfl
  nonempty := List.cons_ne_nil _ _
  targets := ⟨by decide, by decide⟩
  calls := by
    intro a ha
    rw [List.mem_singleton.1 ha]
    refine ⟨⟨"par", rfl, .inr (by decide)⟩, fun k hk => ?_, fun x hx => ⟨fun e he => ?_, ?_⟩⟩
    · rw [List.mem_singleton.1 hk]
      exact .inr (by simp [Expr.names])
    · rw [List.mem_singleton.1 hx] at he
      cases he
    · rw [List.mem_singleton.1 hx]
      exact .inr (by simp [Source.Argument.value, Expr.names])

/-- **Being in the language is not enough.** The number is deferred, because of its sign, and a
deferred expression is kept with its text; this one has none, so the function is refused with a bare
fault. -/
theorem longNumber_refused : longNumber.InLanguage ∧
    ∃ fault, Definition.read "f" longNumber { globals := 0 } (.layers 0) = .error (.fault fault) ∧
      longNumber.Inexpressible fault := by
  have hlong : ¬ longNumber.Expressible := by
    intro h
    have hwritable := (h.values _ (List.mem_singleton_self _)
      (.unary .neg (.literal (.int (10 ^ 4300)))) (List.mem_cons_self ..) trivial).1
    exact absurd hwritable (by decide +kernel)
  obtain ⟨hiff, -, hfails⟩ :=
    Definition.read_iff_inLanguage "f" longNumber { globals := 0 } (.layers 0)
  refine ⟨inLanguage_longNumber, ?_⟩
  cases h : Definition.read "f" longNumber { globals := 0 } (.layers 0) with
  | ok d => exact absurd (hiff.1 ⟨d, h⟩).2 hlong
  | error e =>
    rcases hfails e h with ⟨dg, -, hrefused⟩ | ⟨fault, rfl, hfault⟩
    · exact absurd inLanguage_longNumber hrefused.not_inLanguage
    · exact ⟨fault, rfl, hfault⟩

end Laminar
