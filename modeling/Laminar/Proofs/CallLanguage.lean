import Mathlib
import Laminar.Proofs.Acceptance

/-!
# Calls in the language of layers

A call in the body of a layer is read in parts: its callee, its keywords, its positional arguments.
Each part is refused if it is not in the language.  Besides, a value that the layer does not bind is
*deferred*, and a deferred expression is kept with its text; reading fails with a fault where there
is no text to keep.

* `BodyNames.Admits` says which calls are in the language.
* `Judged`: what is known of reading one part.  It succeeds exactly if the part is in the language
  and can be expressed; it is refused only if it is not in the language.
* `judged_readBody`: the judgement of all calls of a body, put together from single expressions by
  the rules for sequences.
-/

namespace Laminar

open Source (Expr)

/-! ### What a call consists of -/

/-- The expression that a keyword of a call names. -/
def Source.Keyword.value? : Source.Keyword → Option Expr
  | .named _ _ value => some value
  | .forward _ => none

/-- The expression of a keyword, named or forwarded. -/
def Source.Keyword.expression : Source.Keyword → Expr
  | .named _ _ value => value
  | .forward value => value

namespace CallAssignment

/-- The values of a call: those of its named keywords and its positional ones. -/
def values (a : CallAssignment) : List Expr :=
  a.keywords.filterMap Source.Keyword.value? ++ a.args.map Source.Argument.value

/-- All expressions that a call is written with. -/
def expressions (a : CallAssignment) : List Expr :=
  a.callee :: (a.keywords.map Source.Keyword.expression ++ a.args.map Source.Argument.value)

end CallAssignment

/-! ### Which calls are in the language -/

namespace BodyNames

/-- A callee is a bare name: a parameter, or a name that stands for no register. -/
def AdmitsCallee (b : BodyNames) (e : Expr) : Prop :=
  ∃ id, e = .name id ∧ (id ∈ b.parameters ∨ id ∉ b.symbols)

/-- A value is a bare name, or an expression that mentions no register. -/
def AdmitsValue (b : BodyNames) (e : Expr) : Prop :=
  (∃ id, e = .name id) ∨ ∀ x ∈ e.names, x ∉ b.symbols

/-- A keyword names a value, or forwards what the layer itself collects. -/
def AdmitsKeyword (b : BodyNames) : Source.Keyword → Prop
  | .named _ _ value => b.AdmitsValue value
  | .forward value => ∃ own, b.collector = some own ∧ value = .name own

/-- A positional argument is a value, not a sequence to be spread. -/
def AdmitsArgument (b : BodyNames) (a : Source.Argument) : Prop :=
  (∀ e, a.value ≠ .starred e) ∧ b.AdmitsValue a.value

/-- The calls that are in the language. -/
def Admits (b : BodyNames) (a : CallAssignment) : Prop :=
  b.AdmitsCallee a.callee ∧ (∀ k ∈ a.keywords, b.AdmitsKeyword k) ∧
    ∀ x ∈ a.args, b.AdmitsArgument x

/-- An expression is deferred unless it is a constant or a name that the layer binds. -/
def Defers (b : BodyNames) : Expr → Prop
  | .literal _ => False
  | .name id => id ∉ b.symbols ∧ id ∉ b.parameters ∧ b.collector ≠ some id
  | _ => True

/-- If an expression is deferred, it has a text, and it names no constant in another spelling. -/
def Expresses (b : BodyNames) (e : Expr) : Prop :=
  b.Defers e → e.writable = true ∧ ∀ x ∈ e.names, x ∉ constantNames

end BodyNames

/-! ### Judging the parts of a call -/

/-- The faults over expressions that cannot be expressed. -/
def Unspeakable (es : List Expr) (fault : Fault) : Prop :=
  (fault = .digitLimit ∧ ∃ e ∈ es, e.writable = false) ∨
    ∃ name ∈ constantNames, fault = .constantName name ∧ ∃ e ∈ es, name ∈ e.names

/-- What is known of reading a part of a call: it succeeds exactly if the part is in the language
and can be expressed, it is refused as a malformed call only if it is not in the language, and all
other failures are faults over one of its expressions. -/
structure Judged {α : Type} (r : Except Failure α) (admitted expressed : Prop) (es : List Expr) :
    Prop where
  success : r.isOk = true ↔ admitted ∧ expressed
  failure : ∀ e, r = .error e →
    (¬ admitted ∧ ∃ dg, e = .diagnostic dg ∧ dg.problem.kind = .malformedCall) ∨
      ∃ fault, e = .fault fault ∧ Unspeakable es fault

section Judged

variable {α β : Type} {admitted admitted' expressed expressed' : Prop} {es es' : List Expr}

theorem Unspeakable.mono {fault : Fault} (h : Unspeakable es fault) (hsubset : es ⊆ es') :
    Unspeakable es' fault := by
  rcases h with ⟨rfl, e, he, hlong⟩ | ⟨name, hname, rfl, e, he, hmem⟩
  · exact .inl ⟨rfl, e, hsubset he, hlong⟩
  · exact .inr ⟨name, hname, rfl, e, hsubset he, hmem⟩

theorem judged_pure (a : α) : Judged (pure a) True True [] where
  success := by simp [pure, Except.pure, Except.isOk, Except.toBool]
  failure := fun _ h => absurd h pure_ne_error

/-- A refusal is justified if the part is not in the language. -/
theorem judged_refuse {layer : String} {line : Option Nat} {problem : Problem} (h : ¬ admitted)
    (hkind : problem.kind = .malformedCall) :
    Judged (refuse layer line problem : Except Failure α) admitted expressed es where
  success := by simp [refuse, throw, throwThe, MonadExceptOf.throw, Except.isOk, Except.toBool, h]
  failure := by
    intro e he
    rw [refuse, throw_eq_error] at he
    exact .inl ⟨h, _, he.symm, hkind⟩

/-- A refusal may have to be worded first, with the text of an expression. -/
theorem judged_refuse_written {layer : String} {line : Option Nat} {e : Expr}
    {problem : String → Problem} (h : ¬ admitted)
    (hkind : ∀ text, (problem text).kind = .malformedCall) (he : e ∈ es) :
    Judged (do refuse layer line (problem (← e.written)) : Except Failure α) admitted expressed
      es := by
  unfold Expr.written
  split
  · exact judged_refuse h (hkind _)
  · rename_i hlong
    refine ⟨by simp [throw, throwThe, MonadExceptOf.throw, bind, Except.bind, Except.isOk,
      Except.toBool, h], fun e' he' => ?_⟩
    cases he'
    exact .inr ⟨_, rfl, .inl ⟨rfl, e, he, by simpa using hlong⟩⟩

theorem Judged.mono {r : Except Failure α} (h : Judged r admitted expressed es)
    (hadmitted : admitted ↔ admitted') (hexpressed : expressed ↔ expressed') (hsubset : es ⊆ es') :
    Judged r admitted' expressed' es' where
  success := by rw [h.success, hadmitted, hexpressed]
  failure := by
    intro e he
    rcases h.failure e he with ⟨hnot, dg⟩ | ⟨fault, heq, hfault⟩
    · exact .inl ⟨fun hyes => hnot (hadmitted.2 hyes), dg⟩
    · exact .inr ⟨fault, heq, hfault.mono hsubset⟩

/-- Two parts one after the other. -/
theorem Judged.bind {r : Except Failure α} {k : α → Except Failure β}
    (h : Judged r admitted expressed es) (h' : ∀ a, Judged (k a) admitted' expressed' es') :
    Judged (r >>= k) (admitted ∧ admitted') (expressed ∧ expressed') (es ++ es') := by
  cases r with
  | error e =>
    have hnot : ¬ (admitted ∧ expressed) := fun hyes => by cases h.success.2 hyes
    refine ⟨⟨fun hok => ?_, fun ⟨⟨ha, _⟩, he, _⟩ => (hnot ⟨ha, he⟩).elim⟩, ?_⟩
    · cases hok
    intro e' he'
    cases he'
    rcases h.failure e rfl with ⟨hno, dg⟩ | ⟨fault, heq, hfault⟩
    · exact .inl ⟨fun hyes => hno hyes.1, dg⟩
    · exact .inr ⟨fault, heq, hfault.mono (List.subset_append_left ..)⟩
  | ok a =>
    obtain ⟨hadmitted, hexpressed⟩ := h.success.1 rfl
    have hrest := h' a
    refine ⟨?_, fun e he => ?_⟩
    · refine hrest.success.trans ⟨fun ⟨ha, he⟩ => ⟨⟨hadmitted, ha⟩, hexpressed, he⟩, ?_⟩
      exact fun ⟨⟨_, ha⟩, _, he⟩ => ⟨ha, he⟩
    · rcases hrest.failure e he with ⟨hno, dg⟩ | ⟨fault, heq, hfault⟩
      · exact .inl ⟨fun hyes => hno hyes.2, dg⟩
      · exact .inr ⟨fault, heq, hfault.mono (List.subset_append_right ..)⟩

/-- What is made of a part afterwards does not matter. -/
theorem Judged.map {r : Except Failure α} {g : α → β} (h : Judged r admitted expressed es) :
    Judged (do return g (← r)) admitted expressed es :=
  (h.bind fun a => judged_pure (g a)).mono (by simp) (by simp) (by simp)

end Judged

namespace BodyNames

variable {b : BodyNames}

/-- An expression mentions a register exactly if one of its names stands for one. -/
theorem mentioned_eq_nil_iff {e : Expr} : b.mentioned e = [] ↔ ∀ x ∈ e.names, x ∉ b.symbols := by
  rw [mentioned, ← List.length_eq_zero_iff, List.length_mergeSort, List.length_eq_zero_iff]
  constructor
  · intro h x hx hsymbol
    have hmem : x ∈ (e.names.filter (b.symbols.contains ·)).eraseDups := by
      rw [List.mem_eraseDups, List.mem_filter]
      exact ⟨hx, List.contains_iff_mem.2 hsymbol⟩
    rw [h] at hmem
    cases hmem
  · intro h
    have hnone : e.names.filter (b.symbols.contains ·) = [] := by
      rw [List.filter_eq_nil_iff]
      exact fun x hx hcontains => h x hx (List.contains_iff_mem.1 hcontains)
    rw [hnone]
    rfl

theorem judged_readDeferred (line : Nat) (e : Expr) :
    Judged (b.readDeferred line e) (∀ x ∈ e.names, x ∉ b.symbols)
      (e.writable = true ∧ ∀ x ∈ e.names, x ∉ constantNames) [e] := by
  unfold readDeferred Expr.written
  split
  · rename_i hwritable
    rw [pure_bind]
    split
    · rename_i hnone hfind
      have hconstants : ∀ x ∈ e.names, x ∉ constantNames := by
        simpa [List.find?_eq_none] using hfind
      exact (judged_pure _).mono (iff_of_true trivial (mentioned_eq_nil_iff.1 hnone))
        (iff_of_true trivial ⟨hwritable, hconstants⟩) (List.nil_subset _)
    · rename_i name hnone hfind
      have hname : name ∈ constantNames := by simpa using List.find?_some hfind
      have hmem := List.mem_of_find?_eq_some hfind
      refine ⟨⟨fun hok => ?_, fun h => (h.2.2 name hmem hname).elim⟩, fun e' he' => ?_⟩
      · cases hok
      · rw [throw_eq_error] at he'
        exact .inr ⟨_, he'.symm, .inr ⟨name, hname, rfl, e, List.mem_singleton_self e, hmem⟩⟩
    · rename_i notNone notSome
      refine judged_refuse (fun hfree => ?_) rfl
      have hnone := mentioned_eq_nil_iff.2 hfree
      cases hfind : e.names.find? (constantNames.contains ·) with
      | none => exact notNone hnone hfind
      | some name => exact notSome name hnone hfind
  · rename_i hlong
    refine ⟨⟨fun hok => ?_, fun h => (hlong h.2.1).elim⟩, fun e' he' => ?_⟩
    · cases hok
    · cases he'
      exact .inr ⟨_, rfl, .inl ⟨rfl, e, List.mem_singleton_self e, by simpa using hlong⟩⟩

/-- An expression that is deferred and can be expressed is kept with its text. -/
theorem readTerm_eq_deferred {line : Nat} {e : Expr} (hname : ∀ id, e ≠ .name id)
    (hliteral : ∀ value, e ≠ .literal value) (hwritable : e.writable = true)
    (hfree : ∀ x ∈ e.names, x ∉ b.symbols) (hconstants : ∀ x ∈ e.names, x ∉ constantNames) :
    b.readTerm line e = .ok (.deferred e.text e) := by
  have hread : b.readTerm line e = b.readDeferred line e := by
    cases e with
    | name id => exact absurd rfl (hname id)
    | literal value => exact absurd rfl (hliteral value)
    | _ => rfl
  have hfind : e.names.find? (constantNames.contains ·) = none := by
    simpa [List.find?_eq_none] using hconstants
  rw [hread, readDeferred, Expr.written, if_pos hwritable, mentioned_eq_nil_iff.2 hfree, hfind]
  rfl

/-- **Reading a value.** -/
theorem judged_readTerm (line : Nat) (e : Expr) :
    Judged (b.readTerm line e) (b.AdmitsValue e) (b.Expresses e) [e] := by
  have hdeferred := judged_readDeferred (b := b) line e
  cases e with
  | name id =>
    have hadmits : b.AdmitsValue (.name id) := .inl ⟨id, rfl⟩
    unfold readTerm
    dsimp only
    split
    · rename_i hsymbol
      refine (judged_pure _).mono (iff_of_true trivial hadmits) (iff_of_true trivial ?_)
        (List.nil_subset _)
      exact fun h => (h.1 (List.contains_iff_mem.1 hsymbol)).elim
    · rename_i hsymbol
      split
      · rename_i hbound
        refine (judged_pure _).mono (iff_of_true trivial hadmits) (iff_of_true trivial ?_)
          (List.nil_subset _)
        intro h
        simp only [Bool.or_eq_true, List.contains_iff_mem, beq_iff_eq] at hbound
        exact (hbound.elim h.2.1 h.2.2).elim
      · rename_i hbound
        have hfree : ∀ x ∈ (Expr.name id).names, x ∉ b.symbols := by
          simpa [Expr.names] using hsymbol
        have hdefers : b.Defers (.name id) := by
          simp only [Bool.or_eq_true, List.contains_iff_mem, beq_iff_eq, not_or] at hbound
          exact ⟨by simpa using hsymbol, hbound⟩
        exact hdeferred.mono (iff_of_true hfree hadmits)
          ⟨fun h _ => h, fun h => h hdefers⟩ (List.Subset.refl _)
  | literal value =>
    refine (judged_pure _).mono (iff_of_true trivial (.inr ?_)) (iff_of_true trivial fun h => h.elim)
      (List.nil_subset _)
    simp [Expr.names]
  | _ =>
    refine hdeferred.mono ⟨.inr, fun h => h.resolve_left ?_⟩ ⟨fun h _ => h, fun h => h trivial⟩
      (List.Subset.refl _)
    rintro ⟨id, hid⟩
    cases hid

/-- **Reading a callee.** -/
theorem judged_readCallee (line : Nat) (e : Expr) :
    Judged (b.readCallee line e) (b.AdmitsCallee e) True [e] := by
  unfold readCallee
  split
  · rename_i id
    split
    · rename_i hparameter
      exact (judged_pure _).mono
        (iff_of_true trivial ⟨id, rfl, .inl (List.contains_iff_mem.1 hparameter)⟩) Iff.rfl
        (List.nil_subset _)
    · rename_i hparameter
      split
      · rename_i hsymbol
        refine judged_refuse ?_ rfl
        rintro ⟨_, ⟨rfl⟩, h | h⟩
        · exact hparameter (List.contains_iff_mem.2 h)
        · exact h (List.contains_iff_mem.1 hsymbol)
      · rename_i hsymbol
        refine (judged_pure _).mono (iff_of_true trivial ⟨id, rfl, .inr fun h => ?_⟩) Iff.rfl
          (List.nil_subset _)
        exact hsymbol (List.contains_iff_mem.2 h)
  · rename_i notName
    refine judged_refuse_written ?_ (fun _ => rfl) (List.mem_singleton_self e)
    rintro ⟨id, rfl, -⟩
    exact notName id rfl

/-- **Reading keywords.** -/
theorem judged_readKeywords (line : Nat) (keywords : List Source.Keyword) :
    Judged (b.readKeywords line keywords) (∀ k ∈ keywords, b.AdmitsKeyword k)
      (∀ e ∈ keywords.filterMap Source.Keyword.value?, b.Expresses e)
      (keywords.map Source.Keyword.expression) := by
  induction keywords with
  | nil => exact (judged_pure _).mono (by simp) (by simp) (List.nil_subset _)
  | cons k rest ih =>
    cases k with
    | named name valueLine value =>
      refine ((judged_readTerm valueLine value).bind fun t => ih.map).mono ?_ ?_ ?_
      · rw [List.forall_mem_cons]
        rfl
      · simp [Source.Keyword.value?]
      · simp [Source.Keyword.expression]
    | forward value =>
      have hwritten : value ∈ (Source.Keyword.forward value :: rest).map
          Source.Keyword.expression := List.mem_cons_self ..
      rw [List.forall_mem_cons]
      unfold readKeywords
      split
      · rename_i hnone
        refine judged_refuse ?_ rfl
        rintro ⟨⟨own, hown, -⟩, -⟩
        rw [hnone] at hown
        cases hown
      · rename_i own hown
        have refused (h : value ≠ .name own) : ¬ ((b.AdmitsKeyword (.forward value)) ∧
            ∀ k ∈ rest, b.AdmitsKeyword k) := by
          rintro ⟨⟨own', hown', rfl⟩, -⟩
          rw [hown] at hown'
          cases hown'
          exact h rfl
        dsimp only
        split
        · rename_i id
          split
          · rename_i heq
            subst heq
            refine ih.map.mono ?_ Iff.rfl (List.subset_cons_self ..)
            exact ⟨fun h => ⟨⟨id, hown, rfl⟩, h⟩, fun h => h.2⟩
          · rename_i hne
            exact judged_refuse_written (refused fun h => hne (Expr.name.inj h)) (fun _ => rfl)
              hwritten
        · rename_i notName
          exact judged_refuse_written (refused fun h => notName own h) (fun _ => rfl) hwritten

/-- **Reading positional arguments.** -/
theorem judged_readArguments (line : Nat) (args : List Source.Argument) :
    Judged (b.readArguments line args) (∀ x ∈ args, b.AdmitsArgument x)
      (∀ e ∈ args.map Source.Argument.value, b.Expresses e) (args.map Source.Argument.value) := by
  induction args with
  | nil => exact (judged_pure _).mono (by simp) (by simp) (List.nil_subset _)
  | cons a rest ih =>
    obtain ⟨argumentLine, e⟩ := a
    rw [List.forall_mem_cons]
    unfold readArguments
    split
    · rename_i heq
      cases heq
    · rename_i inner _ heq
      cases heq
      refine judged_refuse_written ?_ (fun _ => rfl) (List.mem_cons_self ..)
      exact fun h => h.1.1 inner rfl
    · rename_i notStarred heq
      cases heq
      refine ((judged_readTerm argumentLine e).bind fun t => ih.map).mono ?_ ?_ ?_
      · refine and_congr_left fun _ => ⟨fun h => ⟨fun inner hinner => ?_, h⟩, fun h => h.2⟩
        subst hinner
        exact (notStarred _ rfl).elim
      · simp [Source.Argument.value]
      · simp [Source.Argument.value]

/-- **Reading a call.** -/
theorem judged_readStatement (a : CallAssignment) :
    Judged (b.readStatement a) (b.Admits a) (∀ e ∈ a.values, b.Expresses e) a.expressions := by
  refine ((judged_readCallee a.callLine a.callee).bind fun callee =>
    (judged_readKeywords a.callLine a.keywords).bind fun keywords =>
      (judged_readArguments a.callLine a.args).map).mono ?_ ?_ ?_
  · exact Iff.rfl
  · rw [CallAssignment.values, List.forall_mem_append]
    simp
  · exact List.Subset.refl _

/-- **Reading all calls of a body.** -/
theorem judged_readBody (assignments : List CallAssignment) :
    Judged (b.readBody assignments) (∀ a ∈ assignments, b.Admits a)
      (∀ a ∈ assignments, ∀ e ∈ a.values, b.Expresses e)
      (assignments.flatMap CallAssignment.expressions) := by
  induction assignments with
  | nil => exact (judged_pure _).mono (by simp) (by simp) (List.nil_subset _)
  | cons a rest ih =>
    refine ((judged_readStatement a).bind fun s => ih.map).mono ?_ ?_ ?_
    · rw [List.forall_mem_cons]
    · rw [List.forall_mem_cons]
    · exact List.Subset.refl _

end BodyNames

/-- The calls of a body are read one by one: lines and targets are kept. -/
theorem BodyNames.forall₂_of_readBody {b : BodyNames} {assignments : List CallAssignment}
    {statements : List BodyStatement} (h : b.readBody assignments = .ok statements) :
    List.Forall₂ (fun a s => s.line = a.line ∧ s.target = a.target) assignments statements := by
  induction assignments generalizing statements with
  | nil =>
    cases pure_eq_ok.1 h
    exact .nil
  | cons a rest ih =>
    simp only [readBody, readStatement, bind_eq_ok, pure_eq_ok] at h
    obtain ⟨s, ⟨callee, -, keywords, -, args, -, rfl⟩, others, hothers, rfl⟩ := h
    exact .cons ⟨rfl, rfl⟩ (ih hothers)

end Laminar
