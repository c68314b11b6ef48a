import Mathlib
import Laminar.Proofs.FirstAppearance

/-!
# What assembly accepts

Assembly accepts the programs with single assignments, and it says of every other program what is
wrong with it.  The check itself is local: each result is compared with one table, which inputs,
operands and earlier results have filled in turn.  Read off the closed form of that table
(`Assembly.add_numbered`), it is the condition `SingleAssignment`, which speaks of all pairs of
instructions.

* `Value.OverTexts`: what an entry names after its operator are texts.
* `Offending inputs entries e`: the first entry that cannot be added is `e`.  Either all entries can
  be added or there is such an entry (`accepted_or_offending`).
* `assemble_iff_singleAssignment`: the outcome of assembly, for every list of inputs and every list
  of entries over texts.

**Text.** A diagnostic quotes the entry that it is about.  An entry with a number of too many digits
cannot be quoted, and then the report itself fails: the program is refused all the same, but with
the fault of an unwritable number.  `unwritable_entry_refused` is such a program.
-/

namespace Laminar

/-- The components of an entry after its operator are texts. -/
def Value.OverTexts (e : Value) : Prop :=
  ∀ op rest, e = .tuple (.op op :: rest) → ∀ v ∈ rest, ∃ s, v = .str s

theorem TextInstruction.overTexts (i : TextInstruction) : i.toValue.OverTexts := by
  rintro op rest h v hv
  obtain ⟨-, rfl⟩ := List.cons.inj (Value.tuple.inj h)
  rcases List.mem_append.1 hv with hv | hv
  · obtain ⟨s, -, rfl⟩ := List.mem_map.1 hv
    exact ⟨s, rfl⟩
  · exact ⟨i.result, List.mem_singleton.1 hv⟩

/-- Over texts, an entry is an instruction over texts or no instruction at all. -/
theorem Value.OverTexts.cases {e : Value} (h : e.OverTexts) :
    (∃ i : TextInstruction, e = i.toValue) ∨ e.instruction? = none := by
  cases hread : e.instruction? with
  | none => exact .inr rfl
  | some i =>
    obtain rfl := Value.eq_toValue_of_instruction? hread
    have htexts : ∀ v ∈ i.operands ++ [i.result], ∃ s, v = .str s := h i.op _ rfl
    obtain ⟨hoperands, hresult⟩ := List.forall_mem_append.1 htexts
    obtain ⟨s, hs⟩ := hresult _ (List.mem_singleton_self _)
    obtain ⟨names, hnames⟩ : i.operands ∈ Set.range (List.map Value.str) := by
      rw [Set.range_list_map]
      exact fun v hv => (hoperands v hv).imp fun _ => Eq.symm
    refine .inl ⟨⟨i.op, names, s⟩, ?_⟩
    rw [TextInstruction.toValue, TextInstruction.instruction, hnames, ← hs]

/-! ### The first entry that cannot be added -/

/-- The entries before `e` make a program with single assignments, and with `e` they do not: it is
no instruction over texts, or its result was met before. -/
def Offending (inputs : List String) (entries : List Value) (e : Value) : Prop :=
  ∃ prog rest, entries = prog.map TextInstruction.toValue ++ e :: rest ∧
    SingleAssignment inputs prog ∧
    ∀ i : TextInstruction, e = i.toValue → ¬ SingleAssignment inputs (prog ++ [i])

/-- All entries can be added, or there is a first one that cannot. -/
theorem accepted_or_offending (inputs : List String) (entries : List Value) :
    (∃ prog, entries = prog.map TextInstruction.toValue ∧ SingleAssignment inputs prog) ∨
      ∃ e, Offending inputs entries e := by
  induction entries using List.reverseRecOn with
  | nil => exact .inl ⟨[], rfl, singleAssignment_nil inputs⟩
  | append_singleton entries e ih =>
    rcases ih with ⟨prog, rfl, hprog⟩ | ⟨e', prog, rest, rfl, hprog, hbad⟩
    · by_cases hadd : ∃ i : TextInstruction, e = i.toValue ∧ SingleAssignment inputs (prog ++ [i])
      · obtain ⟨i, rfl, hi⟩ := hadd
        exact .inl ⟨prog ++ [i], by simp, hi⟩
      · exact .inr ⟨e, prog, [], rfl, hprog, fun i he hi => hadd ⟨i, he, hi⟩⟩
    · exact .inr ⟨e', prog, rest ++ [e], by simp, hprog, hbad⟩

/-- What is wrong with an entry is a malformed expression; whether it can be reported depends on the
entry. -/
structure Problem.Refuses (problem : Problem) (e : Value) : Prop where
  kind : problem.kind = .malformedExpression
  writable : problem.writable = e.writable

/-- The class of the report: a malformed expression, unless the entry has no text. -/
theorem Problem.Refuses.label {problem : Problem} {e : Value} (h : problem.Refuses e) :
    problem.failure.label = if e.writable then "MalformedExpression" else "ValueError" := by
  rw [Problem.failure, Diagnostic.failure, ← h.writable]
  change Failure.label (if problem.writable = true then _ else _) = _
  split
  · change problem.kind.label = _
    rw [h.kind]
    rfl
  · rfl

/-- **An entry that cannot be added is refused.** -/
theorem assembleEntries_refuses {inputs : List String} {prog : List TextInstruction} {e : Value}
    (htexts : e.OverTexts) (hprog : SingleAssignment inputs prog)
    (hbad : ∀ i : TextInstruction, e = i.toValue → ¬ SingleAssignment inputs (prog ++ [i]))
    (rest : List Value) :
    ∃ problem : Problem, problem.Refuses e ∧
      assembleEntries (numbered inputs prog) (e :: rest) = .error problem.failure := by
  rcases htexts.cases with ⟨i, rfl⟩ | hnone
  · have hold : i.result ∈ occurrences inputs prog ++ i.operands := by
      by_contra hnew
      exact hbad i rfl (singleAssignment_concat.2 ⟨hprog, hnew⟩)
    refine ⟨.writtenTwice (.str i.result) i.toValue, ⟨rfl, Bool.true_and _⟩, ?_⟩
    rw [assembleEntries, i.instruction?_toValue]
    exact bind_eq_error.2 (.inl (by rw [Assembly.add_numbered, if_pos hold]))
  · refine ⟨.notInstruction e, ⟨rfl, rfl⟩, ?_⟩
    rw [assembleEntries, hnone]
    rfl

theorem assembleEntries_append (a : Assembly) (front rest : List Value) :
    assembleEntries a (front ++ rest) =
      assembleEntries a front >>= fun b => assembleEntries b rest := by
  induction front generalizing a with
  | nil => rfl
  | cons e front ih =>
    rw [List.cons_append, assembleEntries, assembleEntries]
    cases e.instruction? with
    | none => rfl
    | some i =>
      rw [bind_assoc]
      exact congrArg _ (funext ih)

/-! ### The outcome -/

section Outcome

variable {inputs : List String} {entries : List Value}

theorem TextInstruction.toValue_injective : Function.Injective TextInstruction.toValue := by
  intro i j h
  have hread : some i.instruction = some j.instruction := by
    rw [← instruction?_toValue, ← instruction?_toValue, h]
  obtain ⟨hop, hoperands, hresult⟩ := Instruction.mk.inj (Option.some.inj hread)
  have hstr : Function.Injective Value.str := fun _ _ => Value.str.inj
  exact TextInstruction.ext hop (List.map_injective_iff.2 hstr hoperands) (hstr hresult)

/-- Where an entry cannot be added, the entries are no program with single assignments. -/
theorem Offending.not_accepted {e : Value} (h : Offending inputs entries e) :
    ¬ ∃ prog, entries = prog.map TextInstruction.toValue ∧ SingleAssignment inputs prog := by
  obtain ⟨prog, rest, rfl, -, hbad⟩ := h
  rintro ⟨prog', hentries, hprog'⟩
  obtain ⟨front, back, rfl, hfront, hback⟩ := List.map_eq_append_iff.1 hentries.symm
  obtain ⟨i, back, rfl, hi, -⟩ := List.map_eq_cons_iff.1 hback
  obtain rfl := List.map_injective_iff.2 TextInstruction.toValue_injective hfront
  rw [List.append_cons] at hprog'
  exact hbad i hi.symm hprog'.front

/-- **A repeated input** is refused, whatever the program. -/
theorem assemble_of_repeated (hinputs : ¬ inputs.Nodup) (entries : List Value) :
    ∃ s, List.Duplicate s inputs ∧
      assemble entries (inputs.map .str) = .error (.fault (.repeatedInput (.str s))) := by
  obtain ⟨s, hs, hrefused⟩ := @assembleInputs_of_not_nodup [] inputs List.nodup_nil hinputs
  change assembleInputs {} (inputs.map .str) = _ at hrefused
  refine ⟨s, hs, ?_⟩
  rw [assemble, hrefused]
  rfl

/-- **The first entry that cannot be added** is refused. -/
theorem assemble_of_offending {e : Value} (hinputs : inputs.Nodup)
    (htexts : ∀ e ∈ entries, e.OverTexts) (h : Offending inputs entries e) :
    ∃ failure, assemble entries (inputs.map .str) = .error failure ∧
      failure.label = if e.writable then "MalformedExpression" else "ValueError" := by
  obtain ⟨prog, rest, rfl, hprog, hbad⟩ := h
  obtain ⟨problem, hrefuses, herror⟩ :=
    assembleEntries_refuses (htexts e (by simp)) hprog hbad rest
  refine ⟨problem.failure, ?_, hrefuses.label⟩
  have hfront := @assembleEntries_numbered inputs [] prog hprog
  rw [assemble_of_nodup hinputs, assembleEntries_append, hfront]
  exact herror

/-- **Assembly accepts the programs with single assignments over distinct inputs**, and numbers
them. -/
theorem assemble_eq_ok_iff (htexts : ∀ e ∈ entries, e.OverTexts) {a : Assembly} :
    assemble entries (inputs.map .str) = .ok a ↔
      inputs.Nodup ∧ ∃ prog, entries = prog.map TextInstruction.toValue ∧
        SingleAssignment inputs prog ∧ numbered inputs prog = a := by
  constructor
  · intro hok
    by_cases hinputs : inputs.Nodup
    · refine ⟨hinputs, ?_⟩
      rcases accepted_or_offending inputs entries with ⟨prog, rfl, hprog⟩ | ⟨e, he⟩
      · rw [assemble_eq_numbered hinputs hprog] at hok
        exact ⟨prog, rfl, hprog, Except.ok.inj hok⟩
      · obtain ⟨failure, herror, -⟩ := assemble_of_offending hinputs htexts he
        exact absurd (herror.symm.trans hok) nofun
    · obtain ⟨s, -, herror⟩ := assemble_of_repeated hinputs entries
      exact absurd (herror.symm.trans hok) nofun
  · rintro ⟨hinputs, prog, rfl, hprog, rfl⟩
    exact assemble_eq_numbered hinputs hprog

/-- Assembly accepts instructions over texts if their assignments are single. -/
theorem assemble_texts_eq_ok_iff {prog : List TextInstruction} {a : Assembly} :
    assemble (prog.map TextInstruction.toValue) (inputs.map .str) = .ok a ↔
      inputs.Nodup ∧ SingleAssignment inputs prog ∧ numbered inputs prog = a := by
  rw [assemble_eq_ok_iff (List.forall_mem_map.2 fun i _ => i.overTexts)]
  refine and_congr_right fun _ => ⟨?_, fun h => ⟨prog, rfl, h⟩⟩
  rintro ⟨prog', hprog', h⟩
  obtain rfl := List.map_injective_iff.2 TextInstruction.toValue_injective hprog'
  exact h

/-- **What assembly refuses**, and with which class of failure. -/
theorem assemble_refused_iff (htexts : ∀ e ∈ entries, e.OverTexts) {label : String} :
    (∃ failure, assemble entries (inputs.map .str) = .error failure ∧ failure.label = label) ↔
      ¬ inputs.Nodup ∧ label = "ValueError" ∨
      inputs.Nodup ∧ ∃ e, Offending inputs entries e ∧
        label = if e.writable then "MalformedExpression" else "ValueError" := by
  constructor
  · rintro ⟨failure, herror, rfl⟩
    by_cases hinputs : inputs.Nodup
    · refine .inr ⟨hinputs, ?_⟩
      rcases accepted_or_offending inputs entries with ⟨prog, rfl, hprog⟩ | ⟨e, he⟩
      · rw [assemble_eq_numbered hinputs hprog] at herror
        cases herror
      · obtain ⟨failure', herror', hlabel⟩ := assemble_of_offending hinputs htexts he
        obtain rfl := Except.error.inj (herror.symm.trans herror')
        exact ⟨e, he, hlabel⟩
    · obtain ⟨s, -, herror'⟩ := assemble_of_repeated hinputs entries
      obtain rfl := Except.error.inj (herror.symm.trans herror')
      exact .inl ⟨hinputs, rfl⟩
  · rintro (⟨hinputs, rfl⟩ | ⟨hinputs, e, he, rfl⟩)
    · obtain ⟨s, -, herror⟩ := assemble_of_repeated hinputs entries
      exact ⟨_, herror, rfl⟩
    · exact assemble_of_offending hinputs htexts he

/-- **What assembly accepts.** For every list of inputs and every list of entries over texts:

* the program is accepted if no input is repeated, every entry is an instruction and the assignments
  are single;
* it is refused as a malformed expression if no input is repeated and the first entry that cannot be
  added has a text;
* it is refused for a value if an input is repeated, or if the first entry that cannot be added has
  no text;
* an entry that cannot be added is there in all the cases that are left. -/
theorem assemble_iff_singleAssignment (htexts : ∀ e ∈ entries, e.OverTexts) :
    ((∃ a, assemble entries (inputs.map .str) = .ok a) ↔
      inputs.Nodup ∧
        ∃ prog, entries = prog.map TextInstruction.toValue ∧ SingleAssignment inputs prog) ∧
    ((∃ failure, assemble entries (inputs.map .str) = .error failure ∧
        failure.label = "MalformedExpression") ↔
      inputs.Nodup ∧ ∃ e, Offending inputs entries e ∧ e.writable = true) ∧
    ((∃ failure, assemble entries (inputs.map .str) = .error failure ∧
        failure.label = "ValueError") ↔
      ¬ inputs.Nodup ∨ ∃ e, Offending inputs entries e ∧ e.writable = false) ∧
    ((∃ e, Offending inputs entries e) ↔
      ¬ ∃ prog, entries = prog.map TextInstruction.toValue ∧ SingleAssignment inputs prog) := by
  refine ⟨?_, ?_, ?_, fun ⟨e, he⟩ => he.not_accepted, (accepted_or_offending _ _).resolve_left⟩
  · constructor
    · rintro ⟨a, hok⟩
      obtain ⟨hinputs, prog, hentries, hprog, -⟩ := (assemble_eq_ok_iff htexts).1 hok
      exact ⟨hinputs, prog, hentries, hprog⟩
    · rintro ⟨hinputs, prog, hentries, hprog⟩
      exact ⟨_, (assemble_eq_ok_iff htexts).2 ⟨hinputs, prog, hentries, hprog, rfl⟩⟩
  · rw [assemble_refused_iff htexts]
    simp
  · rw [assemble_refused_iff htexts]
    by_cases hinputs : inputs.Nodup <;> simp [hinputs]

/-- A parameter with so many entries that their number cannot be written, in place of the input. -/
def wideParameter : TextInstruction where
  op := .par [.int (10 ^ 5000)] (.initializer (.constant (.int 0))) []
  operands := []
  result := "a"

/-- No input is repeated, and still the program is refused for a value: its only entry writes the
declared input and cannot be quoted in a report. -/
theorem unwritable_entry_refused :
    ["a"].Nodup ∧ ∃ failure, assemble [wideParameter.toValue] [.str "a"] = .error failure ∧
      failure.label = "ValueError" := by
  have htexts : ∀ e ∈ [wideParameter.toValue], e.OverTexts :=
    List.forall_mem_singleton.2 wideParameter.overTexts
  have hwrites : Offending ["a"] [wideParameter.toValue] wideParameter.toValue := by
    refine ⟨[], [], rfl, singleAssignment_nil _, fun i hi hsingle => ?_⟩
    obtain rfl := TextInstruction.toValue_injective hi
    exact (hsingle 0 wideParameter rfl).1 (List.mem_singleton_self _)
  have hunwritable : wideParameter.toValue.writable = false := by decide +kernel
  refine ⟨by decide, ?_⟩
  exact (@assemble_iff_singleAssignment ["a"] _ htexts).2.2.1.2 (.inr ⟨_, hwrites, hunwritable⟩)

end Outcome

end Laminar
