import Mathlib
import Laminar.Proofs.Registers

/-!
# Numbers in order of first appearance

Assembly hands registers out as it goes: it walks over the inputs and over the operands and the
result of every instruction, and a symbol that it has not met before gets the next number.  Its
table is changed from three places, so an argument about one number would have to follow the whole
walk.  This module replaces the walk by a closed form.  The symbols of a program, written down in
the order in which they are met and as often as they occur, are one list, and the number of a symbol
is its *ordinal* in that list: how many other symbols appear before it does.

* `ordinal l s` is the number of `s` in the order of first appearance in `l`.  Appending to `l` does
  not change it (`ordinal_append_of_mem`), a new symbol gets the next one (`ordinal_append_cons`),
  and ordinals are in order (`ordinal_lt_ordinal_iff`) and without gaps (`bijOn_ordinal`).
* `TextInstruction` is an instruction whose registers are all named by texts, `occurrences` lists
  the symbols of a program.
* `numbered inputs prog` is the closed form of assembly.  `assembleInputs_numbered` and
  `Assembly.add_numbered` are what one step does to it, exactly.
* `SingleAssignment` says that every result is new when it is written;
  `assembleEntries_numbered` is the whole run of such a program.
-/

namespace Laminar

/-! ### Ordinals -/

section Ordinals

variable {α : Type} [DecidableEq α]

/-- The number of a symbol in the order of first appearance. -/
def ordinal (l : List α) (s : α) : Nat := l.eraseDups.idxOf s

theorem eraseDups_concat (l : List α) (s : α) :
    (l ++ [s]).eraseDups = if s ∈ l then l.eraseDups else l.eraseDups ++ [s] := by
  rw [List.eraseDups_append]
  by_cases hs : s ∈ l
  · simp [List.removeAll, hs]
  · simp [List.removeAll, hs, List.eraseDups_cons]

theorem nodup_eraseDups (l : List α) : l.eraseDups.Nodup := by
  induction l using List.reverseRecOn with
  | nil => simp
  | append_singleton l s ih =>
    rw [eraseDups_concat]
    split
    · exact ih
    · rename_i hs
      rw [← List.concat_eq_append, List.nodup_concat, List.mem_eraseDups]
      exact ⟨hs, ih⟩

/-- There are as many numbers as symbols. -/
theorem length_eraseDups (l : List α) : l.eraseDups.length = l.toFinset.card := by
  rw [← List.toFinset_card_of_nodup (nodup_eraseDups l)]
  congr 1
  ext s
  rw [List.mem_toFinset, List.mem_toFinset, List.mem_eraseDups]

theorem getElem?_ordinal {l : List α} {s : α} (hs : s ∈ l) :
    l.eraseDups[ordinal l s]? = some s :=
  List.getElem?_idxOf (List.mem_eraseDups.2 hs)

/-- What comes later does not change the number of a symbol. -/
theorem ordinal_append_of_mem {l : List α} {s : α} (hs : s ∈ l) (l' : List α) :
    ordinal (l ++ l') s = ordinal l s := by
  rw [ordinal, List.eraseDups_append]
  exact List.idxOf_append_of_mem (List.mem_eraseDups.2 hs)

/-- A new symbol gets the next number. -/
theorem ordinal_append_cons {l : List α} {s : α} (hs : s ∉ l) (l' : List α) :
    ordinal (l ++ s :: l') s = l.toFinset.card := by
  have hlast : ordinal (l ++ [s]) s = l.toFinset.card := by
    have hnew : s ∉ l.eraseDups := fun hmem => hs (List.mem_eraseDups.1 hmem)
    rw [ordinal, eraseDups_concat, if_neg hs, List.idxOf_append_of_notMem hnew,
      List.idxOf_cons_self, Nat.add_zero, length_eraseDups]
  rw [List.append_cons, ordinal_append_of_mem (by simp), hlast]

theorem ordinal_lt_card {l : List α} {s : α} (hs : s ∈ l) : ordinal l s < l.toFinset.card := by
  rw [← length_eraseDups]
  exact List.idxOf_lt_length_iff.2 (List.mem_eraseDups.2 hs)

/-- **Numbers are dense.** The symbols of a list have the numbers from zero on, each one number and
each number one symbol. -/
theorem bijOn_ordinal (l : List α) :
    Set.BijOn (ordinal l) {s | s ∈ l} (Set.Iio l.toFinset.card) := by
  refine ⟨fun s hs => ordinal_lt_card hs, fun s hs t _ h => ?_, fun n hn => ?_⟩
  · exact (List.idxOf_inj (List.mem_eraseDups.2 hs)).1 h
  · rw [Set.mem_Iio, ← length_eraseDups] at hn
    exact ⟨l.eraseDups[n], List.mem_eraseDups.1 (List.getElem_mem hn),
      (nodup_eraseDups l).idxOf_getElem n hn⟩

/-- **Numbers are in order**: the order of first appearance. -/
theorem ordinal_lt_ordinal_iff {l : List α} {s t : α} (hs : s ∈ l) (ht : t ∈ l) :
    ordinal l s < ordinal l t ↔ l.idxOf s < l.idxOf t := by
  -- The list grows at its end: a symbol that was there keeps number and place, and one that is new
  -- has the largest of both.
  induction l using List.reverseRecOn with
  | nil => cases hs
  | append_singleton l u ih =>
    by_cases hu : u ∈ l
    · have old {v : α} (hv : v ∈ l ++ [u]) : v ∈ l := by
        rcases List.mem_append.1 hv with hv | hv
        · exact hv
        · exact List.mem_singleton.1 hv ▸ hu
      rw [ordinal_append_of_mem (old hs), ordinal_append_of_mem (old ht),
        List.idxOf_append_of_mem (old hs), List.idxOf_append_of_mem (old ht)]
      exact ih (old hs) (old ht)
    · have hlast : ordinal (l ++ [u]) u = l.toFinset.card := ordinal_append_cons hu []
      have hplace : (l ++ [u]).idxOf u = l.length := by
        rw [List.idxOf_append_of_notMem hu, List.idxOf_cons_self, Nat.add_zero]
      have old {v : α} (hv : v ∈ l ++ [u]) (hne : v ≠ u) : v ∈ l :=
        (List.mem_append.1 hv).resolve_right fun h => hne (List.mem_singleton.1 h)
      by_cases hsu : s = u
      · by_cases htu : t = u
        · rw [hsu, htu]
          simp
        · have hn := ordinal_lt_card (old ht htu)
          have hp := List.idxOf_lt_length_iff.2 (old ht htu)
          rw [hsu, hlast, hplace, ordinal_append_of_mem (old ht htu),
            List.idxOf_append_of_mem (old ht htu)]
          omega
      · by_cases htu : t = u
        · have hn := ordinal_lt_card (old hs hsu)
          have hp := List.idxOf_lt_length_iff.2 (old hs hsu)
          rw [htu, hlast, hplace, ordinal_append_of_mem (old hs hsu),
            List.idxOf_append_of_mem (old hs hsu)]
          exact iff_of_true hn hp
        · rw [ordinal_append_of_mem (old hs hsu), ordinal_append_of_mem (old ht htu),
            List.idxOf_append_of_mem (old hs hsu), List.idxOf_append_of_mem (old ht htu)]
          exact ih (old hs hsu) (old ht htu)

end Ordinals

/-! ### Interning texts -/

section Interning

variable (l : List String)

/-- The register of a text is its ordinal. -/
theorem registerOf?_texts (s : String) :
    registerOf? (l.eraseDups.map .str) (.str s) = if s ∈ l then some (ordinal l s) else none := by
  have hfind : registerOf? (l.eraseDups.map .str) (.str s) = l.eraseDups.idxOf? s := by
    rw [registerOf?, List.findIdx?_map, List.idxOf?]
    congr 1
    funext t
    rw [Function.comp_apply, Value.sameKey_str]
    exact Bool.beq_comm
  rw [hfind]
  split
  · rename_i hs
    rw [ordinal, List.idxOf_eq_getD_idxOf?]
    obtain ⟨n, hn⟩ := Option.isSome_iff_exists.1 (List.isSome_idxOf?.2 (List.mem_eraseDups.2 hs))
    rw [hn, Option.getD_some]
  · rename_i hs
    rw [List.idxOf?_eq_none_iff, List.mem_eraseDups]
    exact hs

theorem intern_texts (s : String) :
    intern (l.eraseDups.map .str) (.str s) =
      (ordinal (l ++ [s]) s, (l ++ [s]).eraseDups.map .str) := by
  have hregister := registerOf?_texts l s
  by_cases hs : s ∈ l
  · rw [if_pos hs] at hregister
    rw [intern_of_some hregister, ordinal_append_of_mem hs, eraseDups_concat, if_pos hs]
  · rw [if_neg hs] at hregister
    rw [intern_of_none hregister, ordinal_append_cons hs, eraseDups_concat, if_neg hs,
      List.length_map, length_eraseDups, List.map_append, List.map_singleton]

/-- **Interning texts** appends them to what was met before. -/
theorem internAll_texts (names : List String) :
    internAll (l.eraseDups.map .str) (names.map .str) =
      .ok (names.map (ordinal (l ++ names)), (l ++ names).eraseDups.map .str) := by
  induction names generalizing l with
  | nil => rw [List.append_nil]; rfl
  | cons s names ih =>
    have hrest := ih (l ++ [s])
    rw [← List.append_cons] at hrest
    have hfirst : ordinal (l ++ [s]) s = ordinal (l ++ s :: names) s := by
      rw [List.append_cons l s names]
      exact (ordinal_append_of_mem (by simp) names).symm
    simp only [List.map_cons, internAll, intern_texts, bind_eq_ok]
    exact ⟨(), rfl, _, hrest, by rw [hfirst]; rfl⟩

end Interning

/-! ### Programs over texts -/

/-- An instruction whose registers are all named by texts. -/
@[ext]
structure TextInstruction where
  op : Op
  operands : List String
  result : String

namespace TextInstruction

/-- As an instruction whose registers are values. -/
def instruction (i : TextInstruction) : Instruction where
  op := i.op
  operands := i.operands.map .str
  result := .str i.result

/-- As a tuple: the operator, the operands, the result. -/
def toValue (i : TextInstruction) : Value := i.instruction.toValue

/-- The symbols in the order in which they are met. -/
def symbols (i : TextInstruction) : List String := i.operands ++ [i.result]

theorem instruction?_toValue (i : TextInstruction) :
    Value.instruction? i.toValue = some i.instruction :=
  Value.instruction?_toValue i.instruction

end TextInstruction

/-- The symbols of a program in the order in which they are met, as often as they occur: the inputs,
then of each instruction the operands and the result. -/
def occurrences (inputs : List String) (prog : List TextInstruction) : List String :=
  inputs ++ prog.flatMap TextInstruction.symbols

section Occurrences

variable (inputs : List String) (prog : List TextInstruction)

@[simp]
theorem occurrences_nil : occurrences inputs [] = inputs := by simp [occurrences]

theorem occurrences_append (prog' : List TextInstruction) :
    occurrences inputs (prog ++ prog') =
      occurrences inputs prog ++ prog'.flatMap TextInstruction.symbols := by
  simp [occurrences]

theorem occurrences_concat (i : TextInstruction) :
    occurrences inputs (prog ++ [i]) = occurrences inputs prog ++ i.operands ++ [i.result] := by
  simp [occurrences, TextInstruction.symbols]

theorem mem_occurrences_of_operand {i : TextInstruction} (hi : i ∈ prog) {s : String}
    (hs : s ∈ i.operands) : s ∈ occurrences inputs prog :=
  List.mem_append_right _ (List.mem_flatMap.2 ⟨i, hi, List.mem_append_left _ hs⟩)

end Occurrences

/-- **A numbered program.** Every symbol is replaced by its ordinal among the occurrences. -/
def numbered (inputs : List String) (prog : List TextInstruction) : Assembly where
  ops := inputs.map (fun _ => .input) ++ prog.map (·.op)
  operands := inputs.map (fun _ => []) ++
    prog.map fun i => i.operands.map (ordinal (occurrences inputs prog))
  symbols := (occurrences inputs prog).eraseDups.map .str

/-- The numbers that were handed out stay as they are when an instruction is added. -/
theorem numbered_concat {inputs : List String} {prog : List TextInstruction} {i : TextInstruction}
    (hnew : i.result ∉ occurrences inputs prog ++ i.operands) :
    numbered inputs (prog ++ [i]) =
      { ops := (numbered inputs prog).ops ++ [i.op]
        operands := (numbered inputs prog).operands ++
          [i.operands.map (ordinal (occurrences inputs prog ++ i.operands))]
        symbols := (occurrences inputs prog ++ i.operands).eraseDups.map .str ++
          [.str i.result] } := by
  have hstay : ∀ j ∈ prog,
      j.operands.map (ordinal (occurrences inputs prog ++ i.operands ++ [i.result])) =
        j.operands.map (ordinal (occurrences inputs prog)) := by
    intro j hj
    refine List.map_congr_left fun s hs => ?_
    have hmem := mem_occurrences_of_operand inputs prog hj hs
    rw [List.append_assoc, ordinal_append_of_mem hmem]
  have hown : i.operands.map (ordinal (occurrences inputs prog ++ i.operands ++ [i.result])) =
      i.operands.map (ordinal (occurrences inputs prog ++ i.operands)) :=
    List.map_congr_left fun s hs => ordinal_append_of_mem (List.mem_append_right _ hs) _
  simp only [numbered, occurrences_concat, List.map_append, List.map_singleton, hown,
    List.map_congr_left hstay]
  rw [eraseDups_concat, if_neg hnew, List.map_append, List.map_singleton, List.append_assoc,
    List.append_assoc]

/-- **One instruction**: it is added exactly if its result is neither a symbol that was met before
nor one of its own operands. -/
theorem Assembly.add_numbered (inputs : List String) (prog : List TextInstruction)
    (i : TextInstruction) (entry : Value) :
    (numbered inputs prog).add i.instruction entry =
      if i.result ∈ occurrences inputs prog ++ i.operands then
        .error (Problem.writtenTwice (.str i.result) entry).failure
      else .ok (numbered inputs (prog ++ [i])) := by
  have hintern := internAll_texts (occurrences inputs prog) i.operands
  have hregister := registerOf?_texts (occurrences inputs prog ++ i.operands) i.result
  by_cases hold : i.result ∈ occurrences inputs prog ++ i.operands
  · rw [if_pos hold] at hregister ⊢
    refine bind_eq_error.2 (.inr ⟨_, liftFault_eq_ok.2 hintern, ?_⟩)
    refine bind_eq_error.2 (.inr ⟨(), rfl, ?_⟩)
    change (if (registerOf? _ (.str i.result)).isSome = true then _ else _) = _
    rw [hregister]
    rfl
  · rw [if_neg hold] at hregister ⊢
    rw [numbered_concat hold]
    exact Assembly.add_of_new rfl hintern (registerOf?_eq_none_iff.1 hregister)

/-- **One input**: it is declared exactly if it was not declared before. -/
theorem assembleInputs_cons (seen : List String) (s : String) (names : List String) :
    assembleInputs (numbered seen []) ((s :: names).map .str) =
      if s ∈ seen then .error (.repeatedInput (.str s))
      else assembleInputs (numbered (seen ++ [s]) []) (names.map .str) := by
  have hregister : registerOf? (numbered seen []).symbols (.str s) =
      if s ∈ seen then some (ordinal seen s) else none := by
    rw [numbered, occurrences_nil]
    exact registerOf?_texts seen s
  rw [List.map_cons, assembleInputs]
  by_cases hs : s ∈ seen
  · rw [if_pos hs] at hregister ⊢
    rw [hregister]
    rfl
  · have hdeclared : numbered (seen ++ [s]) [] =
        { ops := (numbered seen []).ops ++ [.input]
          operands := (numbered seen []).operands ++ [[]]
          symbols := (numbered seen []).symbols ++ [.str s] } := by
      simp [numbered, eraseDups_concat, hs]
    rw [if_neg hs] at hregister ⊢
    rw [hregister, hdeclared]
    rfl

/-- **The inputs** are declared if none of them is repeated. -/
theorem assembleInputs_numbered {seen names : List String} (hnodup : (seen ++ names).Nodup) :
    assembleInputs (numbered seen []) (names.map .str) = .ok (numbered (seen ++ names) []) := by
  induction names generalizing seen with
  | nil => rw [List.append_nil]; rfl
  | cons s names ih =>
    have hnew : s ∉ seen := fun hs =>
      (List.nodup_append'.1 hnodup).2.2 hs List.mem_cons_self
    rw [List.append_cons] at hnodup ⊢
    rw [assembleInputs_cons, if_neg hnew, ih hnodup]

/-- An input that is repeated is refused. -/
theorem assembleInputs_of_not_nodup {seen names : List String} (hseen : seen.Nodup)
    (hrepeated : ¬ (seen ++ names).Nodup) :
    ∃ s, List.Duplicate s (seen ++ names) ∧
      assembleInputs (numbered seen []) (names.map .str) = .error (.repeatedInput (.str s)) := by
  induction names generalizing seen with
  | nil => exact absurd (by rwa [List.append_nil]) hrepeated
  | cons s names ih =>
    rw [assembleInputs_cons]
    by_cases hs : s ∈ seen
    · refine ⟨s, ?_, if_pos hs⟩
      rw [List.duplicate_iff_two_le_count, List.count_append, List.count_cons_self]
      have hcount := List.count_pos_iff.2 hs
      omega
    · have hgrown : (seen ++ [s]).Nodup := by
        rw [← List.concat_eq_append, List.nodup_concat]
        exact ⟨hs, hseen⟩
      rw [List.append_cons] at hrepeated ⊢
      rw [if_neg hs]
      exact ih hgrown hrepeated

/-! ### Single assignment -/

/-- **Single assignment.** The result of every instruction is no declared input, not the result of
an earlier instruction, and no operand of an instruction up to and including its own. -/
def SingleAssignment (inputs : List String) (prog : List TextInstruction) : Prop :=
  ∀ k i, prog[k]? = some i →
    i.result ∉ inputs ∧ i.result ∉ (prog.take k).map (·.result) ∧
      ∀ j ∈ prog.take (k + 1), i.result ∉ j.operands

theorem mem_occurrences_iff {inputs : List String} {prog : List TextInstruction} {s : String} :
    s ∈ occurrences inputs prog ↔
      s ∈ inputs ∨ s ∈ prog.map (·.result) ∨ ∃ i ∈ prog, s ∈ i.operands := by
  simp only [occurrences, TextInstruction.symbols, List.mem_append, List.mem_flatMap, List.mem_map,
    List.mem_singleton]
  grind

theorem singleAssignment_nil (inputs : List String) : SingleAssignment inputs [] := by
  intro k i h
  cases h

/-- **One more instruction** keeps the assignments single if its result was not met before. -/
theorem singleAssignment_concat {inputs : List String} {prog : List TextInstruction}
    {i : TextInstruction} :
    SingleAssignment inputs (prog ++ [i]) ↔
      SingleAssignment inputs prog ∧ i.result ∉ occurrences inputs prog ++ i.operands := by
  -- An earlier instruction sees the same instructions before it in both programs.
  have hearlier {k : Nat} (hk : k < prog.length) : (prog ++ [i])[k]? = prog[k]? ∧
      (prog ++ [i]).take k = prog.take k ∧ (prog ++ [i]).take (k + 1) = prog.take (k + 1) :=
    ⟨List.getElem?_append_left hk, List.take_append_of_le_length hk.le,
      List.take_append_of_le_length hk⟩
  have hlast : (prog ++ [i])[prog.length]? = some i := by simp
  have hbefore : (prog ++ [i]).take prog.length = prog := by simp
  have hall : (prog ++ [i]).take (prog.length + 1) = prog ++ [i] := by simp
  rw [List.mem_append, mem_occurrences_iff]
  constructor
  · intro h
    refine ⟨fun k j hj => ?_, ?_⟩
    · obtain ⟨hget, htake, htake'⟩ := hearlier (List.getElem?_eq_some_iff.1 hj).1
      have := h k j (hget.trans hj)
      rwa [htake, htake'] at this
    · have := h prog.length i hlast
      rw [hbefore, hall] at this
      obtain ⟨hinputs, hresults, hoperands⟩ := this
      rintro ((hmem | hmem | ⟨j, hj, hmem⟩) | hmem)
      · exact hinputs hmem
      · exact hresults hmem
      · exact hoperands j (List.mem_append_left _ hj) hmem
      · exact hoperands i (by simp) hmem
  · rintro ⟨h, hnew⟩ k j hj
    rcases lt_trichotomy k prog.length with hk | rfl | hk
    · obtain ⟨hget, htake, htake'⟩ := hearlier hk
      rw [htake, htake']
      exact h k j (hget.symm.trans hj)
    · obtain rfl : i = j := Option.some.inj (hlast.symm.trans hj)
      rw [hbefore, hall]
      refine ⟨fun hmem => hnew (.inl (.inl hmem)), fun hmem => hnew (.inl (.inr (.inl hmem))), ?_⟩
      intro j hj hmem
      rcases List.mem_append.1 hj with hj | hj
      · exact hnew (.inl (.inr (.inr ⟨j, hj, hmem⟩)))
      · rw [List.mem_singleton] at hj
        exact hnew (.inr (hj ▸ hmem))
    · rw [List.getElem?_eq_none (by simp; omega)] at hj
      cases hj

/-- The front part of a program with single assignments has single assignments. -/
theorem SingleAssignment.front {inputs : List String} {prog prog' : List TextInstruction}
    (h : SingleAssignment inputs (prog ++ prog')) : SingleAssignment inputs prog := by
  induction prog' using List.reverseRecOn with
  | nil => rwa [List.append_nil] at h
  | append_singleton prog' i ih =>
    rw [← List.append_assoc, singleAssignment_concat] at h
    exact ih h.1

/-! ### Whole programs -/

/-- **A run**: a program with single assignments is numbered instruction by instruction. -/
theorem assembleEntries_numbered {inputs : List String} {done prog : List TextInstruction}
    (h : SingleAssignment inputs (done ++ prog)) :
    assembleEntries (numbered inputs done) (prog.map TextInstruction.toValue) =
      .ok (numbered inputs (done ++ prog)) := by
  induction prog generalizing done with
  | nil => rw [List.append_nil]; rfl
  | cons i prog ih =>
    rw [List.append_cons] at h ⊢
    have hnew := (singleAssignment_concat.1 h.front).2
    rw [List.map_cons, assembleEntries, i.instruction?_toValue]
    refine bind_eq_ok.2 ⟨numbered inputs (done ++ [i]), ?_, ih h⟩
    rw [Assembly.add_numbered, if_neg hnew]

/-- Inputs that are not repeated are declared before the first entry is looked at. -/
theorem assemble_of_nodup {inputs : List String} (hinputs : inputs.Nodup) (entries : List Value) :
    assemble entries (inputs.map .str) = assembleEntries (numbered inputs []) entries := by
  have hdeclared : assembleInputs {} (inputs.map .str) = .ok (numbered inputs []) :=
    @assembleInputs_numbered [] inputs hinputs
  rw [assemble, hdeclared]
  rfl

/-- **Assembly is numbering**, for programs over distinct inputs with single assignments. -/
theorem assemble_eq_numbered {inputs : List String} {prog : List TextInstruction}
    (hinputs : inputs.Nodup) (h : SingleAssignment inputs prog) :
    assemble (prog.map TextInstruction.toValue) (inputs.map .str) = .ok (numbered inputs prog) := by
  rw [assemble_of_nodup hinputs]
  exact @assembleEntries_numbered inputs [] prog h

end Laminar
