import Mathlib
import Laminar.Proofs.AssemblyAcceptance

/-!
# Register numbers

The table that assembly returns numbers the symbols of a program densely, in order of first
appearance, and without loss.  Results are the only symbols whose numbers the operand lists need not
show, and the number of a result says how far the program has come: it is the position of its
instruction, shifted by the operands up to there that nobody writes.

* `written` lists the symbols that are declared or assigned, `unwrittenOperands` those that are read
  up to some instruction and never written.
* `ordinal_result` is the number of a result: all symbols met before it are counted.
* `card_met` counts them, `RegisterNumbering` collects what a table says about its program, and
  `assemble_numbers_registers` is the statement for every program that is accepted.
-/

namespace Laminar

section Met

variable {inputs : List String} {prog : List TextInstruction}

/-- The symbols that are declared or assigned, in order. -/
def written (inputs : List String) (prog : List TextInstruction) : List String :=
  inputs ++ prog.map (·.result)

/-- The operands of the first `n` instructions that no instruction of the program writes and no
input declares. -/
def unwrittenOperands (inputs : List String) (prog : List TextInstruction) (n : Nat) :
    Finset String :=
  ((prog.take n).flatMap (·.operands)).toFinset.filter (· ∉ written inputs prog)

/-! ### The symbols met before a result -/

theorem SingleAssignment.take (h : SingleAssignment inputs prog) (n : Nat) :
    SingleAssignment inputs (prog.take n) := by
  rw [← List.take_append_drop n prog] at h
  exact h.front

theorem take_succ_of_getElem? {k : Nat} {i : TextInstruction} (hk : prog[k]? = some i) :
    prog.take (k + 1) = prog.take k ++ [i] := by
  rw [List.take_add_one, hk, Option.toList_some]

/-- A result is new where it is written. -/
theorem SingleAssignment.result_new (h : SingleAssignment inputs prog) {k : Nat}
    {i : TextInstruction} (hk : prog[k]? = some i) :
    i.result ∉ occurrences inputs (prog.take k) ++ i.operands := by
  have htake := h.take (k + 1)
  rw [take_succ_of_getElem? hk, singleAssignment_concat] at htake
  exact htake.2

/-- What is met before a result, the result, and what is met after it. -/
theorem occurrences_split {k : Nat} {i : TextInstruction} (hk : prog[k]? = some i) :
    occurrences inputs prog = (occurrences inputs (prog.take k) ++ i.operands) ++
      i.result :: (prog.drop (k + 1)).flatMap TextInstruction.symbols := by
  conv_lhs => rw [← List.take_append_drop (k + 1) prog]
  rw [occurrences_append, take_succ_of_getElem? hk, occurrences_concat, List.append_assoc,
    List.singleton_append]

/-- **The number of a result** counts the symbols that are met before it. -/
theorem ordinal_result (h : SingleAssignment inputs prog) {k : Nat} {i : TextInstruction}
    (hk : prog[k]? = some i) :
    ordinal (occurrences inputs prog) i.result =
      (occurrences inputs (prog.take k) ++ i.operands).toFinset.card := by
  rw [occurrences_split hk]
  exact ordinal_append_cons (h.result_new hk) _

/-- Operands have smaller numbers than the result. -/
theorem ordinal_operand_lt (h : SingleAssignment inputs prog) {k : Nat} {i : TextInstruction}
    (hk : prog[k]? = some i) {s : String} (hs : s ∈ i.operands) :
    ordinal (occurrences inputs prog) s < ordinal (occurrences inputs prog) i.result := by
  have hmet : s ∈ occurrences inputs (prog.take k) ++ i.operands := List.mem_append_right _ hs
  rw [ordinal_result h hk, occurrences_split hk, ordinal_append_of_mem hmet]
  exact ordinal_lt_card hmet

/-! ### Counting them -/

/-- Before a result are met what was written until then and what was read until then. -/
theorem mem_met_iff {k : Nat} {i : TextInstruction} (hk : prog[k]? = some i) {s : String} :
    s ∈ occurrences inputs (prog.take k) ++ i.operands ↔
      s ∈ written inputs (prog.take k) ∨ ∃ j ∈ prog.take (k + 1), s ∈ j.operands := by
  simp only [take_succ_of_getElem? hk, written, mem_occurrences_iff, List.mem_append,
    List.mem_singleton, or_and_right, exists_or, exists_eq_left, or_assoc]

theorem SingleAssignment.nodup_written (h : SingleAssignment inputs prog)
    (hinputs : inputs.Nodup) : (written inputs prog).Nodup := by
  induction prog using List.reverseRecOn with
  | nil => rwa [written, List.map_nil, List.append_nil]
  | append_singleton prog i ih =>
    obtain ⟨hprog, hnew⟩ := singleAssignment_concat.1 h
    have hlast : written inputs (prog ++ [i]) = (written inputs prog).concat i.result := by
      simp [written]
    rw [hlast, List.nodup_concat]
    refine ⟨fun hmem => hnew (List.mem_append_left _ ?_), ih hprog⟩
    rw [mem_occurrences_iff]
    exact (List.mem_append.1 hmem).imp_right .inl

/-- What an instruction reads is written before it or not at all. -/
theorem SingleAssignment.mem_written_take (h : SingleAssignment inputs prog) {k : Nat}
    {i : TextInstruction} (hi : i ∈ prog.take (k + 1)) {s : String} (hs : s ∈ i.operands)
    (hwritten : s ∈ written inputs prog) : s ∈ written inputs (prog.take k) := by
  rcases List.mem_append.1 hwritten with hmem | hmem
  · exact List.mem_append_left _ hmem
  · obtain ⟨j, hj, rfl⟩ := List.mem_map.1 hmem
    obtain ⟨m, hm⟩ := List.mem_iff_getElem?.1 hj
    have hmk : m < k := by
      by_contra hle
      have hearlier : i ∈ prog.take (m + 1) :=
        (List.take_subset_take_left prog (by omega)) hi
      exact (h m j hm).2.2 i hearlier hs
    refine List.mem_append_right _ (List.mem_map_of_mem ?_)
    exact List.mem_iff_getElem?.2 ⟨m, by rw [List.getElem?_take_of_lt hmk, hm]⟩

/-- **The symbols met before a result**: the inputs and the earlier results, which are all
different, and the operands so far that nobody writes. -/
theorem card_met (h : SingleAssignment inputs prog) (hinputs : inputs.Nodup) {k : Nat}
    {i : TextInstruction} (hk : prog[k]? = some i) :
    (occurrences inputs (prog.take k) ++ i.operands).toFinset.card =
      inputs.length + k + (unwrittenOperands inputs prog (k + 1)).card := by
  have hlength : (written inputs (prog.take k)).length = inputs.length + k := by
    have hlt := (List.getElem?_eq_some_iff.1 hk).1
    rw [written, List.length_append, List.length_map, List.length_take_of_le hlt.le]
  have hdisjoint : Disjoint (written inputs (prog.take k)).toFinset
      (unwrittenOperands inputs prog (k + 1)) := by
    rw [Finset.disjoint_left]
    intro s hs hunwritten
    refine (Finset.mem_filter.1 hunwritten).2 ?_
    rw [List.mem_toFinset] at hs
    have hresults := List.map_subset TextInstruction.result (List.take_subset k prog)
    exact List.mem_append.2 ((List.mem_append.1 hs).imp_right fun hmem => hresults hmem)
  have hunion : (occurrences inputs (prog.take k) ++ i.operands).toFinset =
      (written inputs (prog.take k)).toFinset ∪ unwrittenOperands inputs prog (k + 1) := by
    ext s
    rw [List.mem_toFinset, mem_met_iff hk, Finset.mem_union, List.mem_toFinset, unwrittenOperands,
      Finset.mem_filter, List.mem_toFinset, List.mem_flatMap]
    constructor
    · rintro (hmem | ⟨j, hj, hs⟩)
      · exact .inl hmem
      · by_cases hwritten : s ∈ written inputs prog
        · exact .inl (h.mem_written_take hj hs hwritten)
        · exact .inr ⟨⟨j, hj, hs⟩, hwritten⟩
    · exact Or.imp_right And.left
  rw [hunion, Finset.card_union_of_disjoint hdisjoint,
    List.toFinset_card_of_nodup ((h.take k).nodup_written hinputs), hlength]

end Met

/-! ### The table of a program -/

/-- **Numbered registers.** What the tables of an assembled program say about it, where `number`
gives the symbols their registers. -/
structure RegisterNumbering (inputs : List String) (prog : List TextInstruction) (a : Assembly)
    (number : String → Nat) : Prop where
  /-- The symbols that occur have registers, and no other symbols do. -/
  register : ∀ s, registerOf? a.symbols (.str s) =
    if s ∈ occurrences inputs prog then some (number s) else none
  /-- Each register has one symbol, and the registers are the first numbers. -/
  dense : Set.BijOn number {s | s ∈ occurrences inputs prog} (Set.Iio a.symbols.length)
  /-- Registers are in order of first appearance. -/
  ordered : ∀ s ∈ occurrences inputs prog, ∀ t ∈ occurrences inputs prog,
    (number s < number t ↔
      (occurrences inputs prog).idxOf s < (occurrences inputs prog).idxOf t)
  /-- There is one operator for each input and each instruction. -/
  length_ops : a.ops.length = inputs.length + prog.length
  length_operands : a.operands.length = inputs.length + prog.length
  /-- The declared inputs come first and read nothing. -/
  declared : ∀ k < inputs.length, a.ops[k]? = some .input ∧ a.operands[k]? = some []
  /-- The instructions follow, with the registers of their operands. -/
  placed : ∀ k i, prog[k]? = some i → a.ops[inputs.length + k]? = some i.op ∧
    a.operands[inputs.length + k]? = some (i.operands.map number)
  /-- Operands have smaller registers than the result. -/
  below : ∀ i ∈ prog, ∀ s ∈ i.operands, number s < number i.result
  /-- The names of the operands can be read back from their registers. -/
  lossless : ∀ i ∈ prog,
    (i.operands.map number).map (a.symbols[·]?) = i.operands.map fun s => some (.str s)
  /-- The register of a result is its position, shifted by the operands until then that nobody
  writes. -/
  result : ∀ k i, prog[k]? = some i →
    number i.result = inputs.length + k + (unwrittenOperands inputs prog (k + 1)).card

/-- Ordinals number the registers. -/
theorem registerNumbering_ordinal {inputs : List String} {prog : List TextInstruction}
    (hinputs : inputs.Nodup) (h : SingleAssignment inputs prog) :
    RegisterNumbering inputs prog (numbered inputs prog)
      (ordinal (occurrences inputs prog)) where
  register := registerOf?_texts (occurrences inputs prog)
  dense := by
    have hcard : (numbered inputs prog).symbols.length =
        (occurrences inputs prog).toFinset.card := by
      rw [numbered, List.length_map, length_eraseDups]
    rw [hcard]
    exact bijOn_ordinal (occurrences inputs prog)
  ordered s hs t ht := ordinal_lt_ordinal_iff hs ht
  length_ops := by simp [numbered]
  length_operands := by simp [numbered]
  declared k hk := by
    simp [numbered, List.getElem?_append_left, hk]
  placed k i hk := by
    simp [numbered, List.getElem?_append_right, hk]
  below i hi s hs := by
    obtain ⟨k, hk⟩ := List.mem_iff_getElem?.1 hi
    exact ordinal_operand_lt h hk hs
  lossless i hi := by
    rw [List.map_map]
    refine List.map_congr_left fun s hs => ?_
    have hmem := mem_occurrences_of_operand inputs prog hi hs
    rw [Function.comp_apply, numbered, List.getElem?_map, getElem?_ordinal hmem, Option.map_some]
  result k i hk := by rw [ordinal_result h hk, card_met h hinputs hk]

/-- **Register numbers are dense, in order and without loss**, for every list of entries over texts
that is accepted: its entries are instructions, and the tables number their symbols. -/
theorem assemble_numbers_registers {inputs : List String} {entries : List Value} {a : Assembly}
    (htexts : ∀ e ∈ entries, e.OverTexts) (hok : assemble entries (inputs.map .str) = .ok a) :
    ∃ prog number, entries = prog.map TextInstruction.toValue ∧
      RegisterNumbering inputs prog a number := by
  obtain ⟨hinputs, prog, rfl, hsingle, rfl⟩ := (assemble_eq_ok_iff htexts).1 hok
  exact ⟨prog, _, rfl, registerNumbering_ordinal hinputs hsingle⟩

/-- A program with an operand that nobody writes and one that is read twice. -/
def doubledDot (x w u y : String) : List TextInstruction :=
  [⟨.dot, [w, x], u⟩, ⟨.add, [u, u], y⟩]

/-- The first result has register `2` at position `1`: the weights, which nobody writes, come before
it. -/
theorem doubledDot_numbers_registers :
    assemble ((doubledDot "x" "w" "u" "y").map TextInstruction.toValue) (["x"].map .str) =
      .ok { ops := [.input, .dot, .add]
            operands := [[], [1, 0], [2, 2]]
            symbols := [.str "x", .str "w", .str "u", .str "y"] } ∧
    ∃ prog number,
      (doubledDot "x" "w" "u" "y").map TextInstruction.toValue =
        prog.map TextInstruction.toValue ∧
      RegisterNumbering ["x"] prog
        { ops := [.input, .dot, .add]
          operands := [[], [1, 0], [2, 2]]
          symbols := [.str "x", .str "w", .str "u", .str "y"] } number := by
  have htexts : ∀ e ∈ (doubledDot "x" "w" "u" "y").map TextInstruction.toValue, e.OverTexts :=
    List.forall_mem_map.2 fun i _ => i.overTexts
  exact ⟨rfl, assemble_numbers_registers htexts rfl⟩

end Laminar
