import Mathlib
import Laminar.Proofs.RegisterNumbers

/-!
# Programs up to renaming

Two programs with equally many inputs are assembled into the same operators and operand lists
exactly if one is the other with different names.  The table of symbols is not needed for that, and
neither are the registers of the results, which operators and operand lists do not show.

The argument replaces every symbol of a program by its number.  The *code* of a list is the list of
the ordinals of its members, so it forgets what the members are called and keeps which of them are
equal.

* `code_eq_iff`: two lists have the same code exactly if one is the other renamed.
* `code_occurrences_of_operands`: the operand lists determine the code of all occurrences.  An input
  has the number of its place, and a result the next number, whatever its name is.
* `map_occurrences_eq_iff`: two programs of the same shape are equal under two readings of their
  symbols if their occurrences are.
* `assembled_alike_iff_renamed` is the statement about assembly.
-/

namespace Laminar

/-! ### Codes -/

section Codes

variable {α β : Type} [DecidableEq α] [DecidableEq β]

/-- A list with every member replaced by its number. -/
def code (l : List α) : List Nat := l.map (ordinal l)

theorem code_append (l l' : List α) : code (l ++ l') = code l ++ l'.map (ordinal (l ++ l')) := by
  have hfront : l.map (ordinal (l ++ l')) = l.map (ordinal l) :=
    List.map_congr_left fun s hs => ordinal_append_of_mem hs l'
  rw [code, List.map_append, hfront, code]

/-- A code has as many different numbers as the list has different members. -/
theorem card_code (l : List α) : (code l).toFinset.card = l.toFinset.card := by
  have himage : (code l).toFinset = l.toFinset.image (ordinal l) := by
    rw [code]
    ext n
    simp
  have hinj : Set.InjOn (ordinal l) l.toFinset := by
    rw [List.coe_toFinset]
    exact (bijOn_ordinal l).injOn
  rw [himage, Finset.card_image_of_injOn hinj]

/-- A new member gets the next number, so that its code does not depend on it. -/
theorem code_concat {l : List α} {s : α} (hs : s ∉ l) :
    code (l ++ [s]) = code l ++ [(code l).toFinset.card] := by
  rw [code_append, List.map_singleton, ordinal_append_cons hs, card_code]

/-- Members that are all different are numbered by their places. -/
theorem code_of_nodup {l : List α} (h : l.Nodup) : code l = List.range l.length := by
  induction l using List.reverseRecOn with
  | nil => rfl
  | append_singleton l s ih =>
    rw [← List.concat_eq_append, List.nodup_concat] at h
    rw [code_concat h.1, card_code, List.toFinset_card_of_nodup h.2, ih h.2, List.length_append,
      List.length_singleton, List.range_succ]

/-! ### Codes and renaming -/

theorem eraseDups_map {f : α → β} {l : List α} (hf : Set.InjOn f {s | s ∈ l}) :
    (l.map f).eraseDups = l.eraseDups.map f := by
  induction l using List.reverseRecOn with
  | nil => rfl
  | append_singleton l s ih =>
    have hfront : Set.InjOn f {s | s ∈ l} := hf.mono fun t ht => List.mem_append_left _ ht
    have hmem : f s ∈ l.map f ↔ s ∈ l := by
      refine ⟨fun h => ?_, List.mem_map_of_mem⟩
      obtain ⟨t, ht, hts⟩ := List.mem_map.1 h
      obtain rfl := hf (List.mem_append_left _ ht) (by simp) hts
      exact ht
    rw [List.map_append, List.map_singleton, eraseDups_concat, eraseDups_concat, ih hfront]
    by_cases hs : s ∈ l
    · rw [if_pos (hmem.2 hs), if_pos hs]
    · rw [if_neg (mt hmem.1 hs), if_neg hs, List.map_append, List.map_singleton]

/-- The symbol with a number has that number. -/
theorem ordinal_eq_of_getElem? {l : List α} {s : α} {n : Nat} (h : l.eraseDups[n]? = some s) :
    ordinal l s = n := by
  obtain ⟨hn, rfl⟩ := List.getElem?_eq_some_iff.1 h
  exact (nodup_eraseDups l).idxOf_getElem n hn

/-- **Renaming keeps the code.** -/
theorem code_map {f : α → β} {l : List α} (hf : Set.InjOn f {s | s ∈ l}) :
    code (l.map f) = code l := by
  rw [code, code, List.map_map]
  refine List.map_congr_left fun s hs => ordinal_eq_of_getElem? ?_
  rw [eraseDups_map hf, List.getElem?_map, getElem?_ordinal hs, Option.map_some]

/-- The member of a list that has a number. -/
def memberAt (l : List α) (d : α) (n : Nat) : α := l.eraseDups[n]?.getD d

/-- A list can be read back from its code. -/
theorem map_memberAt_code (l : List α) (d : α) : (code l).map (memberAt l d) = l := by
  have hback : ∀ s ∈ l, memberAt l d (ordinal l s) = s := by
    intro s hs
    rw [memberAt, getElem?_ordinal hs, Option.getD_some]
  rw [code, List.map_map]
  exact (List.map_congr_left hback).trans (List.map_id l)

/-- A symbol of one list as the symbol that has the same number in another list. -/
def counterpart [Inhabited β] (l : List α) (l' : List β) (s : α) : β :=
  memberAt l' default (ordinal l s)

section Counterpart

variable [Inhabited β] {l : List α} {l' : List β}

theorem map_counterpart (h : code l = code l') : l.map (counterpart l l') = l' := by
  have hsteps : l.map (counterpart l l') = (code l).map (memberAt l' default) := by
    rw [code, List.map_map]
    rfl
  rw [hsteps, h, map_memberAt_code]

theorem ordinal_counterpart (h : code l = code l') {s : α} (hs : s ∈ l) :
    ordinal l' (counterpart l l' s) = ordinal l s := by
  have hlt : ordinal l s < l'.eraseDups.length := by
    rw [length_eraseDups, ← card_code, ← h, card_code]
    exact ordinal_lt_card hs
  refine ordinal_eq_of_getElem? ?_
  rw [counterpart, memberAt, List.getElem?_eq_getElem hlt, Option.getD_some]

/-- **Lists with the same code are renamed into each other.** -/
theorem bijOn_counterpart (h : code l = code l') :
    Set.BijOn (counterpart l l') {s | s ∈ l} {s | s ∈ l'} := by
  have hinj : Set.InjOn (counterpart l l') {s | s ∈ l} := by
    intro s hs t ht hst
    refine (bijOn_ordinal l).injOn hs ht ?_
    rw [← ordinal_counterpart h hs, ← ordinal_counterpart h ht, hst]
  have himage : Set.image (counterpart l l') {s | s ∈ l} = {s | s ∈ l'} := by
    ext t
    have hmem : t ∈ l' ↔ t ∈ l.map (counterpart l l') := by rw [map_counterpart h]
    exact (hmem.trans List.mem_map).symm
  rw [← himage]
  exact hinj.bijOn_image

/-- **Codes are lists up to renaming.** -/
theorem code_eq_iff :
    code l = code l' ↔
      ∃ f : α → β, Set.BijOn f {s | s ∈ l} {s | s ∈ l'} ∧ l.map f = l' := by
  constructor
  · intro h
    exact ⟨counterpart l l', bijOn_counterpart h, map_counterpart h⟩
  · rintro ⟨f, hf, rfl⟩
    exact (code_map hf.injOn).symm

end Counterpart

end Codes

/-! ### Programs of the same shape -/

section Shape

variable {inputs inputs' : List String} {prog prog' : List TextInstruction}

/-- Equally many inputs, and instructions with equally many operands.  Then **two readings of the
symbols agree on the programs if they agree on the occurrences**. -/
theorem map_occurrences_eq_iff {β : Type} {g g' : String → β}
    (hinputs : inputs.length = inputs'.length)
    (hshape : List.Forall₂ (fun i i' => i.operands.length = i'.operands.length) prog prog') :
    (occurrences inputs prog).map g = (occurrences inputs' prog').map g' ↔
      inputs.map g = inputs'.map g' ∧
      List.Forall₂ (fun i i' => i.operands.map g = i'.operands.map g' ∧ g i.result = g' i'.result)
        prog prog' := by
  -- Both sides are compared piece by piece, and the pieces are equally long.
  have pieces {a b c d : List β} (h : a.length = c.length) : a ++ b = c ++ d ↔ a = c ∧ b = d :=
    ⟨fun heq => List.append_inj heq h, fun ⟨hac, hbd⟩ => by rw [hac, hbd]⟩
  have hbody : (prog.flatMap TextInstruction.symbols).map g =
        (prog'.flatMap TextInstruction.symbols).map g' ↔
      List.Forall₂ (fun i i' => i.operands.map g = i'.operands.map g' ∧ g i.result = g' i'.result)
        prog prog' := by
    induction hshape with
    | nil => simp
    | @cons i i' prog prog' hi _ ih =>
      have hsymbols : i.symbols.map g = i'.symbols.map g' ↔
          i.operands.map g = i'.operands.map g' ∧ g i.result = g' i'.result := by
        rw [TextInstruction.symbols, TextInstruction.symbols, List.map_append, List.map_append,
          pieces (by simp [hi])]
        simp
      rw [List.flatMap_cons, List.flatMap_cons, List.map_append, List.map_append,
        pieces (by simp [TextInstruction.symbols, hi]), hsymbols, ih, List.forall₂_cons]
  rw [occurrences, occurrences, List.map_append, List.map_append, pieces (by simp [hinputs]), hbody]

theorem numbered_ops (inputs : List String) (prog : List TextInstruction) :
    (numbered inputs prog).ops = List.replicate inputs.length .input ++ prog.map (·.op) := by
  rw [← List.map_const']
  rfl

theorem numbered_operands (inputs : List String) (prog : List TextInstruction) :
    (numbered inputs prog).operands = List.replicate inputs.length [] ++
      prog.map fun i => i.operands.map (ordinal (occurrences inputs prog)) := by
  rw [← List.map_const']
  rfl

/-- The operators of assembled programs are alike if those of the instructions are. -/
theorem forall₂_ops_iff {same : Op → Op → Prop} (hinput : same .input .input)
    (hinputs : inputs.length = inputs'.length) :
    List.Forall₂ same (numbered inputs prog).ops (numbered inputs' prog').ops ↔
      List.Forall₂ (fun i i' => same i.op i'.op) prog prog' := by
  have hdeclared (n : Nat) (ops ops' : List Op) :
      List.Forall₂ same (List.replicate n .input ++ ops) (List.replicate n .input ++ ops') ↔
        List.Forall₂ same ops ops' := by
    induction n with
    | zero => rfl
    | succ n ih => simp [List.replicate_succ, hinput, ih]
  rw [numbered_ops, numbered_ops, hinputs, hdeclared, List.forall₂_map_left_iff,
    List.forall₂_map_right_iff]

/-- The operand lists of assembled programs are equal if those of the instructions are. -/
theorem operands_eq_iff (hinputs : inputs.length = inputs'.length) :
    (numbered inputs prog).operands = (numbered inputs' prog').operands ↔
      List.Forall₂ (fun i i' => i.operands.map (ordinal (occurrences inputs prog)) =
        i'.operands.map (ordinal (occurrences inputs' prog'))) prog prog' := by
  rw [numbered_operands, numbered_operands, hinputs, List.append_cancel_left_eq,
    ← List.forall₂_eq_eq_eq, List.forall₂_map_left_iff, List.forall₂_map_right_iff]

/-- **The operand lists determine the code of all occurrences.** -/
theorem code_occurrences_of_operands (hinputs : inputs.Nodup) (hinputs' : inputs'.Nodup)
    (hlength : inputs.length = inputs'.length) (h : SingleAssignment inputs prog)
    (h' : SingleAssignment inputs' prog')
    (hoperands : (numbered inputs prog).operands = (numbered inputs' prog').operands) :
    code (occurrences inputs prog) = code (occurrences inputs' prog') := by
  -- The programs are cut at their last instructions.  What these read is in the lists, and what
  -- they write gets the next number in both.
  induction prog using List.reverseRecOn generalizing prog' with
  | nil =>
    obtain rfl : prog' = [] :=
      List.forall₂_nil_left_iff.1 ((operands_eq_iff hlength).1 hoperands)
    rw [occurrences_nil, occurrences_nil, code_of_nodup hinputs, code_of_nodup hinputs', hlength]
  | append_singleton prog i ih =>
    obtain rfl | ⟨prog', i', rfl⟩ := List.eq_nil_or_concat prog'
    · have hnone := List.forall₂_nil_right_iff.1 ((operands_eq_iff hlength).1 hoperands)
      exact absurd hnone (by simp)
    · rw [List.concat_eq_append] at h' hoperands ⊢
      obtain ⟨hprog, hnew⟩ := singleAssignment_concat.1 h
      obtain ⟨hprog', hnew'⟩ := singleAssignment_concat.1 h'
      rw [numbered_concat hnew, numbered_concat hnew'] at hoperands
      obtain ⟨hearlier, hlast⟩ := List.append_inj' hoperands rfl
      have hread : code (occurrences inputs prog ++ i.operands) =
          code (occurrences inputs' prog' ++ i'.operands) := by
        rw [code_append, code_append, ih hprog hprog' hearlier, List.singleton_inj.1 hlast]
      rw [occurrences_concat, occurrences_concat, code_concat hnew, code_concat hnew', hread]

end Shape

/-! ### Assembled programs -/

/-- The second instruction is the first one with other names for its registers. -/
structure TextInstruction.Renamed (same : Op → Op → Prop) (f : String → String)
    (i i' : TextInstruction) : Prop where
  op : same i.op i'.op
  operands : i.operands.map f = i'.operands
  result : f i.result = i'.result

/-- **Assembled code is a program up to renaming.** Two programs with equally many inputs are
assembled into the same operators and the same operand lists exactly if there is a bijection of
their symbols that takes the inputs to the inputs and each instruction to its counterpart.
Operators may be compared by any relation. -/
theorem assembled_alike_iff_renamed {same : Op → Op → Prop} (hinput : same .input .input)
    {inputs inputs' : List String} {prog prog' : List TextInstruction} {a a' : Assembly}
    (ha : assemble (prog.map TextInstruction.toValue) (inputs.map .str) = .ok a)
    (ha' : assemble (prog'.map TextInstruction.toValue) (inputs'.map .str) = .ok a')
    (hlength : inputs.length = inputs'.length) :
    List.Forall₂ same a.ops a'.ops ∧ a.operands = a'.operands ↔
      ∃ f : String → String,
        Set.BijOn f {s | s ∈ occurrences inputs prog} {s | s ∈ occurrences inputs' prog'} ∧
        inputs.map f = inputs' ∧
        List.Forall₂ (TextInstruction.Renamed same f) prog prog' := by
  obtain ⟨hinputs, hsingle, rfl⟩ := assemble_texts_eq_ok_iff.1 ha
  obtain ⟨hinputs', hsingle', rfl⟩ := assemble_texts_eq_ok_iff.1 ha'
  rw [forall₂_ops_iff hinput hlength]
  constructor
  · rintro ⟨hops, hoperands⟩
    have hcode :=
      code_occurrences_of_operands hinputs hinputs' hlength hsingle hsingle' hoperands
    obtain ⟨f, hf, hmap⟩ := code_eq_iff.1 hcode
    have hshape : List.Forall₂ (fun i i' => i.operands.length = i'.operands.length) prog prog' := by
      refine ((operands_eq_iff hlength).1 hoperands).imp fun i i' hi => ?_
      simpa using congrArg List.length hi
    obtain ⟨hdeclared, hbody⟩ := (map_occurrences_eq_iff hlength hshape).1
      (hmap.trans (List.map_id (occurrences inputs' prog')).symm)
    refine ⟨f, hf, hdeclared.trans (List.map_id inputs'), hops.mp (fun i i' hop hi => ?_) hbody⟩
    exact ⟨hop, hi.1.trans (List.map_id i'.operands), hi.2⟩
  · rintro ⟨f, hf, hdeclared, hbody⟩
    have hshape : List.Forall₂ (fun i i' => i.operands.length = i'.operands.length) prog prog' := by
      refine hbody.imp fun i i' hi => ?_
      rw [← hi.operands, List.length_map]
    have hmap : (occurrences inputs prog).map f = (occurrences inputs' prog').map id := by
      rw [map_occurrences_eq_iff hlength hshape, hdeclared, List.map_id]
      refine ⟨rfl, hbody.imp fun i i' hi => ⟨?_, hi.result⟩⟩
      rw [hi.operands, List.map_id]
    rw [List.map_id] at hmap
    have hcode : code (occurrences inputs prog) = code (occurrences inputs' prog') :=
      code_eq_iff.2 ⟨f, hf, hmap⟩
    refine ⟨hbody.imp fun i i' hi => hi.op, (operands_eq_iff hlength).2 ?_⟩
    exact ((map_occurrences_eq_iff hlength hshape).1 hcode).2.imp fun i i' hi => hi.1

/-- Two programs that are assembled alike, and so have a renaming.  It is no renaming of texts as
such: one program calls the weights what the other calls its input. -/
theorem doubledDot_renamed :
    ∃ f : String → String,
      Set.BijOn f {s | s ∈ occurrences ["x"] (doubledDot "x" "w" "u" "y")}
        {s | s ∈ occurrences ["w"] (doubledDot "w" "x" "v" "u")} ∧
      ["x"].map f = ["w"] ∧
      List.Forall₂ (TextInstruction.Renamed (· = ·) f) (doubledDot "x" "w" "u" "y")
        (doubledDot "w" "x" "v" "u") := by
  have hfirst : assemble ((doubledDot "x" "w" "u" "y").map (·.toValue)) (["x"].map .str) =
      .ok { ops := [.input, .dot, .add]
            operands := [[], [1, 0], [2, 2]]
            symbols := [.str "x", .str "w", .str "u", .str "y"] } := rfl
  have hsecond : assemble ((doubledDot "w" "x" "v" "u").map (·.toValue)) (["w"].map .str) =
      .ok { ops := [.input, .dot, .add]
            operands := [[], [1, 0], [2, 2]]
            symbols := [.str "w", .str "x", .str "v", .str "u"] } := rfl
  exact (assembled_alike_iff_renamed rfl hfirst hsecond rfl).1 ⟨List.forall₂_refl _, rfl⟩

end Laminar
