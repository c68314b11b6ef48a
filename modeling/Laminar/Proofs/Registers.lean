import Mathlib
import Laminar.Net.Basic
import Laminar.Proofs.Computation

/-!
# Numbering registers

Assembly numbers symbols in the order in which it meets them, and it meets operands as well as
results.  So the number of an operator and the number of the register it writes agree only as long
as every operand has been met before, as a declared input or as an earlier result.

* `Known symbols v`: a symbol has a number already.
* `Distinct symbols`: no symbol is listed after one that counts as the same, so that the position of
  a symbol is its number (`registerOf?_of_distinct`).
* `ReadsWritten known prog`: every operand of the program is known when it is read.
* `numbered_of_assembleEntries`: for such programs, and for no others, assembly adds exactly the
  results to the symbols.
* `Assembly.add_of_new` and `assembleInputs_of_nodup`: assembly succeeds on texts that are new.
-/

namespace Laminar

/-! ### Symbols -/

/-- Has a symbol a number already? -/
def Known (symbols : List Value) (v : Value) : Prop := ∃ u ∈ symbols, v.sameKey u = true

/-- Every symbol was new when it was added. -/
def Distinct (symbols : List Value) : Prop := symbols.Pairwise fun u v => v.sameKey u = false

theorem registerOf?_eq_none_iff {symbols : List Value} {v : Value} :
    registerOf? symbols v = none ↔ ¬ Known symbols v := by
  simp [registerOf?, Known, List.findIdx?_eq_none_iff]

theorem isSome_registerOf?_iff {symbols : List Value} {v : Value} :
    (registerOf? symbols v).isSome ↔ Known symbols v := by
  rw [Option.isSome_iff_ne_none, ne_eq, registerOf?_eq_none_iff, not_not]

theorem distinct_concat {symbols : List Value} {v : Value} (h : Distinct symbols)
    (hnew : ¬ Known symbols v) : Distinct (symbols ++ [v]) := by
  refine List.pairwise_append.2 ⟨h, List.pairwise_singleton _ _, fun u hu w hw => ?_⟩
  rw [List.mem_singleton] at hw
  subst hw
  by_contra hsame
  exact hnew ⟨u, hu, by simpa using hsame⟩

/-- **Among distinct symbols the number of a symbol is its position.** -/
theorem registerOf?_of_distinct {symbols : List Value} {v : Value} {i : Nat}
    (hdistinct : Distinct symbols) (hv : v.sameKey v = true) (hi : symbols[i]? = some v) :
    registerOf? symbols v = some i := by
  obtain ⟨hlt, hget⟩ := List.getElem?_eq_some_iff.1 hi
  rw [registerOf?, List.findIdx?_eq_some_iff_getElem]
  refine ⟨hlt, by rw [hget]; exact hv, fun j hj => ?_⟩
  have hearlier := List.pairwise_iff_getElem.1 hdistinct j i (by omega) hlt hj
  rw [hget] at hearlier
  simp [hearlier]

/-- **What numbering operands adds**: operands that were not known, if there are any. -/
theorem internAll_eq_ok {symbols symbols' vs : List Value} {registers : List Nat}
    (h : internAll symbols vs = .ok (registers, symbols')) :
    ∃ new, symbols' = symbols ++ new ∧ new ⊆ vs ∧ (Distinct symbols → Distinct symbols') ∧
      (new = [] ↔ ∀ v ∈ vs, Known symbols v) := by
  induction vs generalizing symbols registers with
  | nil =>
    simp only [internAll, pure_eq_ok, Prod.mk.injEq] at h
    exact ⟨[], by simp [h.2], by simp, fun hd => h.2 ▸ hd, by simp⟩
  | cons v vs ih =>
    simp only [internAll, bind_eq_ok, pure_eq_ok, Prod.mk.injEq] at h
    obtain ⟨⟨⟩, -, ⟨is, after⟩, hrest, -, rfl⟩ := h
    obtain ⟨new, rfl, hsubset, hdistinct, hnone⟩ := ih hrest
    cases hregister : registerOf? symbols v with
    | some i =>
      have hknown : Known symbols v := isSome_registerOf?_iff.1 (by simp [hregister])
      rw [intern_of_some hregister] at hdistinct hnone ⊢
      refine ⟨new, rfl, List.subset_cons_of_subset v hsubset, hdistinct, ?_⟩
      rw [hnone, List.forall_mem_cons]
      exact ⟨fun hvs => ⟨hknown, hvs⟩, And.right⟩
    | none =>
      have hnew : ¬ Known symbols v := registerOf?_eq_none_iff.1 hregister
      rw [intern_of_none hregister] at hdistinct ⊢
      refine ⟨v :: new, by simp, List.cons_subset_cons v hsubset,
        fun hd => hdistinct (distinct_concat hd hnew), ?_⟩
      rw [List.forall_mem_cons]
      exact ⟨fun hnil => absurd hnil (List.cons_ne_nil v new), fun hvs => absurd hvs.1 hnew⟩

/-! ### Instructions -/

/-- Adding an instruction numbers its operands, then its result, which must be new. -/
theorem Assembly.add_eq_ok {a a' : Assembly} {i : Instruction} {entry : Value}
    (h : a.add i entry = .ok a') :
    ∃ registers symbols, internAll a.symbols i.operands = .ok (registers, symbols) ∧
      ¬ Known symbols i.result ∧
      a' = { ops := a.ops ++ [i.op], operands := a.operands ++ [registers],
             symbols := symbols ++ [i.result] } := by
  simp only [Assembly.add, bind_eq_ok, liftFault_eq_ok] at h
  obtain ⟨⟨registers, symbols⟩, hintern, ⟨⟩, -, h⟩ := h
  split at h
  · obtain ⟨_, refused, -⟩ := bind_eq_ok.1 h
    exact absurd refused throw_ne_ok
  · rename_i hnew
    rw [isSome_registerOf?_iff] at hnew
    exact ⟨registers, symbols, hintern, hnew, (pure_eq_ok.1 h).symm⟩

/-- Every operand of a program is known when it is read, given what is known at the start. -/
def ReadsWritten (known : List Value) : Program → Prop
  | [] => True
  | i :: rest => (∀ o ∈ i.operands, Known known o) ∧ ReadsWritten (known ++ [i.result]) rest

/-- What a program writes and reads, as assembly leaves it. -/
structure Numbered (a a' : Assembly) (prog : Program) : Prop where
  ops : a'.ops = a.ops ++ prog.map Instruction.op
  operands : a'.operands.length = a.operands.length + prog.length
  distinct : Distinct a.symbols → Distinct a'.symbols
  /-- There are at least as many new registers as instructions. -/
  length_le : a.symbols.length + prog.length ≤ a'.symbols.length
  symbols : ReadsWritten a.symbols prog → a'.symbols = a.symbols ++ prog.map Instruction.result
  readsWritten : a'.symbols.length = a.symbols.length + prog.length → ReadsWritten a.symbols prog
  /-- The last result has the largest number. -/
  last : ∀ i, prog.getLast? = some i → a'.symbols.getLast? = some i.result

/-- **Assembly of a program.** -/
theorem numbered_of_assembleEntries {a a' : Assembly} {prog : Program}
    (h : assembleEntries a (prog.map Instruction.toValue) = .ok a') : Numbered a a' prog := by
  induction prog generalizing a with
  | nil =>
    cases pure_eq_ok.1 h
    exact ⟨by simp, rfl, id, le_rfl, by simp, fun _ => trivial, by simp⟩
  | cons i rest ih =>
    simp only [List.map_cons, assembleEntries, Value.instruction?_toValue, bind_eq_ok] at h
    obtain ⟨a₁, hadd, hrest⟩ := h
    obtain ⟨registers, symbols, hintern, hnew, rfl⟩ := Assembly.add_eq_ok hadd
    obtain ⟨new, rfl, -, hdistinct, hnone⟩ := internAll_eq_ok hintern
    have later := ih hrest
    refine ⟨?_, ?_, ?_, ?_, ?_, ?_, ?_⟩
    · simp [later.ops]
    · rw [later.operands]
      simp only [List.length_append, List.length_cons, List.length_nil]
      omega
    · exact fun hd => later.distinct (distinct_concat (hdistinct hd) hnew)
    · have hle := later.length_le
      simp only [List.length_append, List.length_cons, List.length_nil] at hle ⊢
      omega
    · rintro ⟨hoperands, hreads⟩
      obtain rfl := hnone.2 hoperands
      rw [List.append_nil] at later
      rw [later.symbols hreads]
      simp
    · -- If there is no register to spare, no operand was new here, and none is later.
      intro hlength
      have hle := later.length_le
      simp only [List.length_append, List.length_cons, List.length_nil] at hlength hle
      obtain rfl : new = [] := List.length_eq_zero_iff.1 (by omega)
      rw [List.append_nil] at later
      refine ⟨hnone.1 rfl, later.readsWritten ?_⟩
      simp only [List.length_append, List.length_cons, List.length_nil]
      omega
    · intro j hj
      cases rest with
      | nil =>
        obtain rfl : i = j := by simpa using hj
        cases pure_eq_ok.1 hrest
        simp
      | cons k rest => exact later.last j (by simpa using hj)

/-! ### Inputs -/

/-- Declared inputs are numbered in order. -/
theorem assembleInputs_eq_ok {a a' : Assembly} {inputs : List Value}
    (h : assembleInputs a inputs = .ok a') :
    a'.ops = a.ops ++ inputs.map (fun _ => Op.input) ∧
      a'.operands.length = a.operands.length + inputs.length ∧
      a'.symbols = a.symbols ++ inputs ∧ (Distinct a.symbols → Distinct a'.symbols) := by
  induction inputs generalizing a with
  | nil =>
    cases pure_eq_ok.1 h
    simp
  | cons s rest ih =>
    simp only [assembleInputs, bind_eq_ok] at h
    obtain ⟨⟨⟩, -, h⟩ := h
    split at h
    · obtain ⟨_, refused, -⟩ := bind_eq_ok.1 h
      exact absurd refused throw_ne_ok
    · rename_i hnew
      rw [isSome_registerOf?_iff] at hnew
      obtain ⟨hops, hoperands, hsymbols, hdistinct⟩ := ih h
      refine ⟨by simp [hops], ?_, by simp [hsymbols], fun hd => hdistinct (distinct_concat hd hnew)⟩
      rw [hoperands]
      simp only [List.length_append, List.length_cons, List.length_nil]
      omega

/-! ### When assembly succeeds -/

/-- Among texts, a text is known only if it is listed. -/
theorem known_str_iff {symbols : List Value} (htexts : ∀ u ∈ symbols, ∃ t, u = .str t)
    {s : String} : Known symbols (.str s) ↔ .str s ∈ symbols := by
  constructor
  · rintro ⟨u, hu, hsame⟩
    obtain ⟨t, rfl⟩ := htexts u hu
    obtain rfl : s = t := by simpa using hsame
    exact hu
  · intro hmem
    exact ⟨_, hmem, by simp⟩

/-- Texts can always be numbered. -/
theorem internAll_of_texts {symbols vs : List Value} (h : ∀ v ∈ vs, ∃ s, v = .str s) :
    ∃ registers symbols', internAll symbols vs = .ok (registers, symbols') := by
  induction vs generalizing symbols with
  | nil => exact ⟨[], symbols, rfl⟩
  | cons v vs ih =>
    obtain ⟨⟨s, rfl⟩, hrest⟩ := List.forall_mem_cons.1 h
    obtain ⟨registers, symbols', hlater⟩ : ∃ registers symbols',
        internAll (intern symbols (.str s)).2 vs = .ok (registers, symbols') := ih hrest
    refine ⟨(intern symbols (.str s)).1 :: registers, symbols', ?_⟩
    simp only [internAll, bind_eq_ok, pure_eq_ok]
    exact ⟨(), rfl, (registers, symbols'), hlater, rfl⟩

/-- An instruction is added if its operands are texts and its result is a new one. -/
theorem Assembly.add_of_new {a : Assembly} {i : Instruction} {entry : Value} {s : String}
    {registers : List Nat} {symbols : List Value} (hresult : i.result = .str s)
    (hintern : internAll a.symbols i.operands = .ok (registers, symbols))
    (hnew : ¬ Known symbols (.str s)) :
    a.add i entry = .ok { ops := a.ops ++ [i.op], operands := a.operands ++ [registers],
                          symbols := symbols ++ [.str s] } := by
  rw [← isSome_registerOf?_iff, Bool.not_eq_true] at hnew
  simp only [Assembly.add, bind_eq_ok, liftFault_eq_ok, hresult]
  refine ⟨(registers, symbols), hintern, (), rfl, ?_⟩
  simp only [hnew]
  rfl

/-- Texts that are distinct and new can be declared as inputs. -/
theorem assembleInputs_of_nodup {a : Assembly} {inputs : List String}
    (htexts : ∀ u ∈ a.symbols, ∃ t, u = .str t) (hnodup : inputs.Nodup)
    (hnew : ∀ s ∈ inputs, .str s ∉ a.symbols) :
    ∃ a', assembleInputs a (inputs.map .str) = .ok a' := by
  induction inputs generalizing a with
  | nil => exact ⟨a, rfl⟩
  | cons s rest ih =>
    obtain ⟨hs, hrest⟩ := List.nodup_cons.1 hnodup
    obtain ⟨hfirst, hothers⟩ := List.forall_mem_cons.1 hnew
    have hunknown : (registerOf? a.symbols (.str s)).isSome = false := by
      rw [← Bool.not_eq_true, isSome_registerOf?_iff, known_str_iff htexts]
      exact hfirst
    obtain ⟨a', ha'⟩ := ih (a := ⟨a.ops ++ [.input], a.operands ++ [[]], a.symbols ++ [.str s]⟩)
      (List.forall_mem_append.2 ⟨htexts, by simp⟩) hrest (fun t ht hmem => by
        rcases List.mem_append.1 hmem with hmem | hmem
        · exact hothers t ht hmem
        · obtain rfl : t = s := Value.str.inj (List.mem_singleton.1 hmem)
          exact hs ht)
    refine ⟨a', ?_⟩
    simp only [List.map_cons, assembleInputs, bind_eq_ok]
    refine ⟨(), rfl, ?_⟩
    simp only [hunknown]
    exact ha'

end Laminar
