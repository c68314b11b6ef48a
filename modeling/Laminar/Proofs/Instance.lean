import Mathlib
import Laminar.Proofs.Acceptance
import Laminar.Proofs.Binding
import Laminar.Proofs.Minting

/-!
# What the names of a layer stand for

When a layer is entered, every name of its body gets a value: a local stands for a register, a
formal for what was bound to it, the collector for what was collected.  Locals are looked up first,
so no value of the call can hide one.

* `Definition.registers` lists the registers of the locals in order: minted names, then the output.
* `Definition.get_locals`: the locals stand for these registers.
* `Definition.get_of_not_local`: every other name stands for a value of the call.
-/

namespace Laminar

/-- A key that is not repeated is looked up to its own entry, whatever follows. -/
theorem lookup_of_mem {entries rest : List (String × Value)} (hnodup : (entries.map Prod.fst).Nodup)
    {p : String × Value} (hp : p ∈ entries) : (entries ++ rest).lookup p.1 = some p.2 := by
  obtain ⟨before, after, rfl⟩ := List.append_of_mem hp
  rw [List.lookup_eq_some_iff]
  refine ⟨before, after ++ rest, by simp, fun q hq => ?_⟩
  rw [List.map_append, List.nodup_append'] at hnodup
  have hdisjoint := hnodup.2.2
  rw [bne_iff_ne]
  intro heq
  exact hdisjoint (List.mem_map_of_mem hq) (heq ▸ List.mem_map_of_mem (List.mem_cons_self ..))

/-- Names that are not repeated are looked up to the values they are paired with. -/
theorem lookup_zip {names : List String} {values : List Value} (hnodup : names.Nodup)
    (hlength : values.length = names.length) (rest : List (String × Value)) :
    List.Forall₂ (fun name v => (names.zip values ++ rest).lookup name = some v) names values := by
  rw [List.forall₂_iff_zip]
  refine ⟨hlength.symm, fun {name v} hmem => ?_⟩
  have hkeys : ((names.zip values).map Prod.fst).Nodup := by
    rwa [List.map_fst_zip hlength.ge]
  exact lookup_of_mem hkeys hmem

/-- The register of a minted name, given its hint and its number. -/
def mintedRegister (m : String × Int) : Value := .str (mint m.1 m.2)

namespace Definition

/-- The registers that the locals of a layer stand for, in order. -/
def registers (d : Definition) (out : String) (n : Int) : List Value :=
  (mintedFrom d.innerLocals n).map mintedRegister ++ [.str out]

section

variable {d : Definition} {b : Binding} {closure : List (String × Value)} {out : String} {n : Int}

theorem length_registers : (d.registers out n).length = d.locals.length := by
  simp [registers]

/-- The values of the names begin with the locals and their registers. -/
theorem values_actuals : (d.actuals b closure out n).values =
    d.locals.zip (d.registers out n) ++ (b.values ++ d.collectorEntry b) := by
  simp only [actuals, List.append_assoc]
  congr 1
  rw [locals_eq, registers, List.zip_append (by simp), mintAll_fst]
  simp [List.zip_map_right, mintedRegister]

/-- **The locals stand for their registers.** -/
theorem get_locals (hnodup : d.locals.Nodup) :
    List.Forall₂ (fun name v => (d.actuals b closure out n).get name = .ok v) d.locals
      (d.registers out n) := by
  refine (lookup_zip hnodup length_registers (b.values ++ d.collectorEntry b)).imp ?_
  intro name v h
  rw [Actuals.get, values_actuals, h]
  rfl

/-- **Every other name stands for a value of the call.** -/
theorem get_of_not_local {name : String} {v : Value} (hname : name ∉ d.locals)
    (h : (d.actuals b closure out n).get name = .ok v) :
    (name, v) ∈ b.values ++ d.collectorEntry b := by
  rw [Actuals.get] at h
  split at h
  · rename_i w hlookup
    rw [pure_eq_ok] at h
    subst h
    rw [values_actuals] at hlookup
    have hmem := mem_of_lookup hlookup
    rcases List.mem_append.1 hmem with hmem | hmem
    · exact absurd (List.of_mem_zip hmem).1 hname
    · exact hmem
  · exact absurd h throw_ne_ok

/-- A parameter that is no local stands for the value bound to it. -/
theorem get?_of_get {args : List Value} {keywords : List (String × Value)} {p : String} {v : Value}
    (hbind : d.signature.bind args keywords = .ok b) (hp : p ∈ d.signature.parameterNames)
    (hlocal : p ∉ d.locals) (h : (d.actuals b closure out n).get p = .ok v) :
    b.get? p = some v := by
  have hregisters : (d.locals.zip (d.registers out n)).lookup p = none := by
    rw [List.lookup_eq_none_iff]
    rintro ⟨name, r⟩ hmem
    rw [bne_iff_ne]
    rintro rfl
    exact hlocal (List.of_mem_zip hmem).1
  obtain ⟨w, hw⟩ : ∃ w, b.values.lookup p = some w := by
    rw [← Option.isSome_iff_exists, List.lookup_isSome_iff]
    obtain ⟨f, hf, rfl⟩ := List.mem_map.1 hp
    have hbound : f.name ∈ b.values.map Prod.fst := by
      rw [Signature.map_fst_of_bind hbind]
      exact List.mem_map_of_mem (List.mem_filter.1 hf).1
    obtain ⟨q, hq, hname⟩ := List.mem_map.1 hbound
    exact ⟨q, hq, by rw [hname]; exact beq_self_eq_true _⟩
  rw [Actuals.get, values_actuals, List.lookup_append, List.lookup_append, hregisters, hw] at h
  rw [Binding.get?, hw]
  exact congrArg some (pure_eq_ok.1 h)

/-- Inputs that are bound to texts pass the check. -/
theorem checkInputs_of_texts {layer : String} {names : List String}
    (h : ∀ x ∈ names, ∃ v s, b.get? x = some v ∧ v.bare = .str s) :
    checkInputs layer b names = .ok () := by
  induction names with
  | nil => rfl
  | cons x names ih =>
    obtain ⟨⟨v, s, hv, hs⟩, hrest⟩ := List.forall_mem_cons.1 h
    rw [checkInputs, hv]
    simp only [checkSymbol, hs]
    exact ih hrest

/-- Binding a call binds its formals and names its output. -/
theorem bindCall_eq_ok {args : List Value} {output : Value} {keywords : List (String × Value)}
    (h : d.bindCall args output keywords = .ok (b, out)) :
    d.signature.bind args keywords = .ok b ∧ output.bare = .str out := by
  simp only [bindCall, bind_eq_ok, liftFault_eq_ok, mapError_eq_ok, pure_eq_ok,
    Prod.mk.injEq] at h
  obtain ⟨b', hbind, ⟨⟩, -, out', hout, rfl, rfl⟩ := h
  refine ⟨hbind, ?_⟩
  unfold checkSymbol at hout
  split at hout
  · rename_i s hs
    rw [pure_eq_ok] at hout
    rw [hs, hout]
  · exact absurd hout throw_ne_ok

end

end Definition

end Laminar
