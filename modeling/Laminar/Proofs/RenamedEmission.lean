import Mathlib
import Laminar.Proofs.Emission
import Laminar.Proofs.Renaming

/-!
# Primitives and renamed values

A primitive can be given a minted name where it expects something else: a dimension, the numbers of
an array, a rate of dropout.  Then it refuses the call, and it must do so whatever the number in the
name is.  Everywhere else it takes the name as it is.

What reaches a primitive is not just any value.  A minted name arrives as a text, or among the
keywords that a layer collected, which arrive as a dictionary; what was there before any name was
minted is not touched by the renaming at all.  Such values are *sealed*: no primitive can tell them
from what they are renamed to.

* `Moving f δ`: the renaming `f` moves the numbers of minted names by `δ`.
* `Value.Sealed` is the condition on values.
* `Primitive.instruction_rename`: what a primitive makes of sealed values follows the renaming.
-/

namespace Laminar

/-- A renaming that moves the numbers of minted names by `δ` and leaves every other name alone. -/
structure Moving (f : String → String) (δ : Int) : Prop where
  mint : ∀ hint k, f (mint hint k) = Laminar.mint hint (k + δ)
  other : ∀ s, isMinted s = false → f s = s

theorem moving_renumber (n m : Int) : Moving (renumber n m) (m - n) where
  mint hint k := by
    rw [renumber_mint]
    congr 1
    omega
  other _ h := renumber_of_not_minted n m h

/-! ### Sealed values -/

/-- A value in which a renaming can change something only where nothing looks: it is a text, or a
dictionary, or it does not change at all. -/
def Value.Sealed (f : String → String) (v : Value) : Prop :=
  v.rename f = v ∨ (∃ s, v = .str s) ∨ ∃ entries, v = .dict entries

section Sealed

variable {f : String → String} {δ : Int}

/-- **What is read from a sealed value does not depend on minted names**, if nothing can be read
from a minted name or from a dictionary. -/
theorem Value.Sealed.rename_eq_of_read {v : Value} {α ε : Type} {read : Value → Except ε α} {a : α}
    (hf : Moving f δ) (htext : ∀ s, isMinted s = true → read (.str s) ≠ .ok a)
    (hdict : ∀ entries, read (.dict entries) ≠ .ok a) (hsealed : v.Sealed f)
    (h : read v = .ok a) : v.rename f = v := by
  rcases hsealed with hsame | ⟨s, rfl⟩ | ⟨entries, rfl⟩
  · exact hsame
  · cases hminted : isMinted s with
    | false => exact congrArg Value.str (hf.other s hminted)
    | true => exact absurd h (htext s hminted)
  · exact absurd h (hdict entries)

theorem Tensor.ofValue_dict (entries : List (Value × Value)) (t : Tensor) :
    Tensor.ofValue (.dict entries) ≠ .ok t := by
  intro h
  cases h

theorem Op.dropout_dict (entries : List (Value × Value)) (op : Op) :
    Op.dropout (.dict entries) ≠ .ok op := by
  intro h
  cases h

theorem Op.dropout_eq_ok {rate : Value} {op : Op} (h : Op.dropout rate = .ok op) :
    op = .drop rate := by
  simp only [Op.dropout, bind_eq_ok] at h
  obtain ⟨low, -, h⟩ := h
  split at h
  · obtain ⟨high, -, h⟩ := bind_eq_ok.1 h
    split at h
    · exact (pure_eq_ok.1 h).symm
    · exact absurd h throw_ne_ok
  · exact absurd h throw_ne_ok

theorem Primitive.mapM_dimension_eq_ok {args dims : List Value} (hf : Moving f δ)
    (hargs : ∀ v ∈ args, v.Sealed f) (h : args.mapM Primitive.dimension = .ok dims) :
    args.map (·.rename f) = args ∧ renameList f dims = dims := by
  induction args generalizing dims with
  | nil =>
    rw [List.mapM_nil, pure_eq_ok] at h
    subst h
    exact ⟨rfl, rfl⟩
  | cons v vs ih =>
    simp only [List.mapM_cons, bind_eq_ok, pure_eq_ok] at h
    obtain ⟨dim, hdim, rest, hrest, rfl⟩ := h
    obtain ⟨hv, hvs⟩ := List.forall_mem_cons.1 hargs
    obtain ⟨hargs, hdims⟩ := ih hvs hrest
    have hsame : v.rename f = v := by
      refine hv.rename_eq_of_read hf (fun s _ h => ?_) (fun entries h => ?_) hdim
      · cases h
      · cases h
    have hnumber : dim.rename f = dim := by
      unfold dimension at hdim
      split at hdim
      · split at hdim
        · exact absurd hdim throw_ne_ok
        · rw [← pure_eq_ok.1 hdim]
          rfl
      · exact absurd hdim throw_ne_ok
    exact ⟨by rw [List.map_cons, hsame, hargs], congrArg₂ List.cons hnumber hdims⟩

end Sealed

/-! ### Primitives -/

section Primitives

variable {f : String → String} {δ : Int}

theorem checkSymbol_rename {label s : String} {v : Value} (h : checkSymbol label v = .ok s)
    (label' : String) : checkSymbol label' (v.rename f) = .ok (f s) := by
  unfold checkSymbol at h ⊢
  split at h
  · rename_i t ht
    obtain rfl := pure_eq_ok.1 h
    rw [Value.bare_rename, ht]
    rfl
  · exact absurd h throw_ne_ok

theorem checkOperands_rename {operator : String} {index : Nat} {operands : List Value}
    (h : checkOperands operator index operands = .ok ()) (operator' : String) :
    checkOperands operator' index (operands.map (·.rename f)) = .ok () := by
  induction operands generalizing index with
  | nil => rfl
  | cons v vs ih =>
    obtain ⟨s, hv, hvs⟩ := bind_eq_ok.1 h
    exact bind_eq_ok.2 ⟨f s, checkSymbol_rename hv _, ih hvs⟩

theorem Instruction.checked_rename {op : Op} {operands : List Value} {result : Value}
    {i : Instruction} (h : Instruction.checked op operands result = .ok i) :
    Instruction.checked (op.rename f) (operands.map (·.rename f)) (result.rename f) =
      .ok (i.rename f) := by
  simp only [Instruction.checked, bind_eq_ok, pure_eq_ok] at h ⊢
  obtain ⟨⟨⟩, hoperands, s, hresult, rfl⟩ := h
  exact ⟨(), checkOperands_rename hoperands _, f s, checkSymbol_rename hresult _, rfl⟩

namespace Primitive

theorem plainInstruction_rename {op : Op} {registers : List Value} {i : Instruction}
    (h : plainInstruction op registers = .ok i) :
    plainInstruction (op.rename f) (registers.map (·.rename f)) = .ok (i.rename f) := by
  have hlast : (registers.map (·.rename f)).getLast?.getD .null =
      (registers.getLast?.getD .null).rename f := by
    rw [List.getLast?_map]
    cases registers.getLast? <;> rfl
  rw [plainInstruction, mapError_eq_ok] at h ⊢
  rw [← List.map_dropLast, hlast]
  exact Instruction.checked_rename h

theorem renameNamed_eq_mapValues {named : List (String × Value)} (h : ∀ p ∈ named, f p.1 = p.1) :
    renameNamed f named = mapValues (·.rename f) named := by
  rw [renameNamed_eq_map]
  exact List.map_congr_left fun p hp => Prod.ext (h p hp) rfl

theorem parameter_rename {dims : List Value} (init : Value) {opts : List (String × Value)}
    (hdims : renameList f dims = dims) (hopts : ∀ p ∈ opts, f p.1 = p.1) :
    Op.parameter dims (init.rename f) (mapValues (·.rename f) opts) =
      (Op.parameter dims init opts).rename f := by
  have hrename (init : Value) :
      (Op.par dims init opts).rename f = .par dims (init.rename f) (mapValues (·.rename f) opts) := by
    rw [Op.rename, hdims, renameNamed_eq_mapValues hopts]
  unfold Op.parameter
  rw [Value.bare_rename]
  cases hbare : init.bare
  case null => exact (hrename (.initializer defaultInitializer)).symm
  all_goals exact (hrename init).symm

theorem bindParameter_rename {dims : List Value} {init : Value} {opts : List (String × Value)}
    {bound : Bound} (hdims : renameList f dims = dims)
    (h : bindParameter [.tuple dims, init] opts = .ok bound) :
    bindParameter [.tuple dims, init.rename f] (mapValues (·.rename f) opts) =
        .ok (bound.map (·.rename f)) ∧
      bound.options ⊆ opts := by
  simp only [bindParameter, bindClass, bind_eq_ok, pure_eq_ok] at h ⊢
  obtain ⟨full, hfull, rfl⟩ := h
  have hdefaults : ∀ formal ∈ (classConstructor "Par" [⟨"dims", none⟩, ⟨"init", some .null⟩]
      true).formals, ∀ v, formal.default = some v → v.rename f = v := by
    simp [classConstructor, Value.rename]
  have hrenamed := Constructor.bind_map hdefaults hfull
  have htuple : (Value.tuple dims).rename f = .tuple dims := congrArg Value.tuple hdims
  simp only [List.map_cons, List.map_nil, htuple] at hrenamed
  refine ⟨⟨_, hrenamed, ?_⟩, fun p hp => Constructor.options_of_bind hfull hp⟩
  simp only [Bound.map, List.map_tail]

/-- The weights constructor looks at its dimensions only. -/
theorem parameter_instruction_rename {args : List Value} {keywords : List (String × Value)}
    {i : Instruction} (hf : Moving f δ) (hargs : ∀ v ∈ args, v.Sealed f)
    (hkeywords : ∀ k ∈ keywords, f k.1 = k.1) (h : parameter args keywords = .ok i) :
    parameter (args.map (·.rename f)) (mapValues (·.rename f) keywords) = .ok (i.rename f) := by
  have hinit : ((mapValues (·.rename f) keywords).lookup "init").getD .null =
      ((keywords.lookup "init").getD .null).rename f := by
    rw [lookup_mapValues]
    cases keywords.lookup "init" <;> rfl
  have hopts : (mapValues (·.rename f) keywords).filter (·.1 != "init") =
      mapValues (·.rename f) (keywords.filter (·.1 != "init")) := by
    rw [mapValues, List.filter_map]
    rfl
  unfold parameter at h ⊢
  simp only [List.getLast?_map, hinit, hopts]
  cases hlast : args.getLast? with
  | none =>
    rw [hlast] at h
    exact absurd h throw_ne_ok
  | some result =>
    simp only [hlast, bind_eq_ok, mapError_eq_ok, liftFault_eq_ok, Option.map_some] at h ⊢
    obtain ⟨dims, hdims, bound, hbound, hchecked⟩ := h
    have hfront : ∀ v ∈ args.dropLast, v.Sealed f := fun v hv =>
      hargs v (List.dropLast_subset _ hv)
    obtain ⟨hsame, hnumbers⟩ := mapM_dimension_eq_ok hf hfront hdims
    obtain ⟨hrenamed, hcollected⟩ := bindParameter_rename hnumbers hbound
    refine ⟨dims, by rw [← List.map_dropLast, hsame, hdims], _, hrenamed, ?_⟩
    have hnames : ∀ p ∈ bound.options, f p.1 = p.1 := fun p hp =>
      hkeywords p (List.filter_subset_self _ (hcollected hp))
    have hoperator := parameter_rename ((keywords.lookup "init").getD .null) hnumbers hnames
    rw [show (bound.map (·.rename f)).options = mapValues (·.rename f) bound.options from rfl,
      hoperator]
    exact Instruction.checked_rename hchecked

theorem sealed_of_bind {c : Constructor} {args : List Value} {keywords : List (String × Value)}
    {b : Bound} (hdefaults : ∀ formal ∈ c.formals, ∀ v, formal.default = some v → v.rename f = v)
    (hargs : ∀ v ∈ args, v.Sealed f) (hkeywords : ∀ k ∈ keywords, k.2.Sealed f)
    (h : c.bind args keywords = .ok b) : ∀ v ∈ b.values, v.Sealed f :=
  Constructor.forall_of_bind hargs hkeywords
    (fun formal hformal v hdefault => .inl (hdefaults formal hformal v hdefault)) h

/-- Binding follows a renaming: no default of a primitive is a text. -/
theorem bind_rename {p : Primitive} {args : List Value} {keywords : List (String × Value)}
    {b : Bound} (hargs : ∀ v ∈ args, v.Sealed f) (hkeywords : ∀ k ∈ keywords, k.2.Sealed f)
    (h : Constructor.bind { name := p.name, formals := p.formals } args keywords = .ok b) :
    Constructor.bind { name := p.name, formals := p.formals } (args.map (·.rename f))
        (mapValues (·.rename f) keywords) = .ok (b.map (·.rename f)) ∧
      ∀ v ∈ b.values, v.Sealed f := by
  have hdefaults : ∀ formal ∈ p.formals, ∀ v, formal.default = some v → v.rename f = v := by
    cases p <;> simp [formals, Value.rename]
  exact ⟨Constructor.bind_map hdefaults h, sealed_of_bind hdefaults hargs hkeywords h⟩

/-- **The instruction of a primitive follows a renaming** of what the primitive is given. -/
theorem instruction_rename {p : Primitive} {args : List Value} {keywords : List (String × Value)}
    {i : Instruction} (hf : Moving f δ) (hargs : ∀ v ∈ args, v.Sealed f)
    (hkeywords : ∀ k ∈ keywords, f k.1 = k.1 ∧ k.2.Sealed f)
    (h : p.instruction args keywords = .ok i) :
    p.instruction (args.map (·.rename f)) (mapValues (·.rename f) keywords) = .ok (i.rename f) := by
  cases p
  case par => exact parameter_instruction_rename hf hargs (fun k hk => (hkeywords k hk).1) h
  all_goals
    simp only [instruction, bind_eq_ok, liftFault_eq_ok] at h ⊢
    obtain ⟨bound, hbound, h⟩ := h
    obtain ⟨hrenamed, hsealed⟩ := bind_rename hargs (fun k hk => (hkeywords k hk).2) hbound
    refine ⟨_, hrenamed, ?_⟩
  case arr =>
    obtain ⟨y, init, hvalues⟩ := List.length_eq_two.1 (Constructor.length_of_bind hbound)
    rw [hvalues] at h hsealed
    split at h
    · exact absurd h throw_ne_ok
    · rename_i heq
      cases heq
      obtain ⟨t, ht, h⟩ := bind_eq_ok.1 h
      rw [liftFault_eq_ok] at ht
      have hinit : init.rename f = init := by
        refine (hsealed init (by simp)).rename_eq_of_read hf (fun s hs => ?_) (fun entries => ?_) ht
        · exact Tensor.ofValue_str (readFloat?_of_isMinted hs) t
        · exact Tensor.ofValue_dict entries t
      simp only [Bound.map, hvalues, List.map_cons, List.map_nil, hinit]
      exact bind_eq_ok.2 ⟨t, liftFault_eq_ok.2 ht, plainInstruction_rename h⟩
    · rename_i notArr _
      cases notArr
    · rename_i notTwo _
      exact (notTwo _ _ rfl rfl).elim
  case drop =>
    obtain ⟨x, y, rate, hvalues⟩ := List.length_eq_three.1 (Constructor.length_of_bind hbound)
    rw [hvalues] at h hsealed
    obtain ⟨op, hop, h⟩ := bind_eq_ok.1 h
    rw [liftFault_eq_ok] at hop
    have hrate : rate.rename f = rate := by
      refine (hsealed rate (by simp)).rename_eq_of_read hf (fun s _ => ?_) (fun entries => ?_) hop
      · exact Op.dropout_str s op
      · exact Op.dropout_dict entries op
    simp only [Bound.map, hvalues, List.map_cons, List.map_nil, hrate]
    refine bind_eq_ok.2 ⟨op, liftFault_eq_ok.2 hop, ?_⟩
    obtain rfl := Op.dropout_eq_ok hop
    have hrenamed := plainInstruction_rename (f := f) h
    rwa [Op.rename, hrate] at hrenamed
  all_goals exact plainInstruction_rename h

end Primitive

end Primitives

end Laminar
