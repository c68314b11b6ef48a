import Mathlib
import Laminar.Call.Arguments
import Laminar.Layer.Signature
import Laminar.Proofs.Computation

/-!
# Where bound values come from

Two rules bind the values of a call to formals: that of constructors (`Constructor.bind`), which the
primitives use, and that of layers (`Signature.bind`).  They differ in what they refuse and in the
order in which they look, but not in where values come from: a formal holds a positional value, or
the keyword of its own name, or its default.

* `Constructor.bind_iff`, `Signature.bind_iff`: when a call is bound, and to what.
* `Constructor.bind_values`: the positional values come first, in order; every later formal holds
  its keyword or its default.
* `Signature.bind_values`: every formal is bound, to a value from one of the three places, and only
  keywords of the call are collected.
* `Signature.bind_of_inputs`: a call that gives every formal by position collects every keyword.
* `Constructor.bind_map`, `Signature.bind_map`: neither rule looks at the values it binds.
-/

namespace Laminar

/-- Every item of a list is related to one of a list that is related to it item by item. -/
theorem exists_of_forall₂ {α β : Type} {R : α → β → Prop} {as : List α} {bs : List β}
    (h : List.Forall₂ R as bs) {a : α} (ha : a ∈ as) : ∃ b ∈ bs, R a b := by
  induction h with
  | nil => cases ha
  | cons hd _ ih =>
    rcases List.mem_cons.1 ha with rfl | ha
    · exact ⟨_, List.mem_cons_self .., hd⟩
    · obtain ⟨b, hb, hab⟩ := ih ha
      exact ⟨b, List.mem_cons_of_mem _ hb, hab⟩

/-! ### Constructors -/

/-- Between two states of a slot it was filled at most by a keyword of its own name. -/
def Slot.Filled (keywords : List (String × Value)) (before after : Slot) : Prop :=
  after.1 = before.1 ∧
    (after.2 = before.2 ∨ before.2 = none ∧ ∃ v, (before.1.name, v) ∈ keywords ∧ after.2 = some v)

/-- The slots of a call in two states, one after the other. -/
abbrev SlotsFilled (keywords : List (String × Value)) : List Slot → List Slot → Prop :=
  List.Forall₂ (Slot.Filled keywords)

section Slots

variable {K : List (String × Value)}

theorem Slot.Filled.trans {s t u : Slot} (h : s.Filled K t) (h' : t.Filled K u) :
    s.Filled K u := by
  obtain ⟨hformal, hvalue⟩ := h
  obtain ⟨hformal', hvalue'⟩ := h'
  refine ⟨hformal'.trans hformal, ?_⟩
  rcases hvalue' with same | ⟨free, v, hv, heq⟩
  · rw [same]
    exact hvalue
  · rcases hvalue with same | ⟨_, w, _, heq'⟩
    · exact .inr ⟨same ▸ free, v, hformal ▸ hv, heq⟩
    · rw [free] at heq'
      cases heq'

theorem SlotsFilled.refl (slots : List Slot) : SlotsFilled K slots slots :=
  List.forall₂_same.2 fun _ _ => ⟨rfl, .inl rfl⟩

theorem SlotsFilled.trans {s t u : List Slot} (h : SlotsFilled K s t) (h' : SlotsFilled K t u) :
    SlotsFilled K s u := by
  induction h generalizing u with
  | nil =>
    cases h'
    exact .nil
  | cons hd _ ih =>
    cases h' with
    | cons hd' tl' => exact .cons (hd.trans hd') (ih tl')

theorem slotsFilled_of_fillSlot {function name : String} {v : Value} {slots after : List Slot}
    (hk : (name, v) ∈ K) (h : fillSlot function name v slots = .ok (some after)) :
    SlotsFilled K slots after := by
  induction slots generalizing after with
  | nil => simp [fillSlot] at h
  | cons s rest ih =>
    obtain ⟨formal, value⟩ := s
    unfold fillSlot at h
    split at h
    · rename_i hname
      cases value with
      | some w => simp at h
      | none =>
        simp only [pure_eq_ok, Option.some.injEq] at h
        subst h
        exact .cons ⟨rfl, .inr ⟨rfl, v, hname ▸ hk, rfl⟩⟩ (SlotsFilled.refl rest)
    · simp only [bind_eq_ok, pure_eq_ok, Option.map_eq_some_iff] at h
      obtain ⟨found, hfound, filled, rfl, rfl⟩ := h
      exact .cons ⟨rfl, .inl rfl⟩ (ih hfound)

theorem slotsFilled_of_bindKeywords {c : Constructor} {keywords : List (String × Value)}
    {slots after : List Slot} {options collected : List (String × Value)} (hk : keywords ⊆ K)
    (h : c.bindKeywords keywords slots options = .ok (after, collected)) :
    SlotsFilled K slots after := by
  induction keywords generalizing slots options with
  | nil =>
    simp only [Constructor.bindKeywords, pure_eq_ok, Prod.mk.injEq] at h
    exact h.1 ▸ SlotsFilled.refl slots
  | cons k rest ih =>
    obtain ⟨name, v⟩ := k
    obtain ⟨hmem, hrest⟩ := List.cons_subset.1 hk
    simp only [Constructor.bindKeywords, bind_eq_ok] at h
    obtain ⟨filled, hfill, h⟩ := h
    split at h
    · exact (slotsFilled_of_fillSlot hmem hfill).trans (ih hrest h)
    · split at h
      · exact ih hrest h
      · simp at h

/-- A formal without a positional value holds its keyword or its default. -/
def Formal.Sourced (keywords : List (String × Value)) (f : Formal) (v : Value) : Prop :=
  (f.name, v) ∈ keywords ∨ f.default = some v

theorem values_of_slotsFilled {formals : List Formal} {args : List Value} {slots : List Slot}
    (hlength : args.length ≤ formals.length)
    (h : SlotsFilled K (bindPositional formals args) slots)
    (hfull : ∀ s ∈ slots, (Slot.value? s).isSome) :
    ∃ rest, slots.filterMap Slot.value? = args ++ rest ∧
      List.Forall₂ (Formal.Sourced K) (formals.drop args.length) rest := by
  induction formals generalizing args slots with
  | nil =>
    obtain rfl : args = [] := List.length_eq_zero_iff.1 (Nat.le_zero.1 hlength)
    cases h
    exact ⟨[], rfl, .nil⟩
  | cons f fs ih =>
    cases args with
    | nil =>
      cases h with
      | @cons _ slot _ slots hslot hslots =>
        obtain ⟨hhead, htail⟩ := List.forall_mem_cons.1 hfull
        obtain ⟨v, hv⟩ := Option.isSome_iff_exists.1 hhead
        obtain ⟨rest, heq, hrest⟩ := ih (Nat.zero_le _) hslots htail
        refine ⟨v :: rest, by simp [hv, heq], .cons ?_ hrest⟩
        -- The slot was free, so its value is the keyword or else the default.
        rw [Slot.value?, hslot.1] at hv
        rcases hslot.2 with same | ⟨-, w, hw, heq⟩
        · rw [same] at hv
          exact .inr hv
        · rw [heq] at hv
          cases hv
          exact .inl hw
    | cons a as =>
      cases h with
      | @cons _ slot _ slots hslot hslots =>
        obtain ⟨-, htail⟩ := List.forall_mem_cons.1 hfull
        obtain ⟨rest, heq, hrest⟩ := ih (Nat.le_of_succ_le_succ hlength) hslots htail
        have hv : Slot.value? slot = some a := by
          rcases hslot.2 with same | ⟨free, -⟩
          · rw [Slot.value?, same]
            rfl
          · cases free
        exact ⟨rest, by simp [hv, heq], hrest⟩

end Slots

/-- A constructor binds a call if it has a formal for every positional value and, once the keywords
are bound, a value for every formal. -/
theorem Constructor.bind_iff {c : Constructor} {args : List Value}
    {keywords : List (String × Value)} {b : Bound} :
    c.bind args keywords = .ok b ↔
      args.length ≤ c.formals.length ∧ ∃ slots,
        c.bindKeywords keywords (bindPositional c.formals args) [] = .ok (slots, b.options) ∧
          (∀ s ∈ slots, (Slot.value? s).isSome) ∧ b.values = slots.filterMap Slot.value? := by
  have hmissing (slots : List Slot) :
      (!((slots.filter fun s => (Slot.value? s).isNone).map (·.1.name)).isEmpty) = true ↔
        ¬ ∀ s ∈ slots, (Slot.value? s).isSome := by
    simp [Option.isSome_iff_ne_none]
  simp only [Constructor.bind, bind_eq_ok]
  constructor
  · rintro ⟨⟨slots, options⟩, hslots, h⟩
    split at h
    · obtain ⟨_, refused, -⟩ := bind_eq_ok.1 h
      exact absurd refused throw_ne_ok
    rename_i hlength
    split at h
    · obtain ⟨_, refused, -⟩ := bind_eq_ok.1 h
      exact absurd refused throw_ne_ok
    rename_i hfull
    obtain rfl := pure_eq_ok.1 h
    exact ⟨Nat.le_of_not_lt hlength, slots, hslots,
      not_not.1 fun hnot => hfull ((hmissing slots).2 hnot), rfl⟩
  · rintro ⟨hlength, slots, hslots, hfull, hvalues⟩
    refine ⟨_, hslots, ?_⟩
    rw [if_neg (Nat.not_lt.2 hlength), if_neg fun hnot => (hmissing slots).1 hnot hfull]
    exact pure_eq_ok.2 (by rw [← hvalues])

/-- **What a constructor binds.** Positional values come first and in order; every formal after
them holds its keyword or its default. -/
theorem Constructor.bind_values {c : Constructor} {args : List Value}
    {keywords : List (String × Value)} {b : Bound} (h : c.bind args keywords = .ok b) :
    args.length ≤ c.formals.length ∧ ∃ rest, b.values = args ++ rest ∧
      List.Forall₂ (Formal.Sourced keywords) (c.formals.drop args.length) rest := by
  obtain ⟨hlength, slots, hslots, hfull, hvalues⟩ := Constructor.bind_iff.1 h
  rw [hvalues]
  exact ⟨hlength, values_of_slotsFilled hlength
    (slotsFilled_of_bindKeywords (List.Subset.refl _) hslots) hfull⟩

/-- What holds of all that is given, and of the defaults, holds of all that is bound. -/
theorem Constructor.forall_of_bind {c : Constructor} {args : List Value}
    {keywords : List (String × Value)} {b : Bound} {P : Value → Prop} (hargs : ∀ v ∈ args, P v)
    (hkeywords : ∀ k ∈ keywords, P k.2)
    (hdefaults : ∀ f ∈ c.formals, ∀ v, f.default = some v → P v)
    (h : c.bind args keywords = .ok b) : ∀ v ∈ b.values, P v := by
  obtain ⟨-, rest, hvalues, hrest⟩ := Constructor.bind_values h
  rw [hvalues, List.forall_mem_append]
  refine ⟨hargs, fun v hv => ?_⟩
  obtain ⟨f, hf, hsource⟩ := exists_of_forall₂ hrest.flip hv
  rcases hsource with hkeyword | hdefault
  · exact hkeywords _ hkeyword
  · exact hdefaults f (List.drop_subset _ _ hf) v hdefault

/-- Every formal gets a value. -/
theorem Constructor.length_of_bind {c : Constructor} {args : List Value}
    {keywords : List (String × Value)} {b : Bound} (h : c.bind args keywords = .ok b) :
    b.values.length = c.formals.length := by
  obtain ⟨hlength, rest, hvalues, hrest⟩ := Constructor.bind_values h
  have hcount := hrest.length_eq
  rw [List.length_drop] at hcount
  rw [hvalues, List.length_append]
  omega

theorem options_of_bindKeywords {c : Constructor} {keywords : List (String × Value)}
    {slots after : List Slot} {options collected : List (String × Value)}
    (h : c.bindKeywords keywords slots options = .ok (after, collected)) :
    collected ⊆ options ++ keywords := by
  induction keywords generalizing slots options with
  | nil =>
    simp only [Constructor.bindKeywords, pure_eq_ok, Prod.mk.injEq] at h
    simp [h.2]
  | cons k rest ih =>
    obtain ⟨name, v⟩ := k
    simp only [Constructor.bindKeywords, bind_eq_ok] at h
    obtain ⟨filled, -, h⟩ := h
    split at h
    · intro p hp
      have := ih h hp
      simp only [List.mem_append, List.mem_cons] at this ⊢
      tauto
    · split at h
      · intro p hp
        have := ih h hp
        simp only [List.mem_append, List.mem_cons, List.not_mem_nil, or_false] at this ⊢
        tauto
      · exact absurd h throw_ne_ok

/-- What a constructor collects was given by name. -/
theorem Constructor.options_of_bind {c : Constructor} {args : List Value}
    {keywords : List (String × Value)} {b : Bound} (h : c.bind args keywords = .ok b) :
    b.options ⊆ keywords := by
  obtain ⟨-, slots, hslots, -, -⟩ := Constructor.bind_iff.1 h
  exact options_of_bindKeywords hslots

/-! ### Layers -/

theorem mem_of_lookup {keywords : List (String × Value)} {name : String} {v : Value}
    (h : keywords.lookup name = some v) : (name, v) ∈ keywords := by
  obtain ⟨before, after, rfl, -⟩ := List.lookup_eq_some_iff.1 h
  simp

theorem bindFromLeft_values {keywords : List (String × Value)} {formals : List LayerFormal}
    {args : List Value} {bound : List (String × Value)} {left : List LayerFormal}
    (h : bindFromLeft keywords formals args = .ok (bound, left)) :
    (∀ p ∈ bound, p.2 ∈ args) ∧ left ⊆ formals := by
  induction formals generalizing args bound left with
  | nil =>
    cases args with
    | nil =>
      simp only [bindFromLeft, pure_eq_ok, Prod.mk.injEq] at h
      simp [← h.1, ← h.2]
    | cons v vs => simp [bindFromLeft] at h
  | cons f fs ih =>
    cases args with
    | nil =>
      simp only [bindFromLeft, pure_eq_ok, Prod.mk.injEq] at h
      simp [← h.1, ← h.2]
    | cons v vs =>
      simp only [bindFromLeft] at h
      split at h
      · exact absurd h throw_ne_ok
      · split at h
        · exact absurd h throw_ne_ok
        · simp only [bind_eq_ok, pure_eq_ok, Prod.mk.injEq] at h
          obtain ⟨⟨bound', left'⟩, hrest, rfl, rfl⟩ := h
          obtain ⟨values, subset⟩ := ih hrest
          refine ⟨?_, List.Subset.trans subset (List.subset_cons_self f fs)⟩
          rw [List.forall_mem_cons]
          exact ⟨List.mem_cons_self .., fun p hp => List.mem_cons_of_mem _ (values p hp)⟩

theorem bindByName_values {keywords : List (String × Value)} {formals : List LayerFormal}
    {bound : List (String × Value)} (h : bindByName keywords formals = .ok bound) :
    ∀ p ∈ bound, p ∈ keywords ∨ ∃ f ∈ formals, f.default = some p.2 := by
  induction formals generalizing bound with
  | nil =>
    simp only [bindByName, pure_eq_ok] at h
    simp [← h]
  | cons f fs ih =>
    have later {rest : List (String × Value)} (hrest : bindByName keywords fs = .ok rest) :
        ∀ p ∈ rest, p ∈ keywords ∨ ∃ g ∈ f :: fs, g.default = some p.2 := by
      intro p hp
      refine (ih hrest p hp).imp_right ?_
      rintro ⟨g, hg, hd⟩
      exact ⟨g, List.mem_cons_of_mem _ hg, hd⟩
    simp only [bindByName] at h
    split at h
    · rename_i v hlookup
      split at h
      · exact absurd h throw_ne_ok
      · simp only [bind_eq_ok, pure_eq_ok] at h
        obtain ⟨rest, hrest, rfl⟩ := h
        rw [List.forall_mem_cons]
        exact ⟨.inl (mem_of_lookup hlookup), later hrest⟩
    · split at h
      · rename_i v hdefault
        simp only [bind_eq_ok, pure_eq_ok] at h
        obtain ⟨rest, hrest, rfl⟩ := h
        rw [List.forall_mem_cons]
        exact ⟨.inr ⟨f, List.mem_cons_self .., hdefault⟩, later hrest⟩
      · exact absurd h throw_ne_ok

/-- A layer binds a call if the positional values can be bound from the left, the formals that are
left by name, and nothing is left over unless it collects keywords. -/
theorem Signature.bind_iff {s : Signature} {args : List Value} {keywords : List (String × Value)}
    {b : Binding} :
    s.bind args keywords = .ok b ↔ ∃ bound left named,
      bindFromLeft keywords s.formals args = .ok (bound, left) ∧
        bindByName keywords left = .ok named ∧ b.values = bound ++ named ∧
          b.collected = keywords.filter (fun k => !(left.any (·.name == k.1))) ∧
            (s.collector = none → b.collected = []) := by
  simp only [Signature.bind, bind_eq_ok]
  constructor
  · rintro ⟨⟨bound, left⟩, hbound, named, hnamed, h⟩
    split at h
    · exact absurd h throw_ne_ok
    · rename_i hallowed
      obtain rfl := pure_eq_ok.1 h
      refine ⟨bound, left, named, hbound, hnamed, rfl, rfl, fun hnone => ?_⟩
      by_contra hleftover
      obtain ⟨k, ks, heq⟩ := List.exists_cons_of_ne_nil hleftover
      exact hallowed k ks hnone heq
  · rintro ⟨bound, left, named, hbound, hnamed, hvalues, hcollected, hallowed⟩
    refine ⟨(bound, left), hbound, named, hnamed, ?_⟩
    rw [← hcollected, ← hvalues]
    split
    · rename_i hnone hsome
      rw [hallowed hnone] at hsome
      cases hsome
    · rfl

/-- **What a layer binds.** Every formal is bound to a positional value, to a keyword, or to a
default, and what is collected was given by name. -/
theorem Signature.bind_values {s : Signature} {args : List Value}
    {keywords : List (String × Value)} {b : Binding} (h : s.bind args keywords = .ok b) :
    (∀ p ∈ b.values, p.2 ∈ args ∨ p ∈ keywords ∨ ∃ f ∈ s.formals, f.default = some p.2) ∧
      b.collected ⊆ keywords := by
  obtain ⟨bound, left, named, hbound, hnamed, hvalues, hcollected, -⟩ := Signature.bind_iff.1 h
  obtain ⟨fromArgs, hleft⟩ := bindFromLeft_values hbound
  have fromNames := bindByName_values hnamed
  rw [hvalues, hcollected]
  refine ⟨fun p hp => ?_, List.filter_subset_self _⟩
  rcases List.mem_append.1 hp with hp | hp
  · exact .inl (fromArgs p hp)
  · refine .inr ((fromNames p hp).imp_right ?_)
    rintro ⟨f, hf, hdefault⟩
    exact ⟨f, hleft hf, hdefault⟩

/-- Every formal of a layer is bound, in order. -/
theorem Signature.map_fst_of_bind {s : Signature} {args : List Value}
    {keywords : List (String × Value)} {b : Binding} (h : s.bind args keywords = .ok b) :
    b.values.map Prod.fst = s.formals.map (·.name) := by
  obtain ⟨bound, left, named, hbound, hnamed, hvalues, -, -⟩ := Signature.bind_iff.1 h
  rw [hvalues, List.map_append, bindByName_names hnamed, bindFromLeft_names hbound]

/-- Formals that all take positional values are bound by position alone, as long as no keyword has
the name of one. -/
theorem bindFromLeft_inputs {keywords : List (String × Value)} {names : List String}
    {args : List Value} (hlength : args.length = names.length)
    (hfree : ∀ k ∈ keywords, k.1 ∉ names) :
    bindFromLeft keywords (names.map fun x => ⟨x, .standard, none⟩) args =
      .ok (names.zip args, []) := by
  induction names generalizing args with
  | nil =>
    obtain rfl := List.length_eq_zero_iff.1 hlength
    rfl
  | cons x xs ih =>
    cases args with
    | nil => cases hlength
    | cons v vs =>
      have notGiven : hasKeyword keywords x = false := by
        simp only [hasKeyword, List.any_eq_false, beq_iff_eq]
        exact fun k hk heq => hfree k hk (heq ▸ List.mem_cons_self ..)
      have rest := ih (Nat.succ.inj hlength) fun k hk hx => hfree k hk (List.mem_cons_of_mem _ hx)
      simp [bindFromLeft, notGiven, rest, bind, Except.bind, pure, Except.pure]

/-- **A layer of inputs and a collector collects every keyword**, in order, once all inputs are
given by position. -/
theorem Signature.bind_of_inputs {keywords : List (String × Value)} {names : List String}
    {collector : String} {args : List Value} (hlength : args.length = names.length)
    (hfree : ∀ k ∈ keywords, k.1 ∉ names) :
    Signature.bind ⟨names.map fun x => ⟨x, .standard, none⟩, some collector⟩ args keywords =
      .ok { values := names.zip args, collected := keywords } := by
  rw [Signature.bind, bindFromLeft_inputs hlength hfree]
  simp [Bind.bind, Except.bind, bindByName, pure, Except.pure]

/-! ### Binding does not look at values -/

/-- Named values, each replaced by another one. -/
abbrev mapValues (g : Value → Value) (named : List (String × Value)) : List (String × Value) :=
  named.map (Prod.map id g)

/-- A slot with another value. -/
def Slot.map (g : Value → Value) (s : Slot) : Slot := (s.1, s.2.map g)

/-- What a constructor bound, with other values. -/
def Bound.map (g : Value → Value) (b : Bound) : Bound :=
  { values := b.values.map g, options := mapValues g b.options }

/-- What a layer bound, with other values. -/
def Binding.map (g : Value → Value) (b : Binding) : Binding :=
  { values := mapValues g b.values, collected := mapValues g b.collected }

section MapValues

variable {g : Value → Value}

theorem lookup_mapValues (named : List (String × Value)) (name : String) :
    (mapValues g named).lookup name = (named.lookup name).map g := by
  induction named with
  | nil => rfl
  | cons p rest ih =>
    obtain ⟨key, v⟩ := p
    simp only [mapValues, List.map_cons, Prod.map_apply, id_eq, List.lookup_cons] at ih ⊢
    split
    · rfl
    · exact ih

theorem hasKeyword_mapValues (named : List (String × Value)) (name : String) :
    hasKeyword (mapValues g named) name = hasKeyword named name := by
  simp [hasKeyword, mapValues, List.any_map, Function.comp_def]

theorem bindPositional_map (formals : List Formal) (args : List Value) :
    bindPositional formals (args.map g) = (bindPositional formals args).map (Slot.map g) := by
  induction formals generalizing args with
  | nil => rfl
  | cons f fs ih =>
    cases args with
    | nil => exact congrArg ((f, none) :: ·) (ih [])
    | cons v vs => exact congrArg ((f, some (g v)) :: ·) (ih vs)

theorem fillSlot_map (function name : String) (v : Value) (slots : List Slot) :
    fillSlot function name (g v) (slots.map (Slot.map g)) =
      (fillSlot function name v slots).map (Option.map (List.map (Slot.map g))) := by
  induction slots with
  | nil => rfl
  | cons s rest ih =>
    obtain ⟨formal, value⟩ := s
    simp only [List.map_cons, Slot.map, fillSlot]
    split
    · cases value <;> rfl
    · rw [ih]
      rcases fillSlot function name v rest with e | _ | filled <;> rfl

theorem bindKeywords_map (c : Constructor) (keywords : List (String × Value)) (slots : List Slot)
    (options : List (String × Value)) :
    c.bindKeywords (mapValues g keywords) (slots.map (Slot.map g)) (mapValues g options) =
      (c.bindKeywords keywords slots options).map
        (Prod.map (List.map (Slot.map g)) (mapValues g)) := by
  induction keywords generalizing slots options with
  | nil => rfl
  | cons k rest ih =>
    obtain ⟨name, v⟩ := k
    have hmore : mapValues g options ++ [(name, g v)] = mapValues g (options ++ [(name, v)]) := by
      simp [mapValues]
    simp only [mapValues, List.map_cons, Prod.map_apply, id_eq, Constructor.bindKeywords] at ih ⊢
    rw [fillSlot_map]
    rcases fillSlot c.name name v slots with e | _ | filled
    · rfl
    · change (if c.collects = true then _ else _) = Except.map _ (if c.collects = true then _ else _)
      split
      · exact hmore ▸ ih slots (options ++ [(name, v)])
      · rfl
    · exact ih filled options

theorem Slot.value?_map {s : Slot} (h : ∀ v, s.1.default = some v → g v = v) :
    Slot.value? (s.map g) = (Slot.value? s).map g := by
  obtain ⟨formal, _ | v⟩ := s
  · change formal.default = formal.default.map g
    cases hdefault : formal.default with
    | none => rfl
    | some v => exact congrArg some (h v hdefault).symm
  · rfl

/-- **A constructor does not look at the values it binds**, so other values are bound in the same
way, as long as the defaults are among those that stay. -/
theorem Constructor.bind_map {c : Constructor} {args : List Value}
    {keywords : List (String × Value)} {b : Bound}
    (hdefaults : ∀ f ∈ c.formals, ∀ v, f.default = some v → g v = v)
    (h : c.bind args keywords = .ok b) :
    c.bind (args.map g) (mapValues g keywords) = .ok (b.map g) := by
  obtain ⟨hlength, slots, hslots, hfull, hvalues⟩ := Constructor.bind_iff.1 h
  -- Binding leaves the formals in place, so every slot has one of them.
  have hvalue : ∀ s ∈ slots, Slot.value? (s.map g) = (Slot.value? s).map g := by
    intro s hs
    have hfilled := slotsFilled_of_bindKeywords (List.Subset.refl _) hslots
    obtain ⟨t, ht, hst⟩ := exists_of_forall₂ hfilled.flip hs
    have hformal : t.1 ∈ c.formals := by
      rw [← map_fst_bindPositional c.formals args]
      exact List.mem_map_of_mem ht
    exact Slot.value?_map fun v hv => hdefaults t.1 hformal v (hst.1 ▸ hv)
  have hrun := bindKeywords_map (g := g) c keywords (bindPositional c.formals args) []
  rw [hslots, ← bindPositional_map] at hrun
  refine Constructor.bind_iff.2 ⟨by rwa [List.length_map], slots.map (Slot.map g), hrun, ?_, ?_⟩
  · rw [List.forall_mem_map]
    intro s hs
    rw [hvalue s hs, Option.isSome_map]
    exact hfull s hs
  · rw [Bound.map, hvalues, List.filterMap_map, List.map_filterMap]
    exact (List.filterMap_congr hvalue).symm

theorem bindFromLeft_map (keywords : List (String × Value)) (formals : List LayerFormal)
    (args : List Value) :
    bindFromLeft (mapValues g keywords) formals (args.map g) =
      (bindFromLeft keywords formals args).map (Prod.map (mapValues g) id) := by
  induction formals generalizing args with
  | nil => cases args <;> rfl
  | cons f fs ih =>
    cases args with
    | nil => rfl
    | cons v vs =>
      simp only [List.map_cons, bindFromLeft, hasKeyword_mapValues]
      split
      · rfl
      · split
        · rfl
        · rw [ih]
          rcases bindFromLeft keywords fs vs with e | ⟨bound, left⟩ <;> rfl

theorem bindByName_map {keywords : List (String × Value)} {formals : List LayerFormal}
    (hdefaults : ∀ f ∈ formals, ∀ v, f.default = some v → g v = v) :
    bindByName (mapValues g keywords) formals =
      (bindByName keywords formals).map (mapValues g) := by
  induction formals with
  | nil => rfl
  | cons f fs ih =>
    obtain ⟨hdefault, hrest⟩ := List.forall_mem_cons.1 hdefaults
    simp only [bindByName, lookup_mapValues]
    cases keywords.lookup f.name with
    | some v =>
      simp only [Option.map_some]
      split
      · rfl
      · rw [ih hrest]
        cases bindByName keywords fs <;> rfl
    | none =>
      cases hvalue : f.default with
      | none => rfl
      | some v =>
        simp only [Option.map_none]
        rw [ih hrest]
        cases bindByName keywords fs with
        | error e => rfl
        | ok bound => exact congrArg (fun w => Except.ok ((f.name, w) :: _)) (hdefault v hvalue).symm

/-- **A layer does not look at the values it binds** either. -/
theorem Signature.bind_map {s : Signature} {args : List Value} {keywords : List (String × Value)}
    {b : Binding} (hdefaults : ∀ f ∈ s.formals, ∀ v, f.default = some v → g v = v)
    (h : s.bind args keywords = .ok b) :
    s.bind (args.map g) (mapValues g keywords) = .ok (b.map g) := by
  obtain ⟨bound, left, named, hbound, hnamed, hvalues, hcollected, hallowed⟩ :=
    Signature.bind_iff.1 h
  have hleft := (bindFromLeft_values hbound).2
  refine Signature.bind_iff.2 ⟨mapValues g bound, left, mapValues g named, ?_, ?_, ?_, ?_, ?_⟩
  · rw [bindFromLeft_map, hbound]
    rfl
  · rw [bindByName_map fun f hf => hdefaults f (hleft hf), hnamed]
    rfl
  · rw [Binding.map, hvalues, mapValues, List.map_append]
  · rw [Binding.map, hcollected, mapValues, List.filter_map]
    rfl
  · intro hnone
    rw [Binding.map, hallowed hnone]
    rfl

end MapValues

end Laminar
