import Mathlib
import Laminar.Proofs.Closing

/-!
# Symbols do not leak into values

The registers that a layer is called with, and those that are named for its locals, show up in its
block as symbols and nowhere else.  So two calls that differ in registers only yield the same block
up to symbols: the same callees, keywords, constants and line marks, and deferred expressions that
see the same names.

* `Node.withRegisters ρ` replaces the registers in a tree.
* `Definition.generic`: the actuals under which every input and every local is its own register.
  The block under these actuals is the *pattern* of a call: it knows nothing about registers.
* `Actuals.Fits ρ g a`: what two actuals have in common that differ in registers only.
  `Actuals.Fits.fillBody`: then the body filled in with the one is the body filled in with the
  other, up to registers.
* `Definition.enter_independent_of_symbols` is the theorem.

**Design.** This is a property of two runs, but it is proved of one run at a time: either block is
an instance of the one pattern.  A body cannot tell registers apart, because reading it refuses
inputs and locals inside expressions, and because what a deferred expression takes along is made of
the parameters alone.
-/

namespace Laminar

/-! ### Trees with other registers -/

/-- The value at the place of a register. -/
def Value.atRegister (ρ : String → Value) : Value → Value
  | .str x => ρ x
  | v => v

mutual

/-- A tree in which the registers are replaced. -/
def Node.withRegisters (ρ : String → Value) : Node → Node
  | .symbol name => .symbol (name.atRegister ρ)
  | .parameters entries => .parameters (withRegistersEntries ρ entries)
  | .call callee args => .call callee (withRegistersAll ρ args)
  | .assign target value => .assign (target.withRegisters ρ) (value.withRegisters ρ)
  | .block statements => .block (withRegistersAll ρ statements)
  | n => n
termination_by structural n => n

/-- Trees in which the registers are replaced. -/
def withRegistersAll (ρ : String → Value) : List Node → List Node
  | [] => []
  | n :: ns => n.withRegisters ρ :: withRegistersAll ρ ns
termination_by structural ns => ns

/-- An entry of a parameter block in which the registers are replaced. -/
def Entry.withRegisters (ρ : String → Value) : Entry → Entry
  | .keyword name value => .keyword name (value.withRegisters ρ)
  | .other node => .other (node.withRegisters ρ)
termination_by structural e => e

/-- A parameter block in which the registers are replaced. -/
def withRegistersEntries (ρ : String → Value) : List Entry → List Entry
  | [] => []
  | e :: es => e.withRegisters ρ :: withRegistersEntries ρ es
termination_by structural es => es

end

section Registers

variable {ρ : String → Value}

theorem withRegistersEntries_append (xs ys : List Entry) :
    withRegistersEntries ρ (xs ++ ys) = withRegistersEntries ρ xs ++ withRegistersEntries ρ ys := by
  induction xs with
  | nil => rfl
  | cons e xs ih => exact congrArg (e.withRegisters ρ :: ·) ih

/-- Constants hold no register. -/
theorem withRegistersEntries_constants (named : List (String × Value)) :
    withRegistersEntries ρ (named.map fun k => .keyword (.str k.1) (.const k.2)) =
      named.map fun k => .keyword (.str k.1) (.const k.2) := by
  induction named with
  | nil => rfl
  | cons k named ih => exact congrArg (Entry.keyword (.str k.1) (.const k.2) :: ·) ih

theorem withRegistersAll_withParameters {α : Type} (keywords : List α) (entries : List Entry)
    (args : List Node) :
    withRegistersAll ρ (Definition.withParameters keywords entries args) =
      Definition.withParameters keywords (withRegistersEntries ρ entries)
        (withRegistersAll ρ args) := by
  rw [Definition.withParameters, Definition.withParameters]
  split
  · rfl
  · rfl

end Registers

/-! ### Actuals that differ in registers only -/

/-- Under the actuals `g` every input and local of a layer is its own register, and under `a` it is
the register that `ρ` says.  All else is the same. -/
structure Actuals.Fits (d : Definition) (ρ : String → Value) (g a : Actuals) : Prop where
  generic : ∀ x ∈ d.symbolNames, g.get x = .ok (.str x)
  symbol : ∀ x ∈ d.symbolNames, a.get x = .ok (ρ x)
  parameter : ∀ p ∉ d.symbolNames,
    p ∈ d.signature.parameterNames ∨ d.signature.collector = some p → a.get p = g.get p
  collected : d.signature.collector.isSome → a.collected = g.collected
  visible : a.visible = g.visible

namespace Actuals.Fits

variable {d : Definition} {ρ : String → Value} {g a : Actuals} (hcovered : d.Covered)
  (h : Fits d ρ g a) (globals : ScopeId)

include hcovered h

theorem fillTerm {t : Term} (ht : t ∈ d.terms) :
    Definition.fillTerm globals a t =
      (Definition.fillTerm globals g t).map (·.withRegisters ρ) := by
  cases t with
  | symbol x =>
    have hx := hcovered.symbol x ht
    rw [Definition.fillTerm, Definition.fillTerm, h.symbol x hx, h.generic x hx]
    rfl
  | parameter p =>
    obtain ⟨hfresh, hp⟩ := hcovered.parameter p ht
    rw [Definition.fillTerm, Definition.fillTerm, h.parameter p hfresh hp]
    cases g.get p with
    | ok v => rfl
    | error e => rfl
  | literal v => rfl
  | deferred text e =>
    rw [Definition.fillTerm, Definition.fillTerm, h.visible]
    rfl

theorem fillTerms {ts : List Term} (hts : ∀ t ∈ ts, t ∈ d.terms) :
    Definition.fillTerms globals a ts =
      (Definition.fillTerms globals g ts).map (withRegistersAll ρ) := by
  induction ts with
  | nil => rfl
  | cons t ts ih =>
    obtain ⟨ht, hrest⟩ := List.forall_mem_cons.1 hts
    rw [Definition.fillTerms, Definition.fillTerms, h.fillTerm hcovered globals ht, ih hrest]
    cases Definition.fillTerm globals g t with
    | error e => rfl
    | ok node =>
      cases Definition.fillTerms globals g ts with
      | error e => rfl
      | ok nodes => rfl

theorem fillKeywords {ks : List KeywordTerm}
    (hks : ∀ t ∈ ks.filterMap KeywordTerm.term?, t ∈ d.terms)
    (hforward : .forward ∈ ks → d.signature.collector.isSome) :
    Definition.fillKeywords globals a ks =
      (Definition.fillKeywords globals g ks).map (withRegistersEntries ρ) := by
  induction ks with
  | nil => rfl
  | cons k ks ih =>
    have later : .forward ∈ ks → d.signature.collector.isSome :=
      fun hmem => hforward (List.mem_cons_of_mem _ hmem)
    cases k with
    | named key t =>
      obtain ⟨ht, hrest⟩ := List.forall_mem_cons.1 hks
      rw [Definition.fillKeywords, Definition.fillKeywords, h.fillTerm hcovered globals ht,
        ih hrest later]
      cases Definition.fillTerm globals g t with
      | error e => rfl
      | ok node =>
        cases Definition.fillKeywords globals g ks with
        | error e => rfl
        | ok entries => rfl
    | forward =>
      have hcollected := h.collected (hforward (List.mem_cons_self ..))
      rw [Definition.fillKeywords, Definition.fillKeywords, ih hks later, hcollected]
      cases Definition.fillKeywords globals g ks with
      | error e => rfl
      | ok entries =>
        refine congrArg Except.ok ?_
        rw [withRegistersEntries_append, withRegistersEntries_constants]

/-- A callee is no register. -/
theorem fillCallee (hdisjoint : ∀ p ∈ d.signature.parameterNames, p ∉ d.signature.inputs)
    {s : BodyStatement} (hs : s ∈ d.body) :
    Definition.fillCallee a s.call.callee = Definition.fillCallee g s.call.callee := by
  cases hcallee : s.call.callee with
  | fixed name => rfl
  | parameter p =>
    have hp := hcovered.callee s hs p hcallee
    have hfresh : p ∉ d.symbolNames := by
      intro hmem
      rcases List.mem_append.1 hmem with hinput | hlocal
      · exact hdisjoint p hp hinput
      · exact hcovered.not_local (.inr hp) hlocal
    rw [Definition.fillCallee, Definition.fillCallee, h.parameter p hfresh (.inl hp)]

/-- **A body that is filled in knows registers only by their places.** -/
theorem fillBody (hdisjoint : ∀ p ∈ d.signature.parameterNames, p ∉ d.signature.inputs)
    (file : SourceFile) {body : List BodyStatement} (hbody : ∀ s ∈ body, s ∈ d.body) :
    Definition.fillBody file globals a body =
      (Definition.fillBody file globals g body).map (withRegistersAll ρ) := by
  induction body with
  | nil => rfl
  | cons s rest ih =>
    obtain ⟨hs, hrest⟩ := List.forall_mem_cons.1 hbody
    have htarget : s.target ∈ d.symbolNames := List.mem_append_right _ (List.mem_map_of_mem hs)
    have hnamed := fun t => Definition.mem_terms_of_keyword (t := t) hs
    have hpositional := fun t => Definition.mem_terms_of_argument (t := t) hs
    rw [Definition.fillBody, Definition.fillBody, Definition.fillCall, Definition.fillCall,
      h.symbol _ htarget, h.generic _ htarget, h.fillCallee hcovered hdisjoint hs,
      h.fillKeywords hcovered globals hnamed (hcovered.forward s hs),
      h.fillTerms hcovered globals hpositional, ih hrest]
    cases Definition.fillCallee g s.call.callee with
    | error e => rfl
    | ok callee =>
      cases Definition.fillKeywords globals g s.call.keywords with
      | error e => rfl
      | ok entries =>
        cases Definition.fillTerms globals g s.call.args with
        | error e => rfl
        | ok args =>
          cases Definition.fillBody file globals g rest with
          | error e => rfl
          | ok others =>
            have hargs := withRegistersAll_withParameters (ρ := ρ) s.call.keywords entries args
            exact congrArg (fun x => Except.ok (.line s.line file ::
              .assign (.symbol (ρ s.target)) (.call callee x) :: withRegistersAll ρ others))
              hargs.symm

end Actuals.Fits

/-! ### The pattern of a call -/

/-- The register that a name stands for. -/
def Actuals.register (a : Actuals) (x : String) : Value := (a.values.lookup x).getD .null

theorem Actuals.register_of_get {a : Actuals} {x : String} {v : Value} (h : a.get x = .ok v) :
    a.register x = v := by
  rw [Actuals.get] at h
  rw [Actuals.register]
  cases hlookup : a.values.lookup x with
  | none =>
    rw [hlookup] at h
    exact absurd h throw_ne_ok
  | some w =>
    rw [hlookup] at h
    exact pure_eq_ok.1 h

namespace Definition

variable {d : Definition} {b b' : Binding} {closure : List (String × Value)} {out : String}
  {n : Int}

/-- The actuals under which every input and every local is its own register. -/
def generic (d : Definition) (b : Binding) (closure : List (String × Value)) : Actuals :=
  { d.actuals b closure d.output 0 with
    values := d.symbolNames.map (fun x => (x, .str x)) ++ (b.values ++ d.collectorEntry b) }

/-- Names that stand for themselves are looked up to themselves. -/
theorem lookup_self (names : List String) (x : String) :
    (names.map fun y => (y, Value.str y)).lookup x = if x ∈ names then some (.str x) else none := by
  induction names with
  | nil => rfl
  | cons y names ih =>
    rw [List.map_cons, List.lookup_cons, ih]
    by_cases hxy : x = y
    · subst hxy
      simp
    · simp [hxy, beq_eq_false_iff_ne.2 hxy]

theorem get_generic_of_mem {x : String} (h : x ∈ d.symbolNames) :
    (d.generic b closure).get x = .ok (.str x) := by
  have hlookup : (d.generic b closure).values.lookup x = some (.str x) := by
    rw [generic, List.lookup_append, lookup_self, if_pos h, Option.some_or]
  rw [Actuals.get, hlookup]
  rfl

theorem lookup_generic_of_not_mem {x : String} (h : x ∉ d.symbolNames) :
    (d.generic b closure).values.lookup x =
      (b.get? x).or ((d.collectorEntry b).lookup x) := by
  rw [generic, List.lookup_append, lookup_self, if_neg h, Option.none_or, List.lookup_append,
    Binding.get?]

/-- What is collected can be read off the value of the collector. -/
theorem collected_eq_of_collectorEntry (hcollector : d.signature.collector.isSome)
    (h : d.collectorEntry b = d.collectorEntry b') : b.collected = b'.collected := by
  obtain ⟨name, hname⟩ := Option.isSome_iff_exists.1 hcollector
  simp only [collectorEntry, hname, collectedValue, List.cons.injEq, Prod.mk.injEq, true_and,
    and_true, Value.kept.injEq, Value.dict.injEq] at h
  refine List.map_injective_iff.2 ?_ h.2
  intro k k' hk
  simp only [Prod.mk.injEq, Value.kept.injEq, Value.str.injEq, true_and] at hk
  exact Prod.ext hk.1 hk.2

/-- **A call fits the pattern of another** that differs from it in registers only. -/
theorem fits_actuals (haccepted : d.Accepted) (hbound : d.signature.BoundBy b)
    (hbound' : d.signature.BoundBy b')
    (hparameters : ∀ p ∈ d.signature.parameterNames, b.get? p = b'.get? p)
    (hcollected : d.collectorEntry b = d.collectorEntry b') (closure : List (String × Value))
    (out : String) (n : Int) :
    Actuals.Fits d (d.actuals b' closure out n).register (d.generic b closure)
      (d.actuals b' closure out n) where
  generic := fun x hx => get_generic_of_mem hx
  symbol := by
    intro x hx
    have hname : x ∈ d.locals ∨ x ∈ d.signature.names := by
      rcases List.mem_append.1 hx with hinput | hlocal
      · exact .inr (List.mem_append_left _ (List.mem_append_left _ hinput))
      · exact .inl hlocal
    obtain ⟨v, hget⟩ := get_isOk haccepted.wellFormed.nodup_locals hbound' hname
    rw [hget, Actuals.register_of_get hget]
  parameter := by
    intro p hfresh hp
    have hlocal : p ∉ d.locals := fun hlocal => hfresh (List.mem_append_right _ hlocal)
    have hvalue : b'.get? p = b.get? p := by
      by_cases hparameter : p ∈ d.signature.parameterNames
      · exact (hparameters p hparameter).symm
      · have hinput : p ∉ d.signature.inputs := fun hinput =>
          hfresh (List.mem_append_left _ hinput)
        rw [hbound.get?_eq_none hinput hparameter, hbound'.get?_eq_none hinput hparameter]
    rw [Actuals.get, Actuals.get, lookup_of_not_local hlocal, lookup_generic_of_not_mem hfresh,
      hvalue, hcollected]
  collected := fun hcollector => (collected_eq_of_collectorEntry hcollector hcollected).symm
  visible := by
    have hvalues : d.signature.parameterNames.filterMap (fun p => (b'.get? p).map fun v => (p, v)) =
        d.signature.parameterNames.filterMap fun p => (b.get? p).map fun v => (p, v) :=
      List.filterMap_congr fun p hp => by rw [hparameters p hp]
    change closure ++ _ ++ d.collectorEntry b' = closure ++ _ ++ d.collectorEntry b
    rw [hvalues, hcollected]

/-- A term becomes a register only if it is a symbol. -/
theorem symbol_of_fillTerm (hcovered : d.Covered) {globals : ScopeId} {t : Term} (ht : t ∈ d.terms)
    {v : Value} (h : fillTerm globals (d.generic b closure) t = .ok (.symbol v)) :
    ∃ x ∈ d.symbolNames, v = .str x := by
  cases t with
  | symbol x =>
    have hx := hcovered.symbol x ht
    rw [fillTerm, get_generic_of_mem hx] at h
    cases h
    exact ⟨x, hx, rfl⟩
  | parameter p =>
    obtain ⟨w, -, hw⟩ := bind_eq_ok.1 h
    cases pure_eq_ok.1 hw
  | literal w => cases pure_eq_ok.1 h
  | deferred text e => cases pure_eq_ok.1 h

/-- **The registers in a pattern** are the inputs and locals of the layer. -/
theorem symbol_of_generic (hcovered : d.Covered) {body : List BodyStatement}
    (hbody : ∀ s ∈ body, s ∈ d.body) {statements : List Node}
    (h : fillBody d.file d.surroundings.globals (d.generic b closure) body = .ok statements)
    {v : Value} (hv : .symbol v ∈ leavesAll statements) : ∃ x ∈ d.symbolNames, v = .str x := by
  induction body generalizing statements with
  | nil =>
    cases pure_eq_ok.1 h
    cases hv
  | cons s rest ih =>
    obtain ⟨hs, hrest⟩ := List.forall_mem_cons.1 hbody
    obtain ⟨call, others, hfilled, hothers, rfl⟩ := fillBody_cons_eq_ok h
    obtain ⟨callee, hcallee, -⟩ := hfilled.callee_eq_str
    have htarget : s.target ∈ d.symbolNames := List.mem_append_right _ (List.mem_map_of_mem hs)
    -- The line mark, the target, the callee, the arguments, and what follows.
    rcases List.mem_append.1 hv with hv | hv
    · cases List.mem_singleton.1 hv
    rcases List.mem_append.1 hv with hv | hv
    swap
    · exact ih hrest hothers hv
    rcases List.mem_append.1 hv with hv | hv
    · cases List.mem_singleton.1 hv
      have houtput := hfilled.target
      rw [get_generic_of_mem htarget] at houtput
      exact ⟨s.target, htarget, (Except.ok.inj houtput).symm⟩
    rcases List.mem_cons.1 hv with hv | hv
    · rw [hcallee] at hv
      cases hv
    · have hargument := hfilled.ordinaryArguments.mem_argumentNodes hv
      rcases hfilled.nodes _ hargument with ⟨t, ht, hfill⟩ | ⟨k, -, heq⟩
      · exact symbol_of_fillTerm hcovered (mem_terms.2 ⟨s, hs, ht⟩) hfill
      · cases heq

/-- The result of entering a layer is an instance of a pattern: what the inputs and locals stand for
is put in, unless a number for a local is too long to be part of a name. -/
structure Instantiates (d : Definition) (pattern : Except Failure Node) (b : Binding) (out : String)
    (n : Int) (result : Except Failure Node) (ρ : String → Value) : Prop where
  inputs : ∀ x ∈ d.signature.inputs, b.get? x = some (ρ x)
  locals : d.locals.map ρ = d.registers out n
  mintable : firstUnwritable d.inner.length n = none → result = pattern.map (·.withRegisters ρ)
  unmintable : firstUnwritable d.inner.length n ≠ none → result = .error (.fault .digitLimit)

/-- Entering a layer instantiates the pattern of any call that differs in registers only. -/
theorem instantiates_enter (haccepted : d.Accepted)
    (hdisjoint : ∀ p ∈ d.signature.parameterNames, p ∉ d.signature.inputs)
    (hbound : d.signature.BoundBy b) (hbound' : d.signature.BoundBy b')
    (hparameters : ∀ p ∈ d.signature.parameterNames, b.get? p = b'.get? p)
    (hcollected : d.collectorEntry b = d.collectorEntry b') (closure : List (String × Value))
    (out : String) (n : Int) :
    d.Instantiates
      ((fillBody d.file d.surroundings.globals (d.generic b closure) d.body).map .block)
      b' out n (d.enter b' closure out n) (d.actuals b' closure out n).register where
  inputs := by
    intro x hx
    have hlocal : x ∉ d.locals := haccepted.covered.not_local (.inl hx)
    obtain ⟨v, hv⟩ := hbound'.exists_get? (.inl hx)
    have hget : (d.actuals b' closure out n).get x = .ok v := get_formal hlocal hv
    rw [hv, Actuals.register_of_get hget]
  locals := by
    have hlocals : List.Forall₂ (fun x v => (d.actuals b' closure out n).get x = .ok v) d.locals
        (d.registers out n) := get_locals haccepted.wellFormed.nodup_locals
    rw [← List.forall₂_eq_eq_eq, List.forall₂_map_left_iff]
    exact hlocals.imp fun x v hget => Actuals.register_of_get hget
  mintable := by
    intro hfirst
    have hfits := fits_actuals haccepted hbound hbound' hparameters hcollected closure out n
    rw [enter, hfirst, if_neg (by simp), instantiate,
      hfits.fillBody haccepted.covered d.surroundings.globals hdisjoint d.file fun s hs => hs]
    cases fillBody d.file d.surroundings.globals (d.generic b closure) d.body with
    | error e => rfl
    | ok statements => rfl
  unmintable := by
    intro hfirst
    rw [enter, if_pos (Option.isSome_iff_ne_none.2 hfirst)]

/-- **Symbols do not leak into values.** Take two bindings of the formals of an accepted layer that
agree on the parameters and on what is collected, two outputs and two counters.  Then there is one
pattern, with no registers in it but the inputs and locals of the layer, each under its own name,
and either call yields the pattern with its own registers in their places.  The pattern may be a
failure, which either call then fails with.  The one exception is a counter whose numbers are too
long to be part of a name. -/
theorem enter_independent_of_symbols (haccepted : d.Accepted)
    (hdisjoint : ∀ p ∈ d.signature.parameterNames, p ∉ d.signature.inputs)
    (hbound : d.signature.BoundBy b) (hbound' : d.signature.BoundBy b')
    (hparameters : ∀ p ∈ d.signature.parameterNames, b.get? p = b'.get? p)
    (hcollected : d.collectorEntry b = d.collectorEntry b') (closure : List (String × Value))
    (out out' : String) (n n' : Int) :
    ∃ pattern : Except Failure Node,
      (∀ r, pattern = .ok r → ∀ v, .symbol v ∈ r.leaves → ∃ x ∈ d.symbolNames, v = .str x) ∧
      (∃ ρ, d.Instantiates pattern b out n (d.enter b closure out n) ρ) ∧
      ∃ ρ, d.Instantiates pattern b' out' n' (d.enter b' closure out' n') ρ := by
  refine ⟨_, ?_, ⟨_, instantiates_enter haccepted hdisjoint hbound hbound (fun _ _ => rfl) rfl
    closure out n⟩, ⟨_, instantiates_enter haccepted hdisjoint hbound hbound' hparameters hcollected
    closure out' n'⟩⟩
  intro r hr v hv
  obtain ⟨statements, hfill, rfl⟩ := map_eq_ok.1 hr
  exact symbol_of_generic haccepted.covered (fun s hs => hs) hfill hv

/-! ### A counter that has run out of names -/

/-- A call of the layer `wf` with an input. -/
def boundInput (x : String) : Binding :=
  ⟨[("x", .str x), ("f", .str "tanh")], [("out", .int 3)]⟩

/-- **The layer `wf` called twice**, with other registers and from another counter.  Either call
yields the one pattern with its own registers, but the second counter stands at a number of 4301
digits, and no register can be named after it. -/
theorem wf_independent_of_symbols :
    (Standard.wf.enter (boundInput "a") [] "b" 7).isOk = true ∧
    Standard.wf.enter (boundInput "c") [] "d" (10 ^ 4300) = .error (.fault .digitLimit) ∧
    ∃ pattern : Except Failure Node,
      (∀ r, pattern = .ok r → ∀ v, .symbol v ∈ r.leaves →
        ∃ x ∈ Standard.wf.symbolNames, v = .str x) ∧
      (∃ ρ, Standard.wf.Instantiates pattern (boundInput "a") "b" 7
        (Standard.wf.enter (boundInput "a") [] "b" 7) ρ) ∧
      ∃ ρ, Standard.wf.Instantiates pattern (boundInput "c") "d" (10 ^ 4300)
        (Standard.wf.enter (boundInput "c") [] "d" (10 ^ 4300)) ρ := by
  have hfirst : firstUnwritable Standard.wf.inner.length 7 = none := by decide +kernel
  have hlong : (firstUnwritable Standard.wf.inner.length (10 ^ 4300)).isSome = true := by
    decide +kernel
  have hdisjoint : ∀ p ∈ Standard.wf.signature.parameterNames,
      p ∉ Standard.wf.signature.inputs := by decide
  have hparameters : ∀ p ∈ Standard.wf.signature.parameterNames,
      (boundInput "a").get? p = (boundInput "c").get? p := by
    intro p hp
    obtain rfl : p = "f" := List.mem_singleton.1 hp
    rfl
  have hbound (x : String) : Standard.wf.signature.BoundBy (boundInput x) := rfl
  have hcollected : Standard.wf.collectorEntry (boundInput "a") =
      Standard.wf.collectorEntry (boundInput "c") := rfl
  refine ⟨?_, ?_, ?_⟩
  · rw [Definition.enter, hfirst]
    rfl
  · rw [Definition.enter, if_pos hlong]
  · exact enter_independent_of_symbols Standard.accepted_wf hdisjoint (hbound "a") (hbound "c")
      hparameters hcollected [] "b" "d" 7 (10 ^ 4300)

end Definition

end Laminar
