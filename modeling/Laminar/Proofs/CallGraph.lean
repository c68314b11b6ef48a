import Mathlib
import Laminar.Proofs.Comparison
import Laminar.Proofs.Location
import Laminar.Proofs.Unfolding

/-!
# When expansion ends

A call of a layer is replaced by the calls of its body, and nothing in the text of a call gets
smaller on the way.  What bounds the expansion is the *call graph*: an edge leads from a layer to
each callee that is written in its body.  The theory is about registries in which callees are
written out; where a parameter is called, its value decides, and there is no such graph.

* `Registry.Calls` is the graph, `Registry.AcyclicFrom` says that the part of it that is reached
  from a name has no cycle, and `Registry.layers` lists the names of layers.
* **No cycle, no limit.** `chain_of_endless`: an expansion that runs into its limit has followed the
  graph for as many steps.  Without a cycle it would have passed through that many different layers
  (`length_le_layers_of_chain`), so a limit beyond their number is never reached.
* **No program with a cycle.** `Unfoldable.of_calls`: a call that is compiled has compiled every
  call of the body, one level less deep.  Around a cycle the depth would fall for ever.
* `compileCall_ends` puts both together.
-/

namespace Laminar

/-! ### The graph -/

/-- The name that is written as a callee. -/
def CalleeTerm.name? : CalleeTerm → Option String
  | .fixed name => some name
  | .parameter _ => none

/-- The callees that are written in the body of a layer, in order. -/
def Definition.callees (d : Definition) : List String :=
  d.body.filterMap fun s => s.call.callee.name?

/-- The layer that a generator stands for. -/
def Generator.layer? (g : Generator) : Option Definition :=
  match g.body with
  | .composite d => some d
  | _ => none

namespace Registry

/-- The layer under a name. -/
def layer? (r : Registry) (name : String) : Option Definition := (r.get? name).bind Generator.layer?

/-- The names of the layers, in the order they came in. -/
def layers (r : Registry) : List String := r.names.filter fun name => (r.layer? name).isSome

/-- **The call graph**: a layer calls the callees that are written in its body. -/
def Calls (r : Registry) (caller callee : String) : Prop :=
  ∃ d, r.layer? caller = some d ∧ callee ∈ d.callees

/-- The part of the call graph that is reached from a name has no cycle. -/
def AcyclicFrom (r : Registry) (name : String) : Prop :=
  ∀ m, Relation.ReflTransGen r.Calls name m → ¬ Relation.TransGen r.Calls m m

/-- No layer calls a parameter. -/
def CalleesWritten (r : Registry) : Prop :=
  ∀ d, r.Holds d → ∀ s ∈ d.body, ∃ name, s.call.callee = .fixed name

variable {r : Registry}

/-- A name stands for one generator. -/
theorem Names.unique {callee : Value} {body body' : GeneratorBody} (h : r.Names callee body)
    (h' : r.Names callee body') : body = body' := by
  obtain ⟨name, g, hname, hget, rfl⟩ := h
  obtain ⟨name', g', hname', hget', rfl⟩ := h'
  rw [hname] at hname'
  cases hname'
  rw [hget] at hget'
  cases hget'
  rfl

theorem layer?_eq_some {name : String} {d : Definition} :
    r.layer? name = some d ↔ r.Names (.str name) (.composite d) := by
  rw [layer?, Option.bind_eq_some_iff]
  constructor
  · rintro ⟨g, hget, hlayer⟩
    refine ⟨name, g, rfl, hget, ?_⟩
    unfold Generator.layer? at hlayer
    split at hlayer
    · rename_i e hbody
      rw [hbody, Option.some.inj hlayer]
    · cases hlayer
  · rintro ⟨name', g, hname, hget, hbody⟩
    cases hname
    exact ⟨g, hget, by rw [Generator.layer?, hbody]⟩

theorem mem_layers_of_calls {caller callee : String} (h : r.Calls caller callee) :
    caller ∈ r.layers := by
  obtain ⟨d, hlayer, -⟩ := h
  obtain ⟨name, g, hname, hget, -⟩ := layer?_eq_some.1 hlayer
  cases hname
  refine List.mem_filter.2 ⟨?_, by rw [hlayer]; rfl⟩
  rw [← Table.isSome_get?_iff, hget]
  rfl

end Registry

theorem Definition.mem_callees {d : Definition} {name : String} :
    name ∈ d.callees ↔ ∃ s ∈ d.body, s.call.callee = .fixed name := by
  rw [Definition.callees, List.mem_filterMap]
  refine exists_congr fun s => and_congr_right' ?_
  cases s.call.callee with
  | fixed other => simp [CalleeTerm.name?]
  | parameter p => simp [CalleeTerm.name?]

/-- A callee that is written out stays as it is when its statement is filled in. -/
theorem Filled.callee_of_fixed {d : Definition} {a : Actuals} {s : BodyStatement} {call : Pending}
    {name : String} (h : Filled d a s call) (hname : s.call.callee = .fixed name) :
    call.callee = .str name := by
  have hcallee := h.callee
  rw [hname] at hcallee
  exact (pure_eq_ok.1 hcallee).symm

/-! ### Expansions that run into their limit -/

/-- Without a cycle, a chain of calls is no longer than there are layers. -/
theorem length_le_layers_of_chain {r : Registry} {name : String} {path : List String}
    (hacyclic : r.AcyclicFrom name) (hchain : List.IsChain r.Calls (name :: path)) :
    path.length ≤ r.layers.length := by
  have hpairs : List.Pairwise (Relation.TransGen r.Calls) (name :: path) :=
    List.isChain_iff_pairwise.1 (hchain.imp fun _ _ h => .single h)
  have hreached : ∀ m ∈ name :: path, Relation.ReflTransGen r.Calls name m := by
    rw [List.forall_mem_cons]
    exact ⟨.refl, fun m hm => ((List.pairwise_cons.1 hpairs).1 m hm).to_reflTransGen⟩
  -- Every name but the last one calls the next, so these are layers, and no two are the same.
  have hnodup : (name :: path).dropLast.Nodup := by
    have hdistinct : List.Pairwise (· ≠ ·) (name :: path) := by
      refine hpairs.imp_of_mem fun {m m'} hm _ hbetween heq => ?_
      subst heq
      exact hacyclic m (hreached m hm) hbetween
    exact hdistinct.sublist (List.dropLast_sublist _)
  have hsubset : (name :: path).dropLast ⊆ r.layers := by
    intro m hm
    obtain ⟨m', -, hcalls⟩ := exists_of_forall₂ (List.isChain_iff_forall₂.1 hchain) hm
    exact Registry.mem_layers_of_calls hcalls
  have hlength := (List.subperm_of_subset hnodup hsubset).length_le
  rwa [List.length_dropLast, List.length_cons, Nat.add_sub_cancel] at hlength

section Compiler

variable {lib : Library}

/-- **An expansion that runs into its limit has followed the call graph that far.** -/
theorem chain_of_endless (hr : lib.registry.Ordinary) (hwritten : lib.registry.CalleesWritten)
    {depth : Nat} {name : String} {args : List Node} {output : Value} {c c' : Compiler}
    (hargs : OrdinaryArguments args)
    (h : (resolveCall lib depth (.str name) args output).run c = (.error .endless, c')) :
    ∃ path, path.length = depth ∧ List.IsChain lib.registry.Calls (name :: path) := by
  induction depth generalizing name args output c c' with
  | zero => exact ⟨[], rfl, .singleton name⟩
  | succ depth ih =>
    rcases resolveCall_eq_error h with ⟨e, after, hcall, heq⟩ | ⟨o, after, hcall, hrest⟩
    · -- What a single call fails with is told or a fault, never the limit.
      rcases expandCall_eq_error hr hargs hcall with ⟨dg, rfl, -⟩ | ⟨-, rfl⟩ <;> cases heq
    · obtain ⟨values, named, c₁, -, hcases⟩ := expandCall_cases hr hcall
      rcases hcases with ⟨p, i, -, rfl, -, -⟩ | ⟨d, b, out, statements, hd, rfl, -, -, -, hfill⟩
      · exact absurd hrest run_pure_ne_error
      · obtain ⟨c'', hbody⟩ := withFrame_eq_error hrest
        obtain ⟨s, hs, inner, u, u', hfilled, -, hinner⟩ :=
          fails_of_fillBody (frames_of_resolveCall hr) hfill rfl hbody
        obtain ⟨callee, hcallee⟩ := hwritten d hd.holds s hs
        rw [hfilled.callee_of_fixed hcallee] at hinner
        obtain ⟨path, hlength, hchain⟩ := ih hfilled.ordinaryArguments hinner
        have hcalls : lib.registry.Calls name callee :=
          ⟨d, Registry.layer?_eq_some.2 hd, Definition.mem_callees.2 ⟨s, hs, hcallee⟩⟩
        exact ⟨callee :: path, congrArg (· + 1) hlength, List.isChain_cons_cons.2 ⟨hcalls, hchain⟩⟩

/-- **Without a cycle, a limit beyond the number of layers is never reached.** -/
theorem resolveCall_ne_endless (hr : lib.registry.Ordinary)
    (hwritten : lib.registry.CalleesWritten) {name : String}
    (hacyclic : lib.registry.AcyclicFrom name) {depth : Nat}
    (hdepth : lib.registry.layers.length < depth) {args : List Node}
    (hargs : OrdinaryArguments args) (output : Value) (c c' : Compiler) :
    (resolveCall lib depth (.str name) args output).run c ≠ (.error .endless, c') := by
  intro h
  obtain ⟨path, rfl, hchain⟩ := chain_of_endless hr hwritten hargs h
  exact absurd (length_le_layers_of_chain hacyclic hchain) (Nat.not_le.2 hdepth)

/-! ### Expansions that succeed -/

/-- Some call of a name unfolds with layers nested less than `depth` deep. -/
def Unfoldable (lib : Library) (depth : Nat) (name : String) : Prop :=
  ∃ args output c log prog c', Unfolds lib depth [⟨.str name, args, output⟩] c log prog c'

namespace Unfoldable

variable {depth : Nat} {name m : String}

theorem registered (h : Unfoldable lib depth name) : (lib.registry.get? name).isSome := by
  have hnamed {body : GeneratorBody} (hbody : lib.registry.Names (.str name) body) :
      (lib.registry.get? name).isSome := by
    obtain ⟨name', g, hname, hget, -⟩ := hbody
    cases hname
    rw [hget]
    rfl
  obtain ⟨args, output, c, log, prog, c', h⟩ := h
  cases h with
  | primitive _ callee => exact hnamed callee
  | layer _ callee => exact hnamed callee

/-- **A layer that unfolds has unfolded its callees**, one level less deep. -/
theorem of_calls (h : Unfoldable lib depth name) (hcalls : lib.registry.Calls name m) :
    ∃ k < depth, Unfoldable lib k m := by
  obtain ⟨e, hlayer, hm⟩ := hcalls
  have hnamed := Registry.layer?_eq_some.1 hlayer
  obtain ⟨args, output, c, log, prog, c', h⟩ := h
  cases h with
  | primitive _ callee => cases callee.unique hnamed
  | @layer k _ _ body _ _ _ _ _ _ d _ _ _ _ _ _ _ callee _ filled within =>
    cases callee.unique hnamed
    obtain ⟨s, hs, hcallee⟩ := Definition.mem_callees.1 hm
    obtain ⟨⟨callee, args, output⟩, hcall, hfilled⟩ := exists_of_forall₂ filled hs
    obtain rfl : callee = .str m := hfilled.callee_of_fixed hcallee
    obtain ⟨before, inside, part, after, hunfolds⟩ := within.of_mem hcall
    exact ⟨k, Nat.lt_succ_self k, args, output, before, inside, part, after, hunfolds⟩

theorem of_transGen (h : Unfoldable lib depth name)
    (hpath : Relation.TransGen lib.registry.Calls name m) : ∃ k < depth, Unfoldable lib k m := by
  induction hpath with
  | single hcalls => exact h.of_calls hcalls
  | tail _ hcalls ih =>
    obtain ⟨k, hk, hmiddle⟩ := ih
    obtain ⟨k', hk', hend⟩ := hmiddle.of_calls hcalls
    exact ⟨k', hk'.trans hk, hend⟩

/-- What is reached from a name that unfolds does unfold. -/
theorem of_reflTransGen (h : Unfoldable lib depth name)
    (hpath : Relation.ReflTransGen lib.registry.Calls name m) : ∃ k, Unfoldable lib k m := by
  rcases Relation.reflTransGen_iff_eq_or_transGen.1 hpath with rfl | hpath
  · exact ⟨depth, h⟩
  · obtain ⟨k, -, hm⟩ := h.of_transGen hpath
    exact ⟨k, hm⟩

/-- **No name that unfolds lies on a cycle**: the depth would fall for ever. -/
theorem not_cyclic (h : Unfoldable lib depth name) :
    ¬ Relation.TransGen lib.registry.Calls name name := by
  intro hcycle
  induction depth using Nat.strong_induction_on with
  | _ depth ih =>
    obtain ⟨k, hk, hagain⟩ := h.of_transGen hcycle
    exact ih k hk hagain

theorem acyclicFrom (h : Unfoldable lib depth name) : lib.registry.AcyclicFrom name := by
  intro m hpath
  obtain ⟨k, hm⟩ := h.of_reflTransGen hpath
  exact hm.not_cyclic

end Unfoldable

theorem unfoldable_of_compileCall (hr : lib.registry.Ordinary) {depth : Nat} {name : String}
    {inputs : List Value} {output : Value} {params : List (String × Value)} {c c' : Compiler}
    {prog : Program}
    (h : (compileCall lib depth (.str name) inputs output params).run c = (.ok prog, c')) :
    Unfoldable lib depth name := by
  obtain ⟨log, hunfolds⟩ := unfolds_of_compileCall hr h
  exact ⟨_, _, _, _, _, _, hunfolds⟩

/-! ### Calls from outside -/

/-- Without a cycle, every limit beyond the number of layers gives the same outcome. -/
theorem compileCall_of_acyclicFrom (hr : lib.registry.Ordinary)
    (hwritten : lib.registry.CalleesWritten) {name : String}
    (hacyclic : lib.registry.AcyclicFrom name) {depth : Nat}
    (hdepth : lib.registry.layers.length < depth) (inputs : List Value) (output : Value)
    (params : List (String × Value)) (c : Compiler) :
    (compileCall lib depth (.str name) inputs output params).run c =
      (compileCall lib (lib.registry.layers.length + 1) (.str name) inputs output params).run
        c := by
  rw [run_compileCall, run_compileCall]
  refine settles_resolveCall (Nat.succ_le_of_lt hdepth) _ _ _ _ fun hends => ?_
  exact resolveCall_ne_endless hr hwritten hacyclic (Nat.lt_succ_self _)
    (ordinaryArguments_callArguments inputs params) output _ _ (Prod.ext hends rfl)

/-- **When expansion ends.** In a registry where no layer calls a parameter, consider the call graph
as far as it is reached from a name.

If it has no cycle, a call of the name ends: with layers nested no deeper than there are layers it
returns or fails, and a higher limit changes nothing.

If a call of the name returns a program, it has no cycle, and everything in it is registered.

The expressions that layers defer are taken to end by themselves, as all expressions of `evalExpr`
do. -/
theorem compileCall_ends (hr : lib.registry.Ordinary) (hwritten : lib.registry.CalleesWritten)
    (name : String) (inputs : List Value) (output : Value) (params : List (String × Value))
    (c : Compiler) :
    (lib.registry.AcyclicFrom name →
      ∀ depth, lib.registry.layers.length < depth →
        (∀ c', (compileCall lib depth (.str name) inputs output params).run c ≠
          (.error .endless, c')) ∧
        (compileCall lib depth (.str name) inputs output params).run c =
          (compileCall lib (lib.registry.layers.length + 1) (.str name) inputs output params).run
            c) ∧
    ∀ depth prog c',
      (compileCall lib depth (.str name) inputs output params).run c = (.ok prog, c') →
        lib.registry.AcyclicFrom name ∧
        ∀ m, Relation.ReflTransGen lib.registry.Calls name m → (lib.registry.get? m).isSome := by
  constructor
  · intro hacyclic depth hdepth
    refine ⟨fun c' => ?_, compileCall_of_acyclicFrom hr hwritten hacyclic hdepth ..⟩
    rw [run_compileCall]
    exact resolveCall_ne_endless hr hwritten hacyclic hdepth
      (ordinaryArguments_callArguments inputs params) output _ c'
  · intro depth prog c' h
    have hunfoldable := unfoldable_of_compileCall hr h
    refine ⟨hunfoldable.acyclicFrom, fun m hpath => ?_⟩
    obtain ⟨k, hm⟩ := hunfoldable.of_reflTransGen hpath
    exact hm.registered

end Compiler

/-! ### Two libraries -/

/-- The primitives and the layers that make up an affine layer. -/
def Library.affine : Library where
  registry := [Standard.wdot, Standard.bias, Standard.wb].foldl Registry.registerLayer
    Registry.primitives
  scopes := []
  samples := .zeros

theorem Library.ordinary_affine : Library.affine.registry.Ordinary :=
  ((Registry.ordinary_primitives.registerLayer Standard.accepted_wdot).registerLayer
    Standard.accepted_bias).registerLayer Standard.accepted_wb

/-- Where layers are registered over the primitives, it is enough to look at these layers. -/
theorem Registry.calleesWritten_of_foldl {layers : List Definition}
    (h : ∀ d ∈ layers, ∀ s ∈ d.body, s.call.callee.name?.isSome) :
    Registry.CalleesWritten (layers.foldl Registry.registerLayer Registry.primitives) := by
  intro d hd s hs
  have hd' := (Registry.holds_of_foldl hd).resolve_left (Registry.not_holds_primitives d)
  have hsome := h d hd' s hs
  cases hcallee : s.call.callee with
  | fixed name => exact ⟨name, rfl⟩
  | parameter p =>
    rw [hcallee] at hsome
    cases hsome

theorem Library.calleesWritten_affine : Library.affine.registry.CalleesWritten :=
  Registry.calleesWritten_of_foldl (by decide)

/-- The affine layer compiles, and mints three names. -/
theorem Library.compileCall_affine :
    ∃ prog c', (compileCall Library.affine 4 (.str "wb") [.str "a"] (.str "b") []).run {} =
        (.ok prog, c') ∧ c'.counters.current = 3 := by
  have hrun : ((compileCall Library.affine 4 (.str "wb") [.str "a"] (.str "b") []).run
      {}).1.isOk ∧ ((compileCall Library.affine 4 (.str "wb") [.str "a"] (.str "b") []).run
      {}).2.counters.current = 3 := by decide +kernel
  obtain ⟨prog, c', hprog⟩ := exists_of_isOk hrun.1
  rw [hprog] at hrun
  exact ⟨prog, c', hprog, hrun.2⟩

namespace Cyclic

/-- A layer that calls itself. -/
def recursive : Definition where
  name := "again"
  signature := { formals := [⟨"x", .standard, none⟩] }
  inner := []
  last := Standard.statement 3 "y" "again" [] [.symbol "x"]
  surroundings := { globals := 0 }
  file := .layers 0

def library : Library where
  registry := [recursive].foldl Registry.registerLayer Registry.primitives
  scopes := []
  samples := .zeros

theorem ordinary_library : library.registry.Ordinary :=
  Registry.ordinary_primitives.registerLayer
    (Standard.accepted_of_read (f := ⟨[⟨"x", .standard, none⟩], 2,
      [.assign 3 [.name "y"] (.call 3 (.name "again") [.mk 3 (.name "x")] [])]⟩) rfl)

theorem calls_itself : library.registry.Calls "again" "again" := ⟨recursive, rfl, by decide⟩

end Cyclic

/-- The affine layer compiles, so its graph has no cycle; three layers are registered, and limits
beyond three all give the same.  A layer that calls itself compiles under no limit. -/
theorem compileCall_ends_affine :
    (Library.affine.registry.AcyclicFrom "wb" ∧ Library.affine.registry.layers.length = 3 ∧
      ∀ depth, 3 < depth →
        (compileCall Library.affine depth (.str "wb") [.str "a"] (.str "b") []).run {} =
          (compileCall Library.affine 4 (.str "wb") [.str "a"] (.str "b") []).run {}) ∧
    ∀ depth prog c',
      (compileCall Cyclic.library depth (.str "again") [.str "a"] (.str "b") []).run {} ≠
        (.ok prog, c') := by
  have hlayers : Library.affine.registry.layers.length = 3 := by decide +kernel
  obtain ⟨hends, hreturned⟩ := compileCall_ends Library.ordinary_affine
    Library.calleesWritten_affine "wb" [.str "a"] (.str "b") [] {}
  obtain ⟨prog, c', hprog, -⟩ := Library.compileCall_affine
  have hacyclic := (hreturned 4 prog c' hprog).1
  refine ⟨⟨hacyclic, hlayers, fun depth hdepth => ?_⟩, fun depth prog c' h => ?_⟩
  · have hsame := (hends hacyclic depth (hlayers ▸ hdepth)).2
    rwa [hlayers] at hsame
  · have hwritten : Cyclic.library.registry.CalleesWritten :=
      Registry.calleesWritten_of_foldl (by decide)
    have hreturned := (compileCall_ends Cyclic.ordinary_library hwritten "again" [.str "a"]
      (.str "b") [] {}).2 depth prog c' h
    exact hreturned.1 "again" .refl (.single Cyclic.calls_itself)

end Laminar
