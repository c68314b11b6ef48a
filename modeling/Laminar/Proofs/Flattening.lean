import Mathlib
import Laminar.Proofs.CallGraph
import Laminar.Proofs.Emission

/-!
# Programs as flattened call trees

Where callees are written out, what a call compiles to is decided by the layers alone, as far as the
classes of operators go: walk the call tree depth first and from left to right, and note the class
at each primitive.

* `Registry.leaves` is that walk.  It looks at names and bodies only.  A name has no leaves if the
  walk from it meets a name that is not registered, or a cycle.
* `Registry.leaves_primitive` and `Registry.leaves_layer` are its equations: a primitive has one
  leaf, and a layer the leaves of its callees, in the order of the body.  The walk is cut off at the
  number of layers, which `length_le_layers_of_chain` shows to be no restriction.
* `compileCall_classes`: the classes of a compiled program are the leaves.
-/

namespace Laminar

/-! ### The walk -/

/-- The leaves of names one after the other, if each of them has leaves. -/
def concatenated (leaves : String → Option (List OpClass)) : List String → Option (List OpClass)
  | [] => some []
  | name :: names => (leaves name).bind fun first => (concatenated leaves names).map (first ++ ·)

theorem concatenated_cons {leaves : String → Option (List OpClass)} {name : String}
    {names : List String} {first rest : List OpClass} (hfirst : leaves name = some first)
    (hrest : concatenated leaves names = some rest) :
    concatenated leaves (name :: names) = some (first ++ rest) := by
  rw [concatenated, hfirst, hrest]
  rfl

theorem concatenated_singleton (leaves : String → Option (List OpClass)) (name : String) :
    concatenated leaves [name] = leaves name := by
  cases h : leaves name <;> simp [concatenated, h]

/-- Where two ways to find leaves differ on a list, they differ on a member of it. -/
theorem exists_ne_of_concatenated_ne {f g : String → Option (List OpClass)} {names : List String}
    (h : concatenated f names ≠ concatenated g names) : ∃ name ∈ names, f name ≠ g name := by
  induction names with
  | nil => exact absurd rfl h
  | cons name names ih =>
    by_cases hname : f name = g name
    · have hrest : concatenated f names ≠ concatenated g names := by
        intro hsame
        rw [concatenated, concatenated, hname, hsame] at h
        exact h rfl
      obtain ⟨m, hm, hne⟩ := ih hrest
      exact ⟨m, List.mem_cons_of_mem _ hm, hne⟩
    · exact ⟨name, List.mem_cons_self .., hname⟩

namespace Registry

/-- The leaves of a name whose call tree is less than `depth` deep. -/
def leavesWithin (r : Registry) : Nat → String → Option (List OpClass)
  | 0, _ => none
  | depth + 1, name =>
    (r.get? name).bind fun g =>
      match g.body with
      | .primitive p => some [p.opClass]
      | .composite d => concatenated (r.leavesWithin depth) d.callees
      | _ => none

/-- **The leaves of a name**: the classes of operators that its call tree ends in, depth first and
from left to right. -/
def leaves (r : Registry) (name : String) : Option (List OpClass) :=
  r.leavesWithin (r.layers.length + 1) name

variable {r : Registry} {name : String}

theorem leavesWithin_primitive {p : Primitive} (h : r.Names (.str name) (.primitive p))
    (depth : Nat) : r.leavesWithin (depth + 1) name = some [p.opClass] := by
  obtain ⟨name', g, hname, hget, hbody⟩ := h
  cases hname
  rw [leavesWithin, hget, Option.bind_some, hbody]

theorem leavesWithin_layer {d : Definition} (h : r.Names (.str name) (.composite d)) (depth : Nat) :
    r.leavesWithin (depth + 1) name = concatenated (r.leavesWithin depth) d.callees := by
  obtain ⟨name', g, hname, hget, hbody⟩ := h
  cases hname
  rw [leavesWithin, hget, Option.bind_some, hbody]

/-- **A cut that shows has been walked to.** If one more level changes the leaves, there is a chain
of calls down to the cut. -/
theorem chain_of_leavesWithin_ne {depth : Nat}
    (h : r.leavesWithin depth name ≠ r.leavesWithin (depth + 1) name) :
    ∃ path, path.length = depth ∧ List.IsChain r.Calls (name :: path) := by
  induction depth generalizing name with
  | zero => exact ⟨[], rfl, .singleton name⟩
  | succ depth ih =>
    -- Only a layer looks below itself, and some callee of it has to look different.
    cases hlayer : r.layer? name with
    | none =>
      refine absurd ?_ h
      unfold leavesWithin
      cases hget : r.get? name with
      | none => rfl
      | some g =>
        rw [layer?, hget] at hlayer
        cases hbody : g.body with
        | composite d => simp [Generator.layer?, hbody] at hlayer
        | _ => simp [hbody]
    | some d =>
      have hd := layer?_eq_some.1 hlayer
      rw [leavesWithin_layer hd, leavesWithin_layer hd] at h
      obtain ⟨m, hm, hne⟩ := exists_ne_of_concatenated_ne h
      obtain ⟨path, hlength, hchain⟩ := ih hne
      exact ⟨m :: path, congrArg (· + 1) hlength,
        List.isChain_cons_cons.2 ⟨⟨d, hlayer, hm⟩, hchain⟩⟩

/-- A primitive is its own leaf. -/
theorem leaves_primitive {p : Primitive} (h : r.Names (.str name) (.primitive p)) :
    r.leaves name = some [p.opClass] :=
  leavesWithin_primitive h _

/-- **The leaves of a layer are those of its callees**, in the order of the body. -/
theorem leaves_layer {d : Definition} (h : r.Names (.str name) (.composite d))
    (hacyclic : r.AcyclicFrom name) :
    r.leaves name = concatenated r.leaves d.callees := by
  have hcut : r.leavesWithin (r.layers.length + 1) name =
      r.leavesWithin (r.layers.length + 2) name := by
    by_contra hne
    obtain ⟨path, hlength, hchain⟩ := chain_of_leavesWithin_ne hne
    have hle := length_le_layers_of_chain hacyclic hchain
    omega
  rw [leaves, hcut, leavesWithin_layer h]
  rfl

end Registry

/-! ### Programs -/

section Compiler

variable {lib : Library}

/-- The calls of a body have the callees that are written in it. -/
theorem callees_of_filled (hwritten : lib.registry.CalleesWritten) {d : Definition}
    (hd : lib.registry.Holds d) {a : Actuals} {calls : List Pending}
    (h : List.Forall₂ (Filled d a) d.body calls) :
    calls.map Pending.callee = d.callees.map Value.str := by
  have hall := hwritten d hd
  rw [Definition.callees]
  generalize d.body = body at h hall
  induction h with
  | nil => rfl
  | @cons s call rest calls hfilled _ ih =>
    rw [List.forall_mem_cons] at hall
    obtain ⟨⟨name, hname⟩, hrest⟩ := hall
    rw [List.filterMap_cons_some (b := name) (by rw [hname]; rfl), List.map_cons, List.map_cons,
      hfilled.callee_of_fixed hname, ih hrest]

/-- **What unfolds is the flattening of its callees.** -/
theorem Unfolds.classes (hwritten : lib.registry.CalleesWritten) {depth : Nat}
    {calls : List Pending} {c c' : Counters} {log : List Expanded} {prog : Program}
    (h : Unfolds lib depth calls c log prog c') {names : List String}
    (hnames : calls.map Pending.callee = names.map Value.str) :
    concatenated lib.registry.leaves names = some (prog.map fun i => i.op.cls) := by
  induction h generalizing names with
  | done =>
    obtain rfl : names = [] := List.map_eq_nil_iff.1 hnames.symm
    rfl
  | @primitive depth call rest c c₁ c₂ values named p i log prog args callee emitted more ih =>
    obtain ⟨name, names, rfl, hname, hrest⟩ := List.map_eq_cons_iff.1 hnames.symm
    rw [← hname] at callee
    have hfirst : lib.registry.leaves name = some [i.op.cls] := by
      rw [Primitive.cls_instruction emitted]
      exact Registry.leaves_primitive callee
    exact concatenated_cons hfirst (ih hrest.symm)
  | @layer depth call rest body c c₁ c₂ c₃ values named d b out inside log inner prog args callee
      bound filled within more ih ih' =>
    obtain ⟨name, names, rfl, hname, hrest⟩ := List.map_eq_cons_iff.1 hnames.symm
    -- The call has unfolded, so the walk from its callee is not cut off.
    have hacyclic : lib.registry.AcyclicFrom name := by
      have hunfoldable : Unfoldable lib (depth + 1) name := by
        refine ⟨call.args, call.output, c, ⟨call, c, c₁⟩ :: (inside ++ []), inner ++ [], c₂, ?_⟩
        rw [hname]
        exact .layer args callee bound filled within (.done _ _)
      exact hunfoldable.acyclicFrom
    have hfirst : lib.registry.leaves name = some (inner.map fun i => i.op.cls) := by
      rw [← hname] at callee
      rw [Registry.leaves_layer callee hacyclic]
      exact ih (callees_of_filled hwritten callee.holds filled)
    rw [List.map_append]
    exact concatenated_cons hfirst (ih' hrest.symm)

/-- **A compiled program is the flattening of the call tree.** In a registry where no layer calls a
parameter, the classes of its operators are the leaves of the name that was called: they depend on
neither the inputs nor the output, the parameters or the counters. -/
theorem compileCall_classes (hr : lib.registry.Ordinary) (hwritten : lib.registry.CalleesWritten)
    {depth : Nat} {name : String} {inputs : List Value} {output : Value}
    {params : List (String × Value)} {c c' : Compiler} {prog : Program}
    (h : (compileCall lib depth (.str name) inputs output params).run c = (.ok prog, c')) :
    lib.registry.leaves name = some (prog.map fun i => i.op.cls) := by
  obtain ⟨log, hunfolds⟩ := unfolds_of_compileCall hr h
  have hleaves : concatenated lib.registry.leaves [name] = some (prog.map fun i => i.op.cls) :=
    hunfolds.classes hwritten rfl
  rwa [concatenated_singleton] at hleaves

end Compiler

/-- Weights, a product, weights, a sum: the affine layer, whatever it is called with. -/
theorem compileCall_classes_affine :
    ∃ prog c', (compileCall Library.affine 4 (.str "wb") [.str "a"] (.str "b") []).run {} =
        (.ok prog, c') ∧
      Library.affine.registry.leaves "wb" = some (prog.map fun i => i.op.cls) ∧
      prog.map (fun i => i.op.cls) = [.par, .dot, .par, .add] := by
  obtain ⟨prog, c', hrun, -⟩ := Library.compileCall_affine
  have hleaves := compileCall_classes Library.ordinary_affine Library.calleesWritten_affine hrun
  have hwalk : Library.affine.registry.leaves "wb" = some [.par, .dot, .par, .add] := by
    decide +kernel
  exact ⟨prog, c', hrun, hleaves, Option.some.inj (hleaves.symm.trans hwalk)⟩

end Laminar
