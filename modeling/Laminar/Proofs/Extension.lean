import Mathlib
import Laminar.Proofs.CallGraph
import Laminar.Proofs.Comparison

/-!
# Registries that hold more

Callees are looked up late, by name, wherever the expansion has got to, and the name may be one that
a parameter holds.  So it is not obvious which names a compilation looks up.  But it looks each of
them up to find a generator there, and fails if there is none: a compilation that succeeds has only
asked for names that are registered.  A registry with the same generators under these names, and
anything under others, in whatever order, answers it in the same way.

* `Registry.Extends r' r`: under every name that `r` holds, `r'` has the same generator.
* `Repeats m m'`: what `m` succeeds with, `m'` succeeds with as well, and leaves the same state.
* `expandCall_of_extends` is the step, `repeats_resolveCall` the whole expansion.
* `compileCall_of_extends`: **what compiles in a registry compiles to the same in every extension**.
-/

namespace Laminar

/-! ### Extensions -/

/-- A registry extends another if it has the same generator under every name that the other holds.
Nothing is said about further names, or about the order. -/
def Registry.Extends (r' r : Registry) : Prop :=
  ∀ name g, r.get? name = some g → r'.get? name = some g

/-- The same library over another registry. -/
def Library.withRegistry (lib : Library) (r : Registry) : Library := { lib with registry := r }

namespace Registry

variable {r r' : Registry}

/-- It is enough to look at the names that are listed. -/
theorem extends_of_names (h : ∀ name ∈ r.names, r'.get? name = r.get? name) : r'.Extends r := by
  intro name g hget
  have hmem : name ∈ r.names := by
    rw [← Table.isSome_get?_iff, hget]
    rfl
  rw [h name hmem, hget]

/-- What a callee is found to be, it is found to be in every extension. -/
theorem Extends.lookup (h : r'.Extends r) {callee : Value} {g : Generator}
    (hlookup : r.lookup callee = .ok (some g)) : r'.lookup callee = .ok (some g) := by
  obtain ⟨name, hname, hget⟩ := get?_of_lookup hlookup
  rw [Registry.lookup, hname]
  exact congrArg Except.ok (h name g hget)

end Registry

/-! ### Arguments do not look at the registry -/

section Arguments

variable (lib : Library) (r : Registry) (callee : Value)

theorem splitEntries_withRegistry (entries : List Entry) (known : List (Value × Value)) :
    splitEntries (lib.withRegistry r) callee entries known =
      splitEntries lib callee entries known := by
  induction entries generalizing known with
  | nil => rfl
  | cons e rest ih =>
    cases e with
    | other n => rfl
    | keyword name value =>
      have hvalue : keywordValue (lib.withRegistry r) callee value =
          keywordValue lib callee value := by
        cases value <;> rfl
      simp only [splitEntries, hvalue, ih]

theorem splitPositional_withRegistry (index : Nat) (nodes : List Node) :
    splitPositional (lib.withRegistry r) callee index nodes =
      splitPositional lib callee index nodes := by
  induction nodes generalizing index with
  | nil => rfl
  | cons n rest ih =>
    have hvalue : argumentValue (lib.withRegistry r) callee index n =
        argumentValue lib callee index n := by
      cases n <;> rfl
    cases n <;> simp only [splitPositional, hvalue, ih]

/-- **The arguments of a call amount to the same**, whatever is registered. -/
theorem splitArguments_withRegistry (args : List Node) :
    splitArguments (lib.withRegistry r) callee args = splitArguments lib callee args := by
  unfold splitArguments
  split <;> simp only [splitEntries_withRegistry, splitPositional_withRegistry]

end Arguments

/-! ### What succeeds in an extension -/

/-- What one compilation succeeds with from a state, the other one succeeds with from that state,
and it leaves the same state behind. -/
def Repeats {α : Type} (m m' : Compile α) : Prop :=
  ∀ s a t, m.run s = (.ok a, t) → m'.run s = (.ok a, t)

theorem repeats_refl {α : Type} (m : Compile α) : Repeats m m := fun _ _ _ h => h

theorem repeats_bind {α β : Type} {m m' : Compile α} {k k' : α → Compile β} (hm : Repeats m m')
    (hk : ∀ a, Repeats (k a) (k' a)) : Repeats (m >>= k) (m' >>= k') := by
  intro s b t h
  obtain ⟨a, u, hfirst, hrest⟩ := run_bind_eq_ok.1 h
  exact run_bind_eq_ok.2 ⟨a, u, hm s a u hfirst, hk a u b t hrest⟩

theorem repeats_withFrame {α : Type} {layer : String} {m m' : Compile α} (h : Repeats m m') :
    Repeats (withFrame layer m) (withFrame layer m') := by
  intro s a t hrun
  obtain ⟨hresult, rfl⟩ := Prod.mk.inj hrun
  exact withFrame_of_run (h _ a _ (Prod.ext hresult rfl))

theorem stepClosed_repeats : StepClosed Repeats where
  pure a := repeats_refl (pure a)
  bind := repeats_bind
  failWith problem := repeats_refl (failWith problem)
  markLine line := repeats_refl (markLine line)
  withFrame := repeats_withFrame

section Compiler

variable {lib : Library} {r' : Registry}

/-- **One call** that amounts to something amounts to the same in every extension: its callee was
found, so it is found again. -/
theorem expandCall_of_extends (hext : r'.Extends lib.registry) {callee : Value} {args : List Node}
    {output : Value} {c c' : Counters} {o : Outcome}
    (h : expandCall lib callee args output c = (.ok o, c')) :
    expandCall (lib.withRegistry r') callee args output c = (.ok o, c') := by
  unfold expandCall at h ⊢
  rw [splitArguments_withRegistry]
  rcases hsplit : (splitArguments lib callee args).run (argumentState args c) with
    ⟨e | ⟨keywords, values⟩, s⟩
  · simp [hsplit] at h
  simp only [hsplit] at h ⊢
  cases hlookup : lib.registry.lookup callee with
  | error f => simp [hlookup] at h
  | ok found =>
    cases found with
    | none => simp [hlookup] at h
    | some g =>
      have hsame : (lib.withRegistry r').registry.lookup callee = .ok (some g) :=
        hext.lookup hlookup
      simp only [hlookup] at h
      simp only [hsame]
      exact h

/-- **A whole expansion** that succeeds is repeated in every extension, by induction on how deep
layers may be nested. -/
theorem repeats_resolveCall (hext : r'.Extends lib.registry) (depth : Nat) (callee : Value)
    (args : List Node) (output : Value) :
    Repeats (resolveCall lib depth callee args output)
      (resolveCall (lib.withRegistry r') depth callee args output) := by
  induction depth generalizing callee args output with
  | zero => exact fun s a t h => absurd h run_throw_ne_ok
  | succ depth ih =>
    intro s prog t h
    obtain ⟨o, after, hcall, hrest⟩ := resolveCall_eq_ok.1 h
    exact resolveCall_eq_ok.2 ⟨o, after, expandCall_of_extends hext hcall,
      stepClosed_repeats.compileOutcome ih callee o _ prog t hrest⟩

/-- **What compiles in a registry compiles in every extension of it**, to the same program and with
the same counters and frames left behind: further names and another order change nothing.  Samples
may be drawn on the way; both runs are given the same sources, and use the same ones. -/
theorem compileCall_of_extends (hext : r'.Extends lib.registry) {depth : Nat} {name : Value}
    {inputs : List Value} {output : Value} {params : List (String × Value)} {s t : Compiler}
    {prog : Program}
    (h : (compileCall lib depth name inputs output params).run s = (.ok prog, t)) :
    (compileCall (lib.withRegistry r') depth name inputs output params).run s = (.ok prog, t) := by
  rw [run_compileCall] at h ⊢
  exact repeats_resolveCall hext depth name _ output _ prog t h

end Compiler

/-- The layers of the affine library and one more, registered backwards and before the
primitives. -/
def Registry.backwards : Registry :=
  Primitive.all.foldl (fun r p => r.register { name := p.name, body := .primitive p })
    ([Standard.mlp2, Standard.wb, Standard.bias, Standard.wdot].foldl Registry.registerLayer
      Table.empty)

/-- The affine layer compiles to the same where everything stands in another order and there is a
layer more. -/
theorem compileCall_of_extends_affine :
    Registry.backwards.Extends Library.affine.registry ∧
      Registry.backwards.names =
        ["mlp2", "wb", "bias", "wdot", "par", "arr", "dot", "add", "mul", "relu", "sigm", "tanh",
          "soft", "drop"] ∧
      ∃ prog t, (compileCall Library.affine 4 (.str "wb") [.str "a"] (.str "b") []).run {} =
          (.ok prog, t) ∧
        (compileCall (Library.affine.withRegistry Registry.backwards) 4 (.str "wb") [.str "a"]
          (.str "b") []).run {} = (.ok prog, t) := by
  have hext : Registry.backwards.Extends Library.affine.registry := by
    refine Registry.extends_of_names fun name hname => ?_
    have hnames : Library.affine.registry.names =
        ["par", "arr", "dot", "add", "mul", "relu", "sigm", "tanh", "soft", "drop", "wdot", "bias",
          "wb"] := by decide
    rw [hnames] at hname
    fin_cases hname <;> rfl
  obtain ⟨prog, t, hrun, -⟩ := Library.compileCall_affine
  exact ⟨hext, by decide, prog, t, hrun, compileCall_of_extends hext hrun⟩

end Laminar
