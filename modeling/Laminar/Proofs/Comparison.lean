import Mathlib
import Laminar.Proofs.Expansion

/-!
# Two compilations compared

Compiling a tree is the same walk whatever resolves its calls.  So if two ways to resolve calls are
related, the two walks are, as long as the relation respects the steps that a walk is made of.

* `StepClosed` lists these steps; `StepClosed.compileNode` and `StepClosed.compileOutcome` carry a
  relation from the resolution of calls to whole trees.
* `Settles m m'` is the relation for the limit on nesting: unless `m` ran into its limit, `m'` does
  just the same, and fails just the same.  `settles_resolveCall`: **a higher limit changes nothing**
  but an expansion that ran into the lower one.
-/

namespace Laminar

/-! ### Relations that respect the steps of the compiler -/

/-- A relation between compilations that every step of the compiler respects. -/
structure StepClosed (R : {α : Type} → Compile α → Compile α → Prop) : Prop where
  pure : ∀ {α : Type} (a : α), R (pure a) (pure a)
  bind : ∀ {α β : Type} {m m' : Compile α} {k k' : α → Compile β},
    R m m' → (∀ a, R (k a) (k' a)) → R (m >>= k) (m' >>= k')
  failWith : ∀ problem : Problem, R (failWith problem : Compile Program) (failWith problem)
  markLine : ∀ line : Int, R (markLine line) (markLine line)
  withFrame : ∀ {layer : String} {m m' : Compile Program},
    R m m' → R (withFrame layer m) (withFrame layer m')

/-- A tuple compiles to itself if it is an instruction. -/
theorem compileNode_tuple (resolve : Resolver) (items : List Value) :
    compileNode resolve (.raw (.tuple items)) =
      match Value.instruction? (.tuple items) with
      | some i => pure [i]
      | none => failWith (.tupleWithoutOperator (.tuple items)) := rfl

namespace StepClosed

variable {R : {α : Type} → Compile α → Compile α → Prop} {resolve resolve' : Resolver}

/-- **Compiling a tree is related if resolving its calls is.** -/
theorem compileNode (hR : StepClosed R)
    (h : ∀ callee args output, R (resolve callee args output) (resolve' callee args output)) :
    (∀ n, R (compileNode resolve n) (Laminar.compileNode resolve' n)) ∧
      ∀ ns, R (compileNodes resolve ns) (compileNodes resolve' ns) := by
  apply compileNode.mutual_induct
  case case1 => exact fun statements ih => ih
  case case2 => exact fun output callee args => h callee args output
  case case3 =>
    intro output value notCall
    cases value
    case call callee args => exact (notCall callee args rfl).elim
    all_goals exact hR.failWith _
  case case4 =>
    rintro target value - notSymbol
    cases target
    case symbol output => exact (notSymbol output rfl).elim
    all_goals exact hR.failWith _
  case case5 => exact fun number file => hR.bind (hR.markLine number) fun _ => hR.pure []
  case case6 =>
    intro items i hi
    rw [compileNode_tuple, compileNode_tuple, hi]
    exact hR.pure [i]
  case case7 =>
    intro items hnone
    rw [compileNode_tuple, compileNode_tuple, hnone]
    exact hR.failWith _
  case case8 =>
    rintro n notBlock - - notAssign notLine notTuple
    cases n
    case block => exact (notBlock _ rfl).elim
    case assign => exact (notAssign _ _ rfl).elim
    case line => exact (notLine _ _ rfl).elim
    case raw v =>
      cases v
      case tuple => exact (notTuple _ rfl).elim
      all_goals exact hR.failWith _
    all_goals exact hR.failWith _
  case case9 => exact hR.pure []
  case case10 =>
    exact fun n rest first others => hR.bind first fun _ => hR.bind others fun _ => hR.pure _

/-- What a call amounts to is compiled further in related ways. -/
theorem compileOutcome (hR : StepClosed R)
    (h : ∀ callee args output, R (resolve callee args output) (resolve' callee args output))
    (callee : Value) (o : Outcome) :
    R (compileOutcome resolve callee o) (Laminar.compileOutcome resolve' callee o) := by
  cases o with
  | instruction i => exact hR.pure [i]
  | value v => exact (hR.compileNode h).1 (Node.ofValue v)
  | block n => exact hR.withFrame ((hR.compileNode h).1 n)

end StepClosed

/-! ### The limit on nesting -/

/-- Unless one compilation ran into its limit on nesting, the other one does just the same. -/
def Settles {α : Type} (m m' : Compile α) : Prop :=
  ∀ s, (m.run s).1 ≠ .error .endless → m'.run s = m.run s

theorem settles_refl {α : Type} (m : Compile α) : Settles m m := fun _ _ => rfl

theorem settles_bind {α β : Type} {m m' : Compile α} {k k' : α → Compile β} (hm : Settles m m')
    (hk : ∀ a, Settles (k a) (k' a)) : Settles (m >>= k) (m' >>= k') := by
  intro s hends
  rw [run_bind] at hends
  rw [run_bind, run_bind]
  cases hrun : m.run s with
  | mk result t =>
    rw [hrun] at hends
    -- The first part did not run into the limit either, since the whole would have.
    have hfirst : m'.run s = (result, t) := by
      rw [← hrun]
      refine hm s ?_
      rw [hrun]
      rintro rfl
      exact hends rfl
    rw [hfirst]
    cases result with
    | error e => rfl
    | ok a => exact hk a t hends

/-- The frame is popped again, whatever the result. -/
theorem withFrame_of_run {α : Type} {layer : String} {m : Compile α} {r : Except Failure α}
    {s t : Compiler} (h : m.run { s with frames := { layer } :: s.frames } = (r, t)) :
    (withFrame layer m).run s = (r, { t with frames := t.frames.tail }) := by
  have hrun : (withFrame layer m).run s =
      ((m.run { s with frames := { layer } :: s.frames }).1,
        { (m.run { s with frames := { layer } :: s.frames }).2 with
          frames := (m.run { s with frames := { layer } :: s.frames }).2.frames.tail }) := rfl
  rw [hrun, h]

theorem settles_withFrame {α : Type} {layer : String} {m m' : Compile α} (h : Settles m m') :
    Settles (withFrame layer m) (withFrame layer m') := by
  intro s hends
  rcases hrun : m.run { s with frames := { layer } :: s.frames } with ⟨result, t⟩
  rw [withFrame_of_run hrun] at hends
  have hrun' : m'.run { s with frames := { layer } :: s.frames } = (result, t) := by
    rw [← hrun]
    exact h _ (by rwa [hrun])
  rw [withFrame_of_run hrun, withFrame_of_run hrun']

theorem stepClosed_settles : StepClosed Settles where
  pure a := settles_refl (pure a)
  bind := settles_bind
  failWith problem := settles_refl (failWith problem)
  markLine line := settles_refl (markLine line)
  withFrame := settles_withFrame

section Limit

variable {lib : Library}

/-- A call is resolved by finding out what it amounts to: it fails with that, or compiles it. -/
theorem run_resolveCall (depth : Nat) (callee : Value) (args : List Node) (output : Value)
    (s : Compiler) :
    (resolveCall lib (depth + 1) callee args output).run s =
      match expandCall lib callee args output s.counters with
      | (.error e, after) =>
        (.error (e.inFrames (calleeContext callee) s.frames), { s with counters := after })
      | (.ok o, after) =>
        (compileOutcome (resolveCall lib depth) callee o).run { s with counters := after } := by
  rw [resolveCall, run_bind, run_get]
  rcases hcall : expandCall lib callee args output s.counters with ⟨e | o, after⟩
  · simp only [hcall, run_bind, run_set]
    rfl
  · simp only [hcall, run_bind, run_set]
    cases o <;> rfl

/-- **A higher limit changes nothing**, whether the call succeeds or fails, unless it ran into the
lower one. -/
theorem settles_resolveCall {depth depth' : Nat} (hle : depth ≤ depth') (callee : Value)
    (args : List Node) (output : Value) :
    Settles (resolveCall lib depth callee args output)
      (resolveCall lib depth' callee args output) := by
  induction depth generalizing depth' callee args output with
  | zero =>
    intro s hends
    exact absurd rfl hends
  | succ depth ih =>
    obtain ⟨depth', rfl⟩ := Nat.exists_eq_succ_of_ne_zero (Nat.ne_of_gt (Nat.zero_lt_of_lt hle))
    intro s hends
    rw [run_resolveCall] at hends
    rw [run_resolveCall, run_resolveCall]
    rcases hcall : expandCall lib callee args output s.counters with ⟨e | o, after⟩
    · rfl
    · rw [hcall] at hends
      exact stepClosed_settles.compileOutcome
        (fun callee args output => ih (Nat.le_of_succ_le_succ hle) callee args output) callee o
        _ hends

end Limit

end Laminar
