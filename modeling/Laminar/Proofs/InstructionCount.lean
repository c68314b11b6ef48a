import Mathlib
import Laminar.Proofs.CallGraph
import Laminar.Proofs.SingleAssignment

/-!
# How many instructions a program has

Names are minted on the way down, one for each inner local of a layer that is entered.  Instructions
are collected on the way up, one for each primitive.  The two counts are tied together: a layer with
`k` inner locals has `k + 1` statements, so it takes `k` numbers and leaves `k` more calls to expand
than there were before.

* `Unfolds.length_add_moved`: the instructions of a program and the numbers that were taken while
  arguments were evaluated are together as many as the calls that were expanded and the numbers that
  the counter went through.
* `compileCall_length`: a call from outside leaves as many instructions as the counter went through
  numbers, and one more, less the numbers that its deferred expressions took.
* `Skipping.length_falls_short`: an expression that calls a layer function does take numbers.
-/

namespace Laminar

variable {lib : Library} {depth : Nat} {calls : List Pending} {c c' : Counters}
  {log : List Expanded} {prog : Program}

/-- **The balance of an unfolding.** -/
theorem Unfolds.length_add_moved (h : Unfolds lib depth calls c log prog c') :
    (prog.length : Int) + (log.map Expanded.moved).sum =
      calls.length + (c'.current - c.current) := by
  induction h with
  | done => simp
  | primitive args callee emitted more ih =>
    simp only [List.length_cons, List.map_cons, List.sum_cons, Expanded.moved] at ih ⊢
    omega
  | @layer depth call rest body c c₁ c₂ c₃ values named d b out inside log inner prog args callee
      bound filled within more ih ih' =>
    -- The body has one call more than the layer has inner locals.
    have hbody : body.length = d.inner.length + 1 := by
      rw [← filled.length_eq, Definition.body, List.length_append, List.length_singleton]
    rw [Counters.current_setCurrent, hbody] at ih
    simp only [List.length_append, List.length_cons, List.map_cons, List.map_append, List.sum_cons,
      List.sum_append, Expanded.moved] at ih ih' ⊢
    omega

/-- Arguments only ever take numbers. -/
theorem Unfolds.moved_nonneg (h : Unfolds lib depth calls c log prog c') :
    ∀ e ∈ log, 0 ≤ e.moved := by
  intro e he
  obtain ⟨-, values, named, hevaluated⟩ := h.mem_log e he
  exact Int.sub_nonneg.2 hevaluated.current_le

/-- A compilation with a counter of its own keeps it, and one without gets none. -/
theorem Unfolds.own (h : Unfolds lib depth calls c log prog c') :
    c'.own.isSome = c.own.isSome ∧ ∀ e ∈ log, e.before.own.isSome = c.own.isSome := by
  induction h with
  | done => simp
  | primitive args callee emitted more ih =>
    rw [args.own_eq] at ih
    exact ⟨ih.1, List.forall_mem_cons.2 ⟨rfl, ih.2⟩⟩
  | layer args callee bound filled within more ih ih' =>
    rw [isSome_own_setCurrent, args.own_eq] at ih
    rw [ih.1] at ih'
    exact ⟨ih'.1, List.forall_mem_cons.2 ⟨rfl, List.forall_mem_append.2 ⟨ih.2, ih'.2⟩⟩⟩

/-- **Nothing else uses the counter** if it is not the shared one, or if neither the calls nor the
layers have an expression that moves it. -/
theorem Unfolds.moved_eq_zero (h : Unfolds lib depth calls c log prog c')
    (hcalls : ∀ call ∈ calls, ∀ n ∈ argumentNodes call.args, n.MovesBy lib (· = ·))
    (hundisturbed : c.own.isSome ∨ lib.Quiet) : ∀ e ∈ log, e.moved = 0 := by
  intro e he
  obtain ⟨horigin, values, named, hevaluated⟩ := h.mem_log e he
  have hstill : e.before.own.isSome ∨ ∀ n ∈ argumentNodes e.call.args, n.MovesBy lib (· = ·) := by
    rw [h.own.2 e he]
    refine hundisturbed.imp_right fun hquiet => ?_
    rcases horigin with hcall | ⟨d, a, hd, s, hs, hfilled⟩
    · exact hcalls e.call hcall
    · exact hfilled.still hd hs hquiet
  exact Int.sub_eq_zero.2 (hevaluated.current_moves hstill).symm

/-- **How many instructions a call leaves.** As many as the counter went through numbers, and one
more, less what the arguments on the way took for themselves by calling layer functions.  They never
give numbers back, and they take none if the compilation has a counter of its own, or if no deferred
expression moves the shared one. -/
theorem compileCall_length (hr : lib.registry.Ordinary) {name : Value} {inputs : List Value}
    {output : Value} {params : List (String × Value)} {s s' : Compiler}
    (h : (compileCall lib depth name inputs output params).run s = (.ok prog, s')) :
    ∃ log, Unfolds lib depth [⟨name, callArguments inputs params, output⟩] s.counters log prog
        s'.counters ∧
      (prog.length : Int) =
        s'.counters.current - s.counters.current + 1 - (log.map Expanded.moved).sum ∧
      (∀ e ∈ log, 0 ≤ e.moved) ∧
      (s.counters.own.isSome ∨ lib.Quiet →
        (prog.length : Int) = s'.counters.current - s.counters.current + 1) := by
  obtain ⟨log, hunfolds⟩ := unfolds_of_compileCall hr h
  have hbalance := hunfolds.length_add_moved
  rw [List.length_singleton] at hbalance
  refine ⟨log, hunfolds, by omega, hunfolds.moved_nonneg, fun hundisturbed => ?_⟩
  have hzero : (log.map Expanded.moved).sum = 0 := by
    refine List.sum_eq_zero (List.forall_mem_map.2 ?_)
    exact hunfolds.moved_eq_zero (List.forall_mem_singleton.2 (still_callArguments inputs params))
      hundisturbed
  omega

/-- The affine layer: four instructions, and three numbers. -/
theorem compileCall_length_affine :
    ∃ prog s', (compileCall Library.affine 4 (.str "wb") [.str "a"] (.str "b") []).run {} =
        (.ok prog, s') ∧
      s'.counters.current = 3 ∧ prog.length = 4 := by
  obtain ⟨prog, s', hrun, hend⟩ := Library.compileCall_affine
  obtain ⟨log, -, -, -, hlength⟩ := compileCall_length Library.ordinary_affine hrun
  replace hlength := hlength (.inr (Library.quiet_of_no_functions rfl))
  have hstart : ({} : Compiler).counters.current = 0 := rfl
  exact ⟨prog, s', hrun, hend, by omega⟩

/-- **Fewer instructions than numbers tell.** The counter goes from 0 to 2 and there are two
instructions, not three: the block that the expression dropped took a number. -/
theorem Skipping.length_falls_short :
    Skipping.library.registry.Ordinary ∧
      ∃ prog, (compileCall Skipping.library 3 (.str "f") [.str "x"] (.str "y") []).run {} =
          (.ok prog, { counters := { shared := 2 } }) ∧
        (prog.length : Int) ≠ 2 - 0 + 1 := by
  refine ⟨Skipping.ordinary_library, ?_⟩
  have hstate : ((compileCall Skipping.library 3 (.str "f") [.str "x"] (.str "y") []).run {}).2 =
      { counters := { shared := 2 } } := by decide +kernel
  have hlength : ((compileCall Skipping.library 3 (.str "f") [.str "x"] (.str "y") []).run
      {}).1.toOption.map List.length = some 2 := by decide +kernel
  rcases hrun : (compileCall Skipping.library 3 (.str "f") [.str "x"] (.str "y") []).run {} with
    ⟨_ | prog, s'⟩
  · rw [hrun] at hlength
    cases hlength
  · rw [hrun] at hstate hlength
    obtain rfl : s' = { counters := { shared := 2 } } := hstate
    have htwo : prog.length = 2 := Option.some.inj hlength
    exact ⟨prog, rfl, by omega⟩

end Laminar
