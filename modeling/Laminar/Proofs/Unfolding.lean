import Mathlib
import Laminar.Proofs.Expansion

/-!
# Expansion with its record

`Expands` says what a list of pending calls becomes, and forgets how.  Three questions are about the
how: under which name each generator was found, how deep layers were nested, and which numbers were
taken while arguments were evaluated.  `Unfolds` keeps all three.

* `Unfolds lib depth calls c log prog c'`: with layers nested less than `depth` deep, the calls
  become the program and take the counters from `c` to `c'`; `log` lists the calls that were
  expanded on the way, in order, each with the counters before and after its arguments.
* `unfolds_of_resolveCall`, `unfolds_of_compileCall`: in an ordinary registry, every compilation
  that succeeds unfolds.
* `Unfolds.mem_log` says what stands in a log: the calls themselves, and statements of layers that
  were filled in.
-/

namespace Laminar

/-- A call that was expanded, with the counters before and after its arguments were evaluated. -/
structure Expanded where
  call : Pending
  before : Counters
  after : Counters

/-- How far the counter in use was moved while the arguments of a call were evaluated. -/
def Expanded.moved (e : Expanded) : Int := e.after.current - e.before.current

/-- **Unfolding.** The pending calls become a program, one after the other. -/
inductive Unfolds (lib : Library) :
    Nat → List Pending → Counters → List Expanded → Program → Counters → Prop where
  | done (depth : Nat) (c : Counters) : Unfolds lib depth [] c [] [] c
  /-- A primitive emits one instruction. -/
  | primitive {depth : Nat} {call : Pending} {rest : List Pending} {c c₁ c₂ : Counters}
      {values : List Value} {named : List (String × Value)} {p : Primitive} {i : Instruction}
      {log : List Expanded} {prog : Program}
      (args : Evaluated lib call c values named c₁)
      (callee : lib.registry.Names call.callee (.primitive p))
      (emitted : p.instruction (unlabelledList (values ++ [call.output])) (unlabelledNamed named) =
        .ok i)
      (more : Unfolds lib (depth + 1) rest c₁ log prog c₂) :
      Unfolds lib (depth + 1) (call :: rest) c (⟨call, c, c₁⟩ :: log) (i :: prog) c₂
  /-- A layer is replaced by its body, which unfolds one level deeper. -/
  | layer {depth : Nat} {call : Pending} {rest body : List Pending} {c c₁ c₂ c₃ : Counters}
      {values : List Value} {named : List (String × Value)} {d : Definition} {b : Binding}
      {out : String} {inside log : List Expanded} {inner prog : Program}
      (args : Evaluated lib call c values named c₁)
      (callee : lib.registry.Names call.callee (.composite d))
      (bound : d.bindCall values call.output named = .ok (b, out))
      (filled : List.Forall₂
        (Filled d (d.actuals b (lib.scopes.closure d.surroundings) out c₁.current)) d.body body)
      (within : Unfolds lib depth body (c₁.setCurrent (c₁.current + d.inner.length)) inside inner
        c₂)
      (more : Unfolds lib (depth + 1) rest c₂ log prog c₃) :
      Unfolds lib (depth + 1) (call :: rest) c (⟨call, c, c₁⟩ :: (inside ++ log)) (inner ++ prog) c₃

namespace Unfolds

variable {lib : Library} {depth : Nat} {calls : List Pending} {c c' : Counters}
  {log : List Expanded} {prog : Program}

/-- Unfolding calls in two parts is unfolding them together. -/
theorem append {calls' : List Pending} {c'' : Counters} {log' : List Expanded} {prog' : Program}
    (h : Unfolds lib depth calls c log prog c') (h' : Unfolds lib depth calls' c' log' prog' c'') :
    Unfolds lib depth (calls ++ calls') c (log ++ log') (prog ++ prog') c'' := by
  induction h with
  | done => exact h'
  | primitive args callee emitted _ ih => exact .primitive args callee emitted (ih h')
  | layer args callee bound filled within _ _ ih =>
    simp only [List.cons_append, List.append_assoc]
    exact .layer args callee bound filled within (ih h')

/-- Of calls that unfold together, each unfolds. -/
theorem of_mem (h : Unfolds lib depth calls c log prog c') {call : Pending} (hcall : call ∈ calls) :
    ∃ before inside part after, Unfolds lib depth [call] before inside part after := by
  induction h with
  | done => cases hcall
  | primitive args callee emitted _ ih =>
    rcases List.mem_cons.1 hcall with rfl | hrest
    · exact ⟨_, _, _, _, .primitive args callee emitted (.done _ _)⟩
    · exact ih hrest
  | layer args callee bound filled within _ _ ih =>
    rcases List.mem_cons.1 hcall with rfl | hrest
    · exact ⟨_, _, _, _, .layer args callee bound filled within (.done _ _)⟩
    · exact ih hrest

/-- A call that was expanded: one of those to be expanded, or one that fills in a statement of a
layer. -/
def Origin (lib : Library) (calls : List Pending) (call : Pending) : Prop :=
  call ∈ calls ∨ ∃ d a, lib.registry.Holds d ∧ ∃ s ∈ d.body, Filled d a s call

/-- **What stands in a log**: calls with their origin, whose arguments were evaluated between the
counters that are noted. -/
theorem mem_log (h : Unfolds lib depth calls c log prog c') :
    ∀ e ∈ log, Origin lib calls e.call ∧
      ∃ values named, Evaluated lib e.call e.before values named e.after := by
  have later {call : Pending} {rest : List Pending} {e : Expanded}
      (he : Origin lib rest e.call ∧
        ∃ values named, Evaluated lib e.call e.before values named e.after) :
      Origin lib (call :: rest) e.call ∧
        ∃ values named, Evaluated lib e.call e.before values named e.after :=
    ⟨he.1.imp_left (List.mem_cons_of_mem _), he.2⟩
  induction h with
  | done => simp
  | primitive args callee emitted _ ih =>
    rw [List.forall_mem_cons]
    exact ⟨⟨.inl (List.mem_cons_self ..), _, _, args⟩, fun e he => later (ih e he)⟩
  | @layer depth call rest body c c₁ c₂ c₃ values named d b out inside log inner prog args callee
      bound filled within more ih ih' =>
    rw [List.forall_mem_cons, List.forall_mem_append]
    refine ⟨⟨.inl (List.mem_cons_self ..), _, _, args⟩, fun e he => ?_,
      fun e he => later (ih' e he)⟩
    obtain ⟨horigin, hevaluated⟩ := ih e he
    refine ⟨.inr ?_, hevaluated⟩
    rcases horigin with hbody | hinner
    · obtain ⟨s, hs, hfill⟩ := exists_of_forall₂ filled.flip hbody
      exact ⟨d, _, callee.holds, s, hs, hfill⟩
    · exact hinner

end Unfolds

/-! ### The compiler unfolds -/

section Compiler

variable {lib : Library}

/-- **Resolving a call in an ordinary registry unfolds it.** -/
theorem unfolds_of_resolveCall (hr : lib.registry.Ordinary) {depth : Nat} {callee : Value}
    {args : List Node} {output : Value} {c c' : Compiler} {prog : Program}
    (h : (resolveCall lib depth callee args output).run c = (.ok prog, c')) :
    ∃ log, Unfolds lib depth [⟨callee, args, output⟩] c.counters log prog c'.counters := by
  induction depth generalizing callee args output c prog c' with
  | zero => exact absurd h run_throw_ne_ok
  | succ depth ih =>
    obtain ⟨o, after, hcall, hrest⟩ := resolveCall_eq_ok.1 h
    obtain ⟨values, named, c₁, heval, hcases⟩ := expandCall_cases hr hcall
    rcases hcases with
      ⟨p, i, hp, rfl, rfl, hi⟩ | ⟨d, b, out, statements, hd, rfl, rfl, hbind, -, hfill⟩
    · obtain ⟨rfl, rfl⟩ := run_pure_eq_ok.1 hrest
      exact ⟨_, .primitive heval hp hi (.done _ _)⟩
    · obtain ⟨c₂, hbody, hcounters⟩ := run_withFrame hrest
      have next {call : Pending} {rest : List Pending} {s t : Compiler} {first more : Program}
          {after : Counters}
          (hcall : (resolveCall lib depth call.callee call.args call.output).run s = (.ok first, t))
          (hrest : ∃ log, Unfolds lib depth rest t.counters log more after) :
          ∃ log, Unfolds lib depth (call :: rest) s.counters log (first ++ more) after := by
        obtain ⟨log, hfirst⟩ := ih hcall
        obtain ⟨log', hmore⟩ := hrest
        exact ⟨log ++ log', hfirst.append hmore⟩
      obtain ⟨calls, hfilled, log, hwithin⟩ :=
        inTurn_of_fillBody
          (R := fun calls c prog c' => ∃ log, Unfolds lib depth calls c log prog c')
          (fun c => ⟨[], .done depth c⟩) next hfill hbody
      rw [hcounters, ← List.append_nil prog]
      exact ⟨_, .layer heval hd hbind hfilled hwithin (.done _ _)⟩

/-- **Compilation is unfolding**, for calls from outside. -/
theorem unfolds_of_compileCall (hr : lib.registry.Ordinary) {depth : Nat} {name : Value}
    {inputs : List Value} {output : Value} {params : List (String × Value)} {c c' : Compiler}
    {prog : Program}
    (h : (compileCall lib depth name inputs output params).run c = (.ok prog, c')) :
    ∃ log, Unfolds lib depth [⟨name, callArguments inputs params, output⟩] c.counters log prog
      c'.counters := by
  rw [run_compileCall] at h
  exact (unfolds_of_resolveCall hr h :)

end Compiler

end Laminar
