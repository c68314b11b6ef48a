import Mathlib
import Laminar.Layer.Function
import Laminar.Proofs.Computation

/-!
# What an evaluation does to the shared counter

Evaluating an expression can call layer functions, and a layer function mints names from the shared
counter.  So the evaluation of a deferred expression in the middle of a compilation may move the
very counter that the compilation takes its numbers from.  This module bounds how far.

The bound is stated once, for an arbitrary reflexive and transitive relation between the counter
before and the counter after: if every call of a layer function moves the counter along the
relation, then so does every evaluation, whether it succeeds or fails.

* `Moves` is the invariant, closed under the steps that the evaluator is made of.
* `moves_eval` carries it through all functions of the evaluator, by their joint induction.
* `moves_evaluateIn` is the bound for deferred expressions; `evaluateIn_never_lowers` and
  `evaluateIn_still` are its two instances.
-/

namespace Laminar

open Source (Expr Argument Keyword CompareOp DictItem)

/-- A computation that, whatever its outcome, moves the shared counter only along a relation. -/
def Moves (R : Int → Int → Prop) {α : Type} (m : Eval α) : Prop :=
  ∀ s, R s.shared (m.run s).2.shared

variable {R : Int → Int → Prop} {α β : Type}

theorem moves_of_shared_eq [Std.Refl R] {m : Eval α} (h : ∀ s, (m.run s).2.shared = s.shared) :
    Moves R m := by
  intro s
  rw [h s]
  exact Std.Refl.refl _

theorem moves_pure [Std.Refl R] (a : α) : Moves R (pure a : Eval α) :=
  moves_of_shared_eq fun _ => rfl

theorem moves_throw [Std.Refl R] (e : Failure) : Moves R (throw e : Eval α) :=
  moves_of_shared_eq fun _ => rfl

theorem moves_settle [Std.Refl R] (r : Except Fault α) : Moves R (settle r) := by
  refine moves_of_shared_eq fun s => ?_
  rw [settle, run_ofExcept]

/-- Parts that move the counter along a relation make a whole that does. -/
theorem moves_bind [IsTrans Int R] {m : Eval α} {f : α → Eval β} (hm : Moves R m)
    (hf : ∀ a, Moves R (f a)) : Moves R (m >>= f) := by
  intro s
  have first := hm s
  rw [run_bind]
  cases hrun : m.run s with
  | mk outcome t =>
    rw [hrun] at first
    cases outcome with
    | error e => exact first
    | ok a => exact IsTrans.trans _ _ _ first (hf a t)

theorem moves_ite {p : Prop} [Decidable p] {m k : Eval α} (hm : Moves R m) (hk : Moves R k) :
    Moves R (if p then m else k) := by
  split
  · exact hm
  · exact hk

theorem moves_keep [Std.Refl R] (env : Environment) (v : Value) : Moves R (env.keep v) :=
  moves_of_shared_eq fun _ => rfl

theorem moves_constant [Std.Refl R] (env : Environment) (v : Value) : Moves R (env.constant v) :=
  moves_keep env _

theorem moves_result [Std.Refl R] [IsTrans Int R] (env : Environment) (r : Except Fault Value) :
    Moves R (env.result r) :=
  moves_bind (moves_settle r) fun v => moves_keep env v

/-- Calling a layer function is the only step that moves the counter. -/
theorem moves_call [Std.Refl R] [IsTrans Int R] {env : Environment}
    (hlayer : ∀ id args named n, R n (env.layer id args named n).2)
    (f : Value) (args : List Value) (keywords : List (Value × Value)) :
    Moves R (env.call f args keywords) := by
  rw [Environment.call]
  split
  · rename_i id _
    refine moves_bind (moves_settle _) fun named s => ?_
    have step := hlayer id args named s.shared
    rw [run_bind, run_get]
    refine IsTrans.trans _ _ _ step ?_
    have after : Moves R (do env.keep (.node (← ofExcept (env.layer id args named s.shared).1))) :=
      moves_bind (moves_of_shared_eq fun t => by rw [run_ofExcept]) fun n => moves_keep env _
    exact after { s with shared := (env.layer id args named s.shared).2 }
  · -- any other call may make sources of samples, which are counted in another place
    intro s
    rw [run_bind, run_get]
    exact moves_result env _ { s with sources := ((f.call env.samples args keywords).run _).2 }

/-- **Evaluation moves the shared counter only as calls of layer functions do.** -/
theorem moves_eval [Std.Refl R] [IsTrans Int R] (env : Environment)
    (hlayer : ∀ id args named n, R n (env.layer id args named n).2) :
    (∀ e, Moves R (evalExpr env e)) ∧
    (∀ op es, Moves R (evalLogical env op es)) ∧
    (∀ left es, Moves R (evalComparisons env left es)) ∧
    (∀ es pieces, Moves R (evalPieces env es pieces)) ∧
    (∀ es, Moves R (evalIndices env es)) ∧
    (∀ e, Moves R (evalOption env e)) ∧
    (∀ es, Moves R (evalArguments env es)) ∧
    (∀ callee es known waiting, Moves R (evalKeywords env callee es known waiting)) ∧
    (∀ es known waiting left singly, Moves R (evalItems env es known waiting left singly)) ∧
    (∀ es known singly, Moves R (evalSet env es known singly)) ∧
    ∀ es, Moves R (evalList env es) := by
  apply evalExpr.mutual_induct
  -- A case is its sequence of steps: what is evaluated first moves the counter along the relation,
  -- and what follows does, whatever came out.
  all_goals intros
  all_goals simp only [evalExpr, evalLogical, evalComparisons, evalPieces, evalIndices, evalOption,
    evalArguments, evalKeywords, evalItems, evalSet, evalList, *]
  case case1 => exact moves_settle _
  case case2 | case4 | case12 | case15 | case18 | case22 => exact moves_constant env _
  case case3 items | case5 items | case7 items | case20 items =>
    exact moves_bind items fun _ => moves_keep env _
  case case6 set => exact moves_bind set fun _ => moves_result env _
  case case8 callee spread named =>
    refine moves_bind callee fun f => moves_bind spread fun v => moves_bind (named f) fun _ => ?_
    exact moves_bind (moves_settle _) fun _ => moves_call hlayer _ _ _
  case case9 callee args named =>
    refine moves_bind callee fun f => moves_bind args fun _ => moves_bind (named f) fun _ => ?_
    exact moves_call hlayer _ _ _
  case case10 operand | case19 operand => exact moves_bind operand fun _ => moves_result env _
  case case11 base lower upper step =>
    refine moves_bind base fun b => moves_bind lower fun l => moves_bind upper fun u => ?_
    exact moves_bind step fun s => moves_result env _
  case case13 base =>
    exact moves_bind base fun b => moves_bind (moves_constant env _) fun _ => moves_result env _
  case case14 base indices =>
    refine moves_bind base fun b => moves_bind indices fun values => ?_
    split
    · exact moves_bind (moves_keep env _) fun _ => moves_result env _
    · exact moves_result env _
  case case16 left right | case23 left right =>
    exact moves_bind left fun v => moves_bind right fun w => moves_result env _
  case case17 | case27 | case28 => exact moves_throw _
  case case21 items =>
    refine moves_bind (moves_constant env _) fun v => ?_
    split
    · exact moves_bind (moves_constant env _) fun _ => moves_result env _
    · exact moves_bind items fun _ => moves_bind (moves_keep env _) fun _ => moves_result env _
  case case24 first rest => exact moves_bind first rest
  case case26 test body orelse =>
    exact moves_bind test fun _ => moves_bind (moves_settle _) fun _ => moves_ite body orelse
  -- The other functions of the evaluator.
  case case29 | case33 | case34 | case37 | case40 | case43 | case46 | case52 | case54 =>
    exact moves_pure _
  case case31 operand rest =>
    refine moves_bind operand fun v => moves_bind (moves_settle _) fun _ => ?_
    exact moves_ite (moves_pure _) rest
  case case32 item rest =>
    refine moves_bind item fun v => moves_bind (moves_settle _) fun _ => ?_
    exact moves_bind rest fun _ => moves_pure _
  case case35 lower upper step rest =>
    refine moves_bind lower fun _ => moves_bind upper fun _ => moves_bind step fun _ => ?_
    exact moves_bind rest fun _ => moves_pure _
  case case36 item rest | case42 item rest | case48 item rest =>
    exact moves_bind item fun v => moves_bind rest fun _ => moves_pure _
  case case38 spread rest =>
    refine moves_bind (moves_settle _) fun _ => moves_bind spread fun v => ?_
    split
    · exact moves_bind (moves_settle _) fun _ => rest _
    · exact moves_throw _
  case case39 item rest =>
    refine moves_bind item fun v => moves_ite ?_ (rest v)
    exact moves_bind (moves_settle _) fun _ => rest v
  case case41 spread rest | case47 spread rest =>
    refine moves_bind spread fun v => ?_
    split
    · exact moves_bind rest fun _ => moves_pure _
    · exact moves_throw _
  case case44 key value added waiting =>
    refine moves_bind key fun k => moves_bind value fun v => moves_ite ?_ (waiting k v)
    exact moves_bind (moves_settle _) fun _ => added _
  case case45 entries rest =>
    refine moves_bind entries fun v => ?_
    split
    · exact moves_bind (moves_settle _) fun _ => rest _
    · exact moves_throw _
  case case49 => exact moves_settle _
  case case50 value rest => exact moves_bind value rest
  case case51 entries rest =>
    refine moves_bind (moves_settle _) fun known => moves_bind entries fun v => ?_
    split
    · exact moves_bind (moves_settle _) fun _ => rest _
    · exact moves_throw _
  case case55 right rest =>
    refine moves_bind right fun w => moves_bind (moves_result env _) fun v => ?_
    refine moves_ite (moves_pure _) (moves_bind (moves_settle _) fun _ => ?_)
    exact moves_ite (rest w) (moves_pure _)

/-! ### Deferred expressions -/

/-- A deferred expression moves the shared counter only as calls of layer functions do. -/
theorem moves_evaluateIn [Std.Refl R] [IsTrans Int R] {functions : List LayerFunction}
    {scopes : Scopes}
    (hlayer : ∀ id args named n, R n (callNumbered functions scopes id args named n).2)
    (samples : Samples) (globals : ScopeId) (names : List (String × Value)) (e : Expr) :
    Moves R (evaluateIn samples functions scopes globals names e) := by
  intro s
  -- Numbering the names taken along changes another part of the state only.
  exact (moves_eval _ hlayer).1 e _

/-- A call of a layer takes numbers for its inner locals, or none. -/
theorem Definition.le_generate (d : Definition) (closure : List (String × Value))
    (args : List Value) (output : Value) (keywords : List (String × Value)) (n : Int) :
    n ≤ (d.generate closure args output keywords n).2 := by
  unfold Definition.generate
  split
  · exact le_refl n
  · split
    · rename_i number hnumber
      exact (firstUnwritable_eq_some hnumber).1.trans (Int.le_of_lt (Int.lt_succ number))
    · exact le_add_of_nonneg_right (Int.natCast_nonneg _)

theorem le_callNumbered (functions : List LayerFunction) (scopes : Scopes) (id : LayerId)
    (args : List Value) (named : List (String × Value)) (n : Int) :
    n ≤ (callNumbered functions scopes id args named n).2 := by
  unfold callNumbered LayerFunction.call
  split
  · split
    · exact le_refl n
    · exact Definition.le_generate _ _ _ _ _ n
  · exact le_refl n

/-- **A deferred expression never lowers the shared counter.** -/
theorem evaluateIn_never_lowers (samples : Samples) (functions : List LayerFunction)
    (scopes : Scopes) (globals : ScopeId) (names : List (String × Value)) (e : Expr) :
    Moves (· ≤ ·) (evaluateIn samples functions scopes globals names e) :=
  moves_evaluateIn (le_callNumbered functions scopes) samples globals names e

/-- Where there are no layer functions to call, a deferred expression leaves the counter alone. -/
theorem evaluateIn_still (samples : Samples) (scopes : Scopes) (globals : ScopeId)
    (names : List (String × Value)) (e : Expr) :
    Moves (· = ·) (evaluateIn samples [] scopes globals names e) :=
  moves_evaluateIn (fun _ _ _ _ => rfl) samples globals names e

end Laminar
