import Mathlib
import Laminar.Expansion.Call
import Laminar.Proofs.Evaluation

/-!
# The arguments of a call

Before a call is expanded its arguments are evaluated: those in the parameter block in front, then
the positional ones.  Two things about that evaluation matter later.

* **Where values come from.** `splitArguments_values`: a value is the name of a symbol, a constant,
  or whatever a deferred expression yields; `Node.Gives` is the relation.
* **What it costs.** `moves_splitArguments`: the shared counter moves only as the deferred
  expressions among the arguments move it.
-/

namespace Laminar

/-- What an argument may evaluate to: a symbol stands for its name, a constant for its value, and a
deferred expression for anything. -/
inductive Node.Gives : Node → Value → Prop where
  | symbol (name : Value) : Gives (.symbol name) name
  | const (v : Value) : Gives (.const v) v
  | deferred (text : String) (e : Source.Expr) (globals : ScopeId) (names : List (String × Value))
      (object : Identity) (v : Value) : Gives (.deferred text e globals names object) v

/-- The entries of the parameter block in front of some arguments. -/
def blockEntries : List Node → List Entry
  | .parameters entries :: _ => entries
  | _ => []

/-- The arguments after the parameter block. -/
def positionalNodes : List Node → List Node
  | .parameters _ :: rest => rest
  | args => args

/-- The node of a keyword. -/
def Entry.node? : Entry → Option Node
  | .keyword _ value => some value
  | .other _ => none

/-- The nodes that are evaluated for a call: those of its keywords, then the positional ones. -/
def argumentNodes (args : List Node) : List Node :=
  (blockEntries args).filterMap Entry.node? ++ positionalNodes args

/-- A node that, if it is evaluated, moves the shared counter along a relation. -/
def Node.MovesBy (lib : Library) (R : Int → Int → Prop) : Node → Prop
  | .deferred _ e globals names _ =>
    Moves R (evaluateIn lib.samples lib.functions lib.scopes globals names e)
  | _ => True

section Arguments

variable {lib : Library} {callee : Value} {R : Int → Int → Prop}

section Deferred

variable {e : Source.Expr} {globals : ScopeId} {names : List (String × Value)} {s t : EvalState}

theorem run_evaluateDeferred_of_ok (text : String) {v : Value}
    (h : (evaluateIn lib.samples lib.functions lib.scopes globals names e).run s = (.ok v, t)) :
    (evaluateDeferred lib callee text e globals names).run s = (.ok v, t) := by
  rw [evaluateDeferred, ExceptT.run_mk, h]

theorem run_evaluateDeferred_of_error (text : String) {err : Failure}
    (h : (evaluateIn lib.samples lib.functions lib.scopes globals names e).run s =
      (.error err, t)) :
    (evaluateDeferred lib callee text e globals names).run s =
      (.error ((Problem.evaluationFailed callee text err.asFault.settled).calling callee), t) := by
  rw [evaluateDeferred, ExceptT.run_mk, h]

end Deferred

/-- Evaluating a deferred expression for a call differs in the words of a failure only. -/
theorem run_evaluateDeferred_state (text : String) (e : Source.Expr) (globals : ScopeId)
    (names : List (String × Value)) (s : EvalState) :
    ((evaluateDeferred lib callee text e globals names).run s).2 =
      ((evaluateIn lib.samples lib.functions lib.scopes globals names e).run s).2 := by
  rcases hrun : (evaluateIn lib.samples lib.functions lib.scopes globals names e).run s with
    ⟨err | v, t⟩
  · rw [run_evaluateDeferred_of_error text hrun]
  · rw [run_evaluateDeferred_of_ok text hrun]

variable [Std.Refl R]

theorem moves_keywordValue {n : Node} (h : n.MovesBy lib R) :
    Moves R (keywordValue lib callee n) := by
  cases n
  case deferred text e globals names object =>
    intro s
    rw [keywordValue, run_evaluateDeferred_state]
    exact h s
  case symbol | const => exact moves_pure _
  all_goals exact moves_throw _

theorem moves_argumentValue {index : Nat} {n : Node} (h : n.MovesBy lib R) :
    Moves R (argumentValue lib callee index n) := by
  cases n
  case deferred text e globals names object =>
    intro s
    rw [argumentValue, run_evaluateDeferred_state]
    exact h s
  case symbol | const => exact moves_pure _
  all_goals exact moves_throw _

variable [IsTrans Int R]

theorem moves_splitEntries {entries : List Entry} {known : List (Value × Value)}
    (h : ∀ n ∈ entries.filterMap Entry.node?, n.MovesBy lib R) :
    Moves R (splitEntries lib callee entries known) := by
  induction entries generalizing known with
  | nil => exact moves_pure _
  | cons e rest ih =>
    cases e with
    | other n => exact moves_throw _
    | keyword name value =>
      simp only [List.filterMap_cons, Entry.node?, List.forall_mem_cons] at h
      have next : Moves R (do
          let v ← keywordValue lib callee value
          splitEntries lib callee rest (known ++ [(name, v)])) :=
        moves_bind (moves_keywordValue h.1) fun v => ih h.2
      rw [splitEntries]
      refine moves_bind (moves_settle _) fun _ => ?_
      exact moves_ite (moves_bind (moves_throw _) fun _ => next) next

theorem moves_splitPositional {index : Nat} {nodes : List Node}
    (h : ∀ n ∈ nodes, n.MovesBy lib R) : Moves R (splitPositional lib callee index nodes) := by
  induction nodes generalizing index with
  | nil => exact moves_pure _
  | cons n rest ih =>
    obtain ⟨first, others⟩ := List.forall_mem_cons.1 h
    unfold splitPositional
    split
    · exact moves_pure _
    · exact moves_throw _
    · rename_i heq
      cases heq
      exact moves_bind (moves_argumentValue first) fun v =>
        moves_bind (ih others) fun _ => moves_pure _

/-- Evaluating the arguments of a call moves the counter as the deferred ones among them do. -/
theorem moves_splitArguments (callee : Value) {args : List Node}
    (h : ∀ n ∈ argumentNodes args, n.MovesBy lib R) :
    Moves R (splitArguments lib callee args) := by
  unfold splitArguments
  split
  · rename_i entries rest
    obtain ⟨named, positional⟩ := List.forall_mem_append.1 h
    exact moves_bind (moves_splitEntries named) fun _ =>
      moves_bind (moves_splitPositional positional) fun _ => moves_pure _
  · rename_i notBlock
    refine moves_bind (moves_splitPositional fun n hn => h n (List.mem_append_right _ ?_))
      fun _ => moves_pure _
    unfold positionalNodes
    split
    · exact (notBlock _ _ rfl).elim
    · exact hn

end Arguments

/-! ### Values -/

section Values

variable {lib : Library} {callee : Value} {s t : EvalState}

theorem gives_of_keywordValue {n : Node} {v : Value}
    (h : (keywordValue lib callee n).run s = (.ok v, t)) : n.Gives v := by
  cases n
  case deferred => exact .deferred ..
  case symbol name =>
    obtain ⟨rfl, -⟩ := run_pure_eq_ok.1 h
    exact .symbol _
  case const w =>
    obtain ⟨rfl, -⟩ := run_pure_eq_ok.1 h
    exact .const _
  all_goals exact absurd h run_throw_ne_ok

theorem gives_of_argumentValue {index : Nat} {n : Node} {v : Value}
    (h : (argumentValue lib callee index n).run s = (.ok v, t)) : n.Gives v := by
  cases n
  case deferred => exact .deferred ..
  case symbol name =>
    obtain ⟨rfl, -⟩ := run_pure_eq_ok.1 h
    exact .symbol _
  case const w =>
    obtain ⟨rfl, -⟩ := run_pure_eq_ok.1 h
    exact .const _
  all_goals exact absurd h run_throw_ne_ok

theorem splitEntries_values {entries : List Entry} {known keywords : List (Value × Value)}
    (h : (splitEntries lib callee entries known).run s = (.ok keywords, t)) :
    ∀ k ∈ keywords, k ∈ known ∨ ∃ n, .keyword k.1 n ∈ entries ∧ n.Gives k.2 := by
  induction entries generalizing known s t with
  | nil =>
    obtain ⟨rfl, -⟩ := run_pure_eq_ok.1 h
    exact fun k hk => .inl hk
  | cons e rest ih =>
    cases e with
    | other n => exact absurd h run_throw_ne_ok
    | keyword name value =>
      rw [splitEntries] at h
      obtain ⟨-, u, -, h⟩ := run_bind_eq_ok.1 h
      split at h
      · obtain ⟨_, v, refused, -⟩ := run_bind_eq_ok.1 h
        exact absurd refused run_throw_ne_ok
      · obtain ⟨v, w, hvalue, hrest⟩ := run_bind_eq_ok.1 h
        intro k hk
        rcases ih hrest k hk with hknown | ⟨n, hn, hgives⟩
        · rcases List.mem_append.1 hknown with hknown | hnew
          · exact .inl hknown
          · rw [List.mem_singleton] at hnew
            subst hnew
            exact .inr ⟨value, List.mem_cons_self .., gives_of_keywordValue hvalue⟩
        · exact .inr ⟨n, List.mem_cons_of_mem _ hn, hgives⟩

theorem splitPositional_values {index : Nat} {nodes : List Node} {values : List Value}
    (h : (splitPositional lib callee index nodes).run s = (.ok values, t)) :
    ∀ v ∈ values, ∃ n ∈ nodes, n.Gives v := by
  induction nodes generalizing index s t values with
  | nil =>
    obtain ⟨rfl, -⟩ := run_pure_eq_ok.1 h
    simp
  | cons n rest ih =>
    unfold splitPositional at h
    split at h
    · obtain ⟨rfl, -⟩ := run_pure_eq_ok.1 h
      simp
    · exact absurd h run_throw_ne_ok
    · rename_i heq
      cases heq
      obtain ⟨v, u, hvalue, h⟩ := run_bind_eq_ok.1 h
      obtain ⟨vs, w, hrest, h⟩ := run_bind_eq_ok.1 h
      obtain ⟨rfl, -⟩ := run_pure_eq_ok.1 h
      rw [List.forall_mem_cons]
      refine ⟨⟨n, List.mem_cons_self .., gives_of_argumentValue hvalue⟩, fun v hv => ?_⟩
      obtain ⟨m, hm, hgives⟩ := ih hrest v hv
      exact ⟨m, List.mem_cons_of_mem _ hm, hgives⟩

/-- **Where the values of a call come from.** -/
theorem splitArguments_values {args : List Node} {keywords : List (Value × Value)}
    {values : List Value}
    (h : (splitArguments lib callee args).run s = (.ok (keywords, values), t)) :
    (∀ v ∈ values, ∃ n ∈ positionalNodes args, n.Gives v) ∧
      ∀ k ∈ keywords, ∃ n, .keyword k.1 n ∈ blockEntries args ∧ n.Gives k.2 := by
  unfold splitArguments at h
  split at h
  · obtain ⟨ks, u, hks, h⟩ := run_bind_eq_ok.1 h
    obtain ⟨vs, w, hvs, h⟩ := run_bind_eq_ok.1 h
    obtain ⟨heq, -⟩ := run_pure_eq_ok.1 h
    cases heq
    refine ⟨splitPositional_values hvs, fun k hk => ?_⟩
    exact (splitEntries_values hks k hk).resolve_left (List.not_mem_nil)
  · rename_i notBlock
    obtain ⟨vs, w, hvs, h⟩ := run_bind_eq_ok.1 h
    obtain ⟨heq, -⟩ := run_pure_eq_ok.1 h
    cases heq
    refine ⟨?_, by simp⟩
    unfold positionalNodes
    split
    · exact (notBlock _ _ rfl).elim
    · exact splitPositional_values hvs

end Values

/-- Keywords keep their values when their names are read as texts. -/
theorem keywordTexts_values {keywords : List (Value × Value)} {named : List (String × Value)}
    (h : keywordTexts keywords = .ok named) :
    ∀ p ∈ named, ∃ k ∈ keywords, k.1.bare = .str p.1 ∧ k.2 = p.2 := by
  induction keywords generalizing named with
  | nil =>
    simp only [keywordTexts, pure_eq_ok] at h
    simp [← h]
  | cons k rest ih =>
    obtain ⟨key, v⟩ := k
    simp only [keywordTexts] at h
    split at h
    · rename_i name hname
      simp only [bind_eq_ok, pure_eq_ok] at h
      obtain ⟨others, hothers, rfl⟩ := h
      rw [List.forall_mem_cons]
      refine ⟨⟨(key, v), List.mem_cons_self .., hname, rfl⟩, fun p hp => ?_⟩
      obtain ⟨k, hk, hspec⟩ := ih hothers p hp
      exact ⟨k, List.mem_cons_of_mem _ hk, hspec⟩
    · exact absurd h throw_ne_ok

end Laminar
