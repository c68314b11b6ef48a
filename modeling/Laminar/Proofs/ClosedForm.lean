import Mathlib
import Laminar.Proofs.Determinism

/-!
# Closed forms of calls

What a call compiles to can often be said in full before it is compiled: which instructions, how
many numbers are taken, and what becomes of the state.  This module is the calculus for such
statements.  It goes by the arguments a call amounts to and not by the tree that holds them, so that
a closed form of a layer can be used wherever the layer is called.

* `Application` is a call whose arguments have been evaluated, `Application.Of` relates it to the
  trees that amount to it.
* `Leaves lib depth app n m prog`: with the counter at `n` the call leaves `prog` and the counter at
  `m`.  The statement is exact: the call compiles if and only if the numbers from `n` to `m` can be
  written.  `LeavesInTurn` says the same of several calls.
* `Becomes` relates a statement of a body to the call it makes.
* `leaves_primitive` and `leaves_layer` build closed forms up: a layer leaves what the calls of its
  body leave in turn.  `Leaves.compileCall_iff` is what comes of it for a call from outside.
-/

namespace Laminar

/-! ### Calls with plain arguments -/

/-- A call whose arguments have been evaluated. -/
structure Application where
  callee : String
  values : List Value
  named : List (String × Value) := []
  /-- What receives the result. -/
  output : String

/-- The arguments amount to the call, and evaluating them leaves the counters alone. -/
def Application.Of (lib : Library) (app : Application) (args : List Node) : Prop :=
  ∀ c, Evaluated lib ⟨.str app.callee, args, .str app.output⟩ c app.values app.named c

/-- The entries of a block of constants. -/
def constantEntries (named : List (String × Value)) : List Entry :=
  named.map fun p => .keyword (.str p.1) (.const p.2)

/-- A node that stands for a value as it is: a symbol or a constant. -/
def Node.Plain (n : Node) (v : Value) : Prop := n = .symbol v ∨ n = .const v

section Arguments

variable {lib : Library} {callee : Value} {nodes : List Node} {values : List Value}

theorem run_splitPositional_plain (h : List.Forall₂ Node.Plain nodes values) (index : Nat)
    (s : EvalState) : (splitPositional lib callee index nodes).run s = (.ok values, s) := by
  induction h generalizing index with
  | nil => rfl
  | @cons n v nodes values hn _ ih =>
    have hstep : (splitPositional lib callee index (n :: nodes)).run s =
        (do return v :: (← splitPositional lib callee (index + 1) nodes) :
          Eval (List Value)).run s := by
      rcases hn with rfl | rfl <;> rfl
    rw [hstep, run_bind, ih]
    rfl

/-- Plain arguments after a block of constants. -/
theorem Application.of_block {app : Application} (hnodup : (app.named.map Prod.fst).Nodup)
    (h : List.Forall₂ Node.Plain nodes app.values) :
    app.Of lib (.parameters (constantEntries app.named) :: nodes) := by
  intro c
  have hsplit (s : EvalState) :
      (splitArguments lib (.str app.callee) (.parameters (constantEntries app.named) :: nodes)).run
        s = (.ok (app.named.map (Prod.map .str id), app.values), s) := by
    have hblock := (@splitEntries_constants_eq_ok lib (.str app.callee) [] app.named _ s s
      List.nodup_nil).2 ⟨hnodup, rfl, rfl⟩
    refine run_bind_eq_ok.2 ⟨_, s, hblock, ?_⟩
    rw [run_bind, run_splitPositional_plain h]
    rfl
  exact ⟨_, _, hsplit _, keywordTexts_map_str app.named, rfl⟩

/-- Plain arguments alone. -/
theorem Application.of_plain {app : Application} (hnamed : app.named = [])
    (h : List.Forall₂ Node.Plain nodes app.values) : app.Of lib nodes := by
  intro c
  have hnone : splitArguments lib (.str app.callee) nodes =
      (do return ([], ← splitPositional lib (.str app.callee) 0 nodes)) := by
    rcases nodes with _ | ⟨node, nodes⟩
    · rfl
    · obtain ⟨v, values, hv, -, -⟩ := List.forall₂_cons_left_iff.1 h
      rcases hv with rfl | rfl <;> rfl
  have hsplit (s : EvalState) :
      (splitArguments lib (.str app.callee) nodes).run s = (.ok ([], app.values), s) := by
    rw [hnone, run_bind, run_splitPositional_plain h]
    rfl
  exact ⟨_, _, hsplit _, by rw [hnamed]; rfl, rfl⟩

/-- The arguments of a call from outside. -/
theorem Application.of_callArguments {app : Application}
    (hnodup : (app.named.map Prod.fst).Nodup) :
    app.Of lib (callArguments app.values app.named) := by
  have hplain : List.Forall₂ Node.Plain (app.values.map .symbol) app.values :=
    List.forall₂_map_left_iff.2 (List.forall₂_same.2 fun v _ => .inl rfl)
  cases hnamed : app.named with
  | nil => exact Application.of_plain hnamed hplain
  | cons p named =>
    have hblock := @Application.of_block lib _ _ hnodup hplain
    rw [hnamed] at hblock
    exact hblock

end Arguments

/-! ### Statements with plain arguments -/

/-- A statement of a body makes a call with plain arguments. -/
def Becomes (lib : Library) (d : Definition) (a : Actuals) (s : BodyStatement) (app : Application) :
    Prop :=
  ∃ args, Filled d a s ⟨.str app.callee, args, .str app.output⟩ ∧ app.Of lib args

section Statements

variable {lib : Library} {d : Definition} {globals : ScopeId} {a : Actuals}

theorem fillKeywords_forward {named : List (String × Value)} (h : a.collected = named) :
    Definition.fillKeywords globals a [.forward] = .ok (constantEntries named) := by
  rw [constantEntries, ← h, ← List.append_nil (a.collected.map _)]
  rfl

theorem fillKeywords_named {name : String} {t : Term} {v : Value} {rest : List KeywordTerm}
    {named : List (String × Value)} (ht : Definition.fillTerm globals a t = .ok (.const v))
    (hrest : Definition.fillKeywords globals a rest = .ok (constantEntries named)) :
    Definition.fillKeywords globals a (.named name t :: rest) =
      .ok (constantEntries ((name, v) :: named)) :=
  bind_eq_ok.2 ⟨_, ht, bind_eq_ok.2 ⟨_, hrest, rfl⟩⟩

variable {s : BodyStatement} {app : Application} {nodes : List Node}

/-- A statement with keywords. -/
theorem becomes_block (htarget : a.get s.target = .ok (.str app.output))
    (hcallee : Definition.fillCallee a s.call.callee = .ok (.str app.callee))
    (hkeywords : s.call.keywords.isEmpty = false)
    (hentries : Definition.fillKeywords d.surroundings.globals a s.call.keywords =
      .ok (constantEntries app.named))
    (hnodup : (app.named.map Prod.fst).Nodup)
    (hnodes : Definition.fillTerms d.surroundings.globals a s.call.args = .ok nodes)
    (hplain : List.Forall₂ Node.Plain nodes app.values) : Becomes lib d a s app := by
  refine ⟨_, ⟨htarget, hcallee, _, _, hentries, hnodes, ?_⟩, Application.of_block hnodup hplain⟩
  rw [Definition.withParameters, hkeywords]
  rfl

/-- A statement without keywords. -/
theorem becomes_plain (htarget : a.get s.target = .ok (.str app.output))
    (hcallee : Definition.fillCallee a s.call.callee = .ok (.str app.callee))
    (hkeywords : s.call.keywords = []) (hnamed : app.named = [])
    (hnodes : Definition.fillTerms d.surroundings.globals a s.call.args = .ok nodes)
    (hplain : List.Forall₂ Node.Plain nodes app.values) : Becomes lib d a s app := by
  refine ⟨_, ⟨htarget, hcallee, [], _, ?_, hnodes, ?_⟩, Application.of_plain hnamed hplain⟩
  · rw [hkeywords]
    rfl
  · rw [hkeywords]
    rfl

end Statements

/-! ### Closed forms -/

/-- **What a call leaves.** With the counter at `n`, the call compiles exactly if the numbers up to
`m` can be written; then it leaves the program and the counter at `m`, and nothing else changes. -/
structure Leaves (lib : Library) (depth : Nat) (app : Application) (n m : Int) (prog : Program) :
    Prop where
  le : n ≤ m
  run_iff {args : List Node} (hargs : app.Of lib args) {s t : Compiler} {p : Program}
    (hs : s.counters.current = n) :
    (resolveCall lib depth (.str app.callee) args (.str app.output)).run s = (.ok p, t) ↔
      Mintable n m ∧ p = prog ∧ t = { s with counters := s.counters.setCurrent m }

/-- **What calls leave in turn.** -/
inductive LeavesInTurn (lib : Library) (depth : Nat) :
    List Application → Int → Int → Program → Prop where
  | nil (n : Int) : LeavesInTurn lib depth [] n n []
  | cons {app : Application} {apps : List Application} {n m k : Int} {prog prog' : Program}
      (first : Leaves lib depth app n m prog) (rest : LeavesInTurn lib depth apps m k prog') :
      LeavesInTurn lib depth (app :: apps) n k (prog ++ prog')

/-- What the statements of a body leave; they mark lines on the way. -/
structure BodyLeaves (lib : Library) (depth : Nat) (nodes : List Node) (n m : Int)
    (prog : Program) (lines : List Int) : Prop where
  le : n ≤ m
  run_iff {s t : Compiler} {p : Program} (hs : s.counters.current = n) :
    (compileNodes (resolveCall lib depth) nodes).run s = (.ok p, t) ↔
      Mintable n m ∧ p = prog ∧
        t = { lines.foldl Compiler.marked s with counters := s.counters.setCurrent m }

section Building

variable {lib : Library} {depth : Nat} {n m k : Int} {prog prog' : Program}

theorem mintable_iff (hle : n ≤ m) (hle' : m ≤ k) :
    Mintable n k ↔ Mintable n m ∧ Mintable m k :=
  ⟨fun h => h.split hle hle', fun h => h.1.trans h.2⟩

theorem setCurrent_setCurrent (c : Counters) (n m : Int) :
    (c.setCurrent n).setCurrent m = c.setCurrent m := by
  obtain ⟨shared, own, sources⟩ := c
  cases own <;> rfl

/-! ### Marked lines -/

/-- Marking lines has nothing to do with the counters. -/
theorem foldl_marked_counters (lines : List Int) (s : Compiler) (c : Counters) :
    lines.foldl Compiler.marked { s with counters := c } =
      { lines.foldl Compiler.marked s with counters := c } := by
  have hone (s : Compiler) (line : Int) :
      Compiler.marked { s with counters := c } line = { s.marked line with counters := c } := by
    obtain ⟨counters, frames⟩ := s
    cases frames <;> rfl
  induction lines generalizing s with
  | nil => rfl
  | cons line lines ih => rw [List.foldl_cons, hone, ih, List.foldl_cons]

/-- Lines are marked in the innermost frame only. -/
theorem tail_frames_foldl_marked (lines : List Int) (s : Compiler) :
    (lines.foldl Compiler.marked s).frames.tail = s.frames.tail := by
  have hone (s : Compiler) (line : Int) : (s.marked line).frames.tail = s.frames.tail := by
    obtain ⟨counters, frames⟩ := s
    cases frames <;> rfl
  induction lines generalizing s with
  | nil => rfl
  | cons line lines ih => rw [List.foldl_cons, ih, hone]

/-! ### Calls -/

/-- A call that amounts to something is compiled further. -/
theorem run_resolveCall_of_ok {callee : Value} {args : List Node} {output : Value} {s : Compiler}
    {o : Outcome} {after : Counters}
    (h : expandCall lib callee args output s.counters = (.ok o, after)) :
    (resolveCall lib (depth + 1) callee args output).run s =
      (compileOutcome (resolveCall lib depth) callee o).run { s with counters := after } := by
  rw [resolveCall, run_bind, run_get]
  simp only [h]
  cases o <;> rfl

/-- A primitive leaves one instruction and takes no number. -/
theorem leaves_primitive {app : Application} {p : Primitive} {i : Instruction}
    (hp : lib.registry.Names (.str app.callee) (.primitive p))
    (hi : p.instruction (unlabelledList (app.values ++ [.str app.output]))
      (unlabelledNamed app.named) = .ok i) (n : Int) :
    Leaves lib (depth + 1) app n n [i] where
  le := le_refl n
  run_iff {args} hargs {s t prog} hs := by
    have hcall := expandCall_of_primitive (hargs s.counters) hp hi
    have hsame : s.counters.setCurrent n = s.counters := by rw [← hs, setCurrent_current]
    rw [run_resolveCall_of_ok hcall, compileOutcome, run_pure_eq_ok, hsame, eq_comm,
      eq_comm (b := t)]
    exact ⟨fun h => ⟨Mintable.refl n, h⟩, And.right⟩

/-- The call of a layer amounts to nothing if a number for its inner results cannot be written. -/
theorem expandCall_of_unwritable {d : Definition} {b : Binding} {out : String} {callee : Value}
    {args : List Node} {output : Value} {c c₁ : Counters} {values : List Value}
    {named : List (String × Value)} {number : Int}
    (hargs : Evaluated lib ⟨callee, args, output⟩ c values named c₁)
    (hd : lib.registry.Names callee (.composite d))
    (hbind : d.bindCall values output named = .ok (b, out))
    (hnumber : firstUnwritable d.inner.length c₁.current = some number) (o : Outcome)
    (after : Counters) : expandCall lib callee args output c ≠ (.ok o, after) := by
  obtain ⟨keywords, s, hsplit, hnamed, rfl⟩ := hargs
  obtain ⟨g, hlookup, hbody⟩ := hd.lookup
  simp only [expandCall, hsplit, hlookup, Generator.invoke, hbody, hnamed, Definition.generate,
    hbind, hnumber]
  simp

/-- Compiling in a frame is compiling with the frame on top, which is popped in the end. -/
theorem run_withFrame_eq_ok {α : Type} {layer : String} {body : Compile α} {a : α}
    {s t : Compiler} :
    (withFrame layer body).run s = (.ok a, t) ↔
      ∃ u, body.run { s with frames := { layer } :: s.frames } = (.ok a, u) ∧
        t = { u with frames := u.frames.tail } := by
  constructor
  · intro h
    obtain ⟨hresult, rfl⟩ := Prod.mk.inj h
    exact ⟨_, Prod.ext hresult rfl, rfl⟩
  · rintro ⟨u, hbody, rfl⟩
    exact withFrame_of_run hbody

/-- What a body leaves in a frame, once the frame is popped. -/
theorem BodyLeaves.run_withFrame_iff {nodes : List Node} {lines : List Int}
    (h : BodyLeaves lib depth nodes n m prog lines) {layer : String} {s t : Compiler} {p : Program}
    (hs : s.counters.current = n) :
    (withFrame layer (compileNode (resolveCall lib depth) (.block nodes))).run s = (.ok p, t) ↔
      Mintable n m ∧ p = prog ∧ t = { s with counters := s.counters.setCurrent m } := by
  have hinside {u : Compiler} := @h.run_iff { s with frames := { layer } :: s.frames } u p hs
  rw [run_withFrame_eq_ok]
  constructor
  · rintro ⟨u, hrun, rfl⟩
    obtain ⟨hmintable, rfl, rfl⟩ := hinside.1 hrun
    refine ⟨hmintable, rfl, ?_⟩
    rw [tail_frames_foldl_marked]
    rfl
  · rintro ⟨hmintable, rfl, rfl⟩
    refine ⟨_, hinside.2 ⟨hmintable, rfl, rfl⟩, ?_⟩
    rw [tail_frames_foldl_marked]
    rfl

/-! ### Bodies -/

theorem bodyLeaves_nil (n : Int) : BodyLeaves lib depth [] n n [] [] where
  le := le_refl n
  run_iff {s t p} hs := by
    have hsame : s.counters.setCurrent n = s.counters := by rw [← hs, setCurrent_current]
    rw [compileNodes, run_pure_eq_ok, List.foldl_nil, hsame, eq_comm, eq_comm (b := t)]
    exact ⟨fun h => ⟨Mintable.refl n, h⟩, And.right⟩

/-- **One statement more.** -/
theorem bodyLeaves_cons {app : Application} {args rest : List Node} {lines : List Int} {line : Int}
    {file : SourceFile} (hfirst : Leaves lib depth app n m prog) (hargs : app.Of lib args)
    (hrest : BodyLeaves lib depth rest m k prog' lines) :
    BodyLeaves lib depth
      (.line line file ::
        .assign (.symbol (.str app.output)) (.call (.str app.callee) args) :: rest)
      n k (prog ++ prog') (line :: lines) where
  le := hfirst.le.trans hrest.le
  run_iff {s t p} hs := by
    have hmarked : (s.marked line).counters.current = n := by rw [counters_marked, hs]
    rw [run_compileNodes_statement, run_bind_eq_ok, mintable_iff hfirst.le hrest.le]
    constructor
    · rintro ⟨first, u, hrun, hmore⟩
      obtain ⟨hn, rfl, rfl⟩ := (hfirst.run_iff hargs hmarked).1 hrun
      obtain ⟨others, v, hrun, hdone⟩ := run_bind_eq_ok.1 hmore
      obtain ⟨hm, rfl, rfl⟩ := (hrest.run_iff (Counters.current_setCurrent _ _)).1 hrun
      obtain ⟨rfl, rfl⟩ := run_pure_eq_ok.1 hdone
      refine ⟨⟨hn, hm⟩, rfl, ?_⟩
      rw [foldl_marked_counters, setCurrent_setCurrent, counters_marked]
      rfl
    · rintro ⟨⟨hn, hm⟩, rfl, rfl⟩
      refine ⟨_, _, (hfirst.run_iff hargs hmarked).2 ⟨hn, rfl, rfl⟩, ?_⟩
      refine run_bind_eq_ok.2 ⟨_, _,
        (hrest.run_iff (Counters.current_setCurrent _ _)).2 ⟨hm, rfl, rfl⟩, ?_⟩
      rw [foldl_marked_counters, setCurrent_setCurrent, counters_marked]
      rfl

/-- The calls of a body are filled in, and leave what they leave in turn. -/
theorem exists_bodyLeaves {d : Definition} {a : Actuals} {body : List BodyStatement}
    {apps : List Application} (hbody : List.Forall₂ (Becomes lib d a) body apps)
    (h : LeavesInTurn lib depth apps n m prog) :
    ∃ statements lines,
      Definition.fillBody d.file d.surroundings.globals a body = .ok statements ∧
        BodyLeaves lib depth statements n m prog lines := by
  induction h generalizing body with
  | nil n =>
    obtain rfl := List.forall₂_nil_right_iff.1 hbody
    exact ⟨[], [], rfl, bodyLeaves_nil n⟩
  | cons first rest ih =>
    obtain ⟨s, body, ⟨args, hfilled, hargs⟩, hmore, rfl⟩ := List.forall₂_cons_right_iff.1 hbody
    obtain ⟨others, lines, hothers, hleaves⟩ := ih hmore
    exact ⟨_, _, fillBody_cons_of_filled hfilled hothers, bodyLeaves_cons first hargs hleaves⟩

/-- **A layer leaves what the calls of its body leave in turn**, after a number for each of its
inner results. -/
theorem leaves_layer {app : Application} {d : Definition} {b : Binding} {out : String}
    {apps : List Application} (hd : lib.registry.Names (.str app.callee) (.composite d))
    (hbind : d.bindCall app.values (.str app.output) app.named = .ok (b, out))
    (hcalls : List.Forall₂
      (Becomes lib d (d.actuals b (lib.scopes.closure d.surroundings) out n)) d.body apps)
    (hturn : LeavesInTurn lib depth apps (n + d.inner.length) m prog) :
    Leaves lib (depth + 1) app n m prog := by
  obtain ⟨statements, lines, hfill, hbody⟩ := exists_bodyLeaves hcalls hturn
  have hle := hbody.le
  refine ⟨by omega, @fun args hargs s t p hs => ?_⟩
  have hargs := hargs s.counters
  rw [mintable_iff (by omega) hbody.le, ← firstUnwritable_eq_none_iff]
  cases hnumbers : firstUnwritable d.inner.length n with
  | none =>
    have hcall := expandCall_of_composite hargs hd hbind (hs.symm ▸ hnumbers) (hs.symm ▸ hfill)
    rw [run_resolveCall_of_ok hcall, compileOutcome,
      hbody.run_withFrame_iff (by rw [Counters.current_setCurrent, hs]), setCurrent_setCurrent]
    simp
  | some number =>
    have hcall := expandCall_of_unwritable hargs hd hbind (hs.symm ▸ hnumbers)
    rw [resolveCall_eq_ok]
    refine iff_of_false ?_ fun h => Option.some_ne_none _ h.1.1
    rintro ⟨o, after, hamounts, -⟩
    exact hcall o after hamounts

/-- **A call from outside** leaves what the call leaves, without any frame. -/
theorem Leaves.compileCall_iff {app : Application} (h : Leaves lib depth app n m prog)
    (hnodup : (app.named.map Prod.fst).Nodup) {c t : Compiler} {p : Program}
    (hc : c.counters.current = n) :
    (compileCall lib depth (.str app.callee) app.values (.str app.output) app.named).run c =
        (.ok p, t) ↔
      Mintable n m ∧ p = prog ∧ t = { counters := c.counters.setCurrent m } := by
  rw [run_compileCall]
  exact h.run_iff (Application.of_callArguments hnodup) hc

end Building

end Laminar
