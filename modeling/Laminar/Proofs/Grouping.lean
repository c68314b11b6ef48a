import Mathlib
import Laminar.Proofs.Forwarding

/-!
# Grouping does not matter

A tree that is compiled may group its statements in blocks, blocks in blocks, and may mark lines
anywhere.  All that reaches the program is the sequence of the other statements.  And a program is
itself such a sequence: given as a block, it compiles to itself.

* `splicedAll` takes blocks apart and leaves line marks out; `isGrouping_of_mem_spliced` says that
  nothing of either kind is left.
* `Matches m m'`: two compilations achieve the same, program and counters.  They need not leave the
  same frames, since a mark that was left out changed a line there.
* `matches_spliced`: a tree compiles to what its spliced statements compile to.
* `compile_ignores_grouping` is the theorem.

**Design.** The frames are what the two walks differ in, and calls are resolved under these frames.
So the argument needs that resolving a call does not look at them, which is `achieves_resolveCall`.
-/

namespace Laminar

/-! ### Programs as trees -/

/-- A program as a tree: a block of its instructions. -/
def Node.ofProgram (prog : Program) : Node := .block (prog.map fun i => .raw i.toValue)

/-- An instruction compiles to itself. -/
theorem compileNode_instruction (resolve : Resolver) (i : Instruction) :
    compileNode resolve (.raw i.toValue) = pure [i] := by
  have hread := Value.instruction?_toValue i
  rw [Instruction.toValue] at hread ⊢
  rw [compileNode_tuple, hread]

/-- **A program compiles to itself**, whatever calls would be resolved to. -/
theorem compileNode_ofProgram (resolve : Resolver) (prog : Program) :
    compileNode resolve (.ofProgram prog) = pure prog := by
  change compileNodes resolve (prog.map fun i => .raw i.toValue) = pure prog
  induction prog with
  | nil => rfl
  | cons i rest ih =>
    rw [List.map_cons, compileNodes_cons, compileNode_instruction, pure_bind, ih, pure_bind]
    rfl

/-! ### Splicing -/

mutual

/-- The statements that a tree stands for: those of a block, none for a line mark, and otherwise the
tree itself. -/
def Node.spliced : Node → List Node
  | .block statements => splicedAll statements
  | .line _ _ => []
  | n => [n]
termination_by structural n => n

/-- Statements with blocks spliced in their places and line marks left out. -/
def splicedAll : List Node → List Node
  | [] => []
  | n :: rest => n.spliced ++ splicedAll rest
termination_by structural ns => ns

end

/-- Is a statement there for grouping only: a block or a line mark? -/
def Node.isGrouping : Node → Bool
  | .block _ => true
  | .line _ _ => true
  | _ => false

theorem Node.isGrouping_eq_false {n : Node} (notBlock : ∀ statements, n = .block statements → False)
    (notLine : ∀ number file, n = .line number file → False) : n.isGrouping = false := by
  cases n
  case block statements => exact (notBlock statements rfl).elim
  case line number file => exact (notLine number file rfl).elim
  all_goals rfl

/-- A statement that is there for itself is left alone. -/
theorem Node.spliced_eq_singleton {n : Node} (h : n.isGrouping = false) : n.spliced = [n] := by
  cases n
  case block | line => cases h
  all_goals rfl

/-- No block and no line mark is left. -/
theorem isGrouping_of_mem_spliced :
    (∀ n : Node, ∀ m ∈ n.spliced, m.isGrouping = false) ∧
      ∀ ns : List Node, ∀ m ∈ splicedAll ns, m.isGrouping = false := by
  apply Node.spliced.mutual_induct
  case case1 => exact fun statements ih => ih
  case case2 =>
    intro number file m hm
    cases hm
  case case3 =>
    intro n notBlock notLine m hm
    have hself := Node.isGrouping_eq_false notBlock notLine
    rw [Node.spliced_eq_singleton hself, List.mem_singleton] at hm
    rw [hm, hself]
  case case4 =>
    intro m hm
    cases hm
  case case5 =>
    intro n rest first others m hm
    rcases List.mem_append.1 hm with hm | hm
    · exact first m hm
    · exact others m hm

/-! ### Compilations that match -/

/-- Two compilations achieve the same. -/
def Matches {α : Type} (m m' : Compile α) : Prop := Achieves m m' ∧ Achieves m' m

section Matches

variable {α β : Type}

theorem matches_pure (a : α) : Matches (pure a) (pure a) := ⟨achieves_pure a, achieves_pure a⟩

theorem Matches.bind {m m' : Compile α} {k k' : α → Compile β} (hm : Matches m m')
    (hk : ∀ a, Matches (k a) (k' a)) : Matches (m >>= k) (m' >>= k') :=
  ⟨achieves_bind hm.1 fun a => (hk a).1, achieves_bind hm.2 fun a => (hk a).2⟩

/-- A line mark achieves nothing. -/
theorem matches_markLine (line : Int) (a : α) :
    Matches (do markLine line; return a) (pure a) := by
  constructor
  · intro s s' b t hc h
    obtain ⟨⟨⟩, u, hmark, h⟩ := run_bind_eq_ok.1 h
    obtain ⟨rfl, rfl⟩ := run_pure_eq_ok.1 h
    exact ⟨s', rfl, hc.trans (counters_of_markLine hmark).symm⟩
  · intro s s' b t hc h
    obtain ⟨rfl, rfl⟩ := run_pure_eq_ok.1 h
    refine ⟨s'.marked line, ?_, ?_⟩
    · rw [run_bind, run_markLine]
      rfl
    · rw [counters_marked, hc]

/-- What two matching compilations achieve from one state. -/
theorem Matches.exists_iff {m m' : Compile α} (h : Matches m m') (s : Compiler) (a : α)
    (after : Counters) :
    (∃ t, m.run s = (.ok a, t) ∧ t.counters = after) ↔
      ∃ t, m'.run s = (.ok a, t) ∧ t.counters = after := by
  constructor
  · rintro ⟨t, hrun, rfl⟩
    exact h.1 s s a t rfl hrun
  · rintro ⟨t, hrun, rfl⟩
    exact h.2 s s a t rfl hrun

end Matches

/-! ### Spliced statements -/

section Compilation

variable {resolve : Resolver}

/-- Statements in two parts are compiled one part after the other. -/
theorem compileNodes_append (resolve : Resolver) (xs ys : List Node) :
    compileNodes resolve (xs ++ ys) = (do
      let first ← compileNodes resolve xs
      return first ++ (← compileNodes resolve ys)) := by
  induction xs with
  | nil =>
    rw [List.nil_append]
    change _ = (pure [] >>= fun first => do return first ++ (← compileNodes resolve ys))
    rw [pure_bind]
    simp only [List.nil_append, bind_pure]
  | cons x xs ih =>
    rw [List.cons_append, compileNodes_cons, compileNodes_cons, ih]
    simp only [bind_assoc, pure_bind, List.append_assoc]

/-- A statement alone is compiled as it is. -/
theorem compileNodes_singleton (resolve : Resolver) (n : Node) :
    compileNodes resolve [n] = compileNode resolve n := by
  rw [compileNodes_cons]
  change (compileNode resolve n >>= fun first => (pure [] >>= fun rest => pure (first ++ rest))) = _
  simp only [pure_bind, List.append_nil, bind_pure]

/-- **A tree compiles to what its spliced statements compile to**, if resolving a call depends on
the counters only.  The induction is over the tree; a block hands the claim on to its statements. -/
theorem matches_spliced
    (hresolve : ∀ callee args output,
      Achieves (resolve callee args output) (resolve callee args output)) :
    (∀ n, Matches (compileNode resolve n) (compileNodes resolve n.spliced)) ∧
      ∀ ns, Matches (compileNodes resolve ns) (compileNodes resolve (splicedAll ns)) := by
  apply Node.spliced.mutual_induct
  case case1 => exact fun statements ih => ih
  case case2 =>
    intro number file
    rw [compileNode_line]
    exact matches_markLine number []
  case case3 =>
    intro n notBlock notLine
    have hself : Achieves (compileNode resolve n) (compileNode resolve n) :=
      (stepClosed_achieves.compileNode hresolve).1 n
    rw [Node.spliced_eq_singleton (Node.isGrouping_eq_false notBlock notLine),
      compileNodes_singleton]
    exact ⟨hself, hself⟩
  case case4 => exact matches_pure []
  case case5 =>
    intro n rest first others
    have hspliced : splicedAll (n :: rest) = n.spliced ++ splicedAll rest := rfl
    rw [hspliced, compileNodes_cons, compileNodes_append]
    exact first.bind fun _ => others.bind fun _ => matches_pure _

end Compilation

/-- **Compilation is a projection onto programs, and ignores grouping.** Whatever is registered, a
program that some tree compiled to compiles to itself and leaves the compiler as it was.  And a
block compiles exactly if the block of its spliced statements does, which holds no block and no line
mark any more, and then to the same program and with the same counters after it.  The sources of
samples, whatever they yield, are used in the same order by both. -/
theorem compile_ignores_grouping (lib : Library) (depth : Nat) :
    (∀ n s prog s', (compile lib depth n).run s = (.ok prog, s') →
      ∀ depth' t, (compile lib depth' (.ofProgram prog)).run t = (.ok prog, t)) ∧
    ∀ statements : List Node,
      (∀ m ∈ splicedAll statements, m.isGrouping = false) ∧
      ∀ s prog after,
        (∃ t, (compile lib depth (.block statements)).run s = (.ok prog, t) ∧ t.counters = after) ↔
          ∃ t, (compile lib depth (.block (splicedAll statements))).run s = (.ok prog, t) ∧
            t.counters = after := by
  refine ⟨fun n s prog s' _ depth' t => ?_, fun statements => ⟨?_, fun s prog after => ?_⟩⟩
  · rw [compile, compileNode_ofProgram]
    rfl
  · exact isGrouping_of_mem_spliced.2 statements
  · have hresolve : ∀ callee args output, Achieves (resolveCall lib depth callee args output)
        (resolveCall lib depth callee args output) := achieves_resolveCall (le_refl depth)
    exact ((matches_spliced hresolve).2 statements).exists_iff s prog after

end Laminar
