import Mathlib
import Laminar.Proofs.Forwarding

/-!
# Two ways to compile a layer

A layer function can be called, which yields a block, and the block can be compiled.  Or the
function can be asked to compile the call itself.

The first way expands the layer by hand: its arguments are bound as they come, and no frame stands
around the block.  The second one wraps the arguments into a tree, takes the tree apart again, looks
the layer up by its name, and compiles the block in a frame of the layer.

* `LayerFunction.compileBlock` is the first way.
* `LayerFunction.compile_eq_ok`: the second way succeeds exactly if the layer generates a block that
  compiles in its frame.  What the arguments went through has left no trace.
* `LayerFunction.compile_iff_compileBlock`: both ways give the same programs and leave the same
  counters.
-/

namespace Laminar

namespace LayerFunction

/-- Call a layer function, and compile the block that it yields. -/
def compileBlock (f : LayerFunction) (lib : Library) (depth : Nat) (symbols : List Value)
    (params : List (String × Value)) : Compile Program := do
  let s ← get
  let (block, after) := f.call lib.scopes symbols params s.counters.shared
  set { s with counters := { s.counters with shared := after } }
  Laminar.compile lib depth (← MonadExcept.ofExcept block)

variable {f : LayerFunction} {lib : Library} {depth : Nat} {symbols : List Value}
  {params : List (String × Value)} {s t : Compiler} {prog : Program}

theorem compileBlock_eq_ok :
    (f.compileBlock lib depth symbols params).run s = (.ok prog, t) ↔
      ∃ block after, f.call lib.scopes symbols params s.counters.shared = (.ok block, after) ∧
        (compileNode (resolveCall lib depth) block).run
          { s with counters := { s.counters with shared := after } } = (.ok prog, t) := by
  rw [compileBlock, run_bind, run_get]
  rcases hcall : f.call lib.scopes symbols params s.counters.shared with ⟨e | block, after⟩
  · simp only [hcall, run_bind, run_set, run_ofExcept, Prod.mk.injEq, reduceCtorEq, false_and,
      exists_false, iff_false]
    rintro ⟨⟩
  · simp only [hcall, run_bind, run_set, run_ofExcept, Prod.mk.injEq, Except.ok.injEq]
    constructor
    · exact fun h => ⟨block, after, ⟨rfl, rfl⟩, h⟩
    · rintro ⟨_, _, ⟨rfl, rfl⟩, h⟩
      exact h

/-- No parameter takes the place of the function that is called. -/
theorem checkSelf_eq_ok {function : String} (h : ∀ p ∈ params, p.1 ≠ "self") :
    checkSelf function params = .ok () := by
  have hnone : ¬ params.any (·.1 == "self") = true := by
    rw [List.any_eq_true]
    rintro ⟨p, hp, hself⟩
    exact h p hp (beq_iff_eq.1 hself)
  rw [checkSelf, if_neg hnone]

/-- A call of a layer function generates the block of the layer; the last symbol is the output. -/
theorem call_eq_generate (hself : ∀ p ∈ params, p.1 ≠ "self") {output : Value}
    (hlast : symbols.getLast? = some output) (scopes : Scopes) (n : Int) :
    f.call scopes symbols params n =
      f.definition.generate (scopes.closure f.definition.surroundings) symbols.dropLast output
        params n := by
  have hsymbols : f.symbols symbols params = .ok (symbols.dropLast, output) := by
    rw [LayerFunction.symbols, checkSelf_eq_ok hself, splitSymbols, hlast]
    rfl
  rw [LayerFunction.call, hsymbols]

/-- Compiling a call of a layer function resolves a call of its name from outside. -/
theorem run_compile (hself : ∀ p ∈ params, p.1 ≠ "self") {output : Value}
    (hlast : symbols.getLast? = some output) :
    (f.compile lib depth symbols params).run s =
      (resolveCall lib depth (.str f.definition.name) (callArguments symbols.dropLast params)
        output).run { s with frames := [] } := by
  simp only [LayerFunction.compile, checkSelf_eq_ok hself, splitSymbols, hlast, run_bind,
    run_ofExcept, run_compileCall]

/-- Without an output, nothing is compiled in either way. -/
theorem exists_output_of_compile
    (h : (f.compile lib depth symbols params).run s = (.ok prog, t)) :
    ∃ output, symbols.getLast? = some output := by
  cases hlast : symbols.getLast? with
  | some output => exact ⟨output, rfl⟩
  | none =>
    obtain ⟨_, _, -, h⟩ := run_bind_eq_ok.1 h
    obtain ⟨_, _, hsplit, -⟩ := run_bind_eq_ok.1 h
    rw [run_ofExcept, splitSymbols, hlast] at hsplit
    cases hsplit

theorem exists_output_of_call {scopes : Scopes} {n after : Int} {block : Node}
    (h : f.call scopes symbols params n = (.ok block, after)) :
    ∃ output, symbols.getLast? = some output := by
  cases hlast : symbols.getLast? with
  | some output => exact ⟨output, rfl⟩
  | none =>
    unfold LayerFunction.call at h
    split at h
    · cases h
    · rename_i hsymbols
      obtain ⟨_, -, hsplit⟩ := bind_eq_ok.1 hsymbols
      rw [splitSymbols, hlast] at hsplit
      cases hsplit

/-- **The function compiles a call exactly if the block of the call compiles** in the frame of the
layer. -/
theorem compile_eq_ok {g : Generator} (hget : lib.registry.get? f.definition.name = some g)
    (hg : g.body = .composite f.definition) (hnodup : (params.map Prod.fst).Nodup)
    (hself : ∀ p ∈ params, p.1 ≠ "self") {n : Int} {sources : Nat} :
    (f.compile lib (depth + 1) symbols params).run { counters := { shared := n, sources } } =
        (.ok prog, t) ↔
      ∃ block after, f.call lib.scopes symbols params n = (.ok block, after) ∧
        (withFrame (Value.display (.str f.definition.name))
          (compileNode (resolveCall lib depth) block)).run
            { counters := { shared := after, sources } } = (.ok prog, t) := by
  constructor
  · intro h
    obtain ⟨output, hlast⟩ := exists_output_of_compile h
    rw [run_compile hself hlast] at h
    obtain ⟨o, after, hcall, hrest⟩ := resolveCall_eq_ok.1 h
    obtain ⟨block, m, hgenerate, rfl, rfl⟩ := (expandCall_layer_eq_ok hget hg hnodup).1 hcall
    exact ⟨block, m, (call_eq_generate hself hlast lib.scopes n).trans hgenerate, hrest⟩
  · rintro ⟨block, m, hcall, hrest⟩
    obtain ⟨output, hlast⟩ := exists_output_of_call hcall
    rw [call_eq_generate hself hlast] at hcall
    rw [run_compile hself hlast]
    exact resolveCall_eq_ok.2 ⟨.block block, { shared := m, sources },
      (expandCall_layer_eq_ok hget hg hnodup).2 ⟨block, m, hcall, rfl, rfl⟩, hrest⟩

/-- **A frame around the block makes no difference.** What comes of calling a function and compiling
its block is what comes of letting the function compile the call, one level deeper. -/
theorem exists_compileBlock_iff {g : Generator}
    (hget : lib.registry.get? f.definition.name = some g) (hg : g.body = .composite f.definition)
    (hnodup : (params.map Prod.fst).Nodup) (hself : ∀ p ∈ params, p.1 ≠ "self") {n : Int}
    {sources : Nat} {after : Counters} :
    (∃ t, (f.compileBlock lib depth symbols params).run { counters := { shared := n, sources } } =
        (.ok prog, t) ∧ t.counters = after) ↔
      ∃ t, (f.compile lib (depth + 1) symbols params).run { counters := { shared := n, sources } } =
        (.ok prog, t) ∧ t.counters = after := by
  have achieves (block : Node) : Achieves (compileNode (resolveCall lib depth) block)
      (compileNode (resolveCall lib depth) block) :=
    (stepClosed_achieves.compileNode (achieves_resolveCall le_rfl)).1 block
  let bare (m : Int) : Compiler := { counters := { shared := m, sources } }
  let framed (m : Int) : Compiler :=
    { bare m with frames := [{ layer := Value.display (.str f.definition.name) }] }
  constructor
  · rintro ⟨t, h, rfl⟩
    obtain ⟨block, m, hcall, hblock⟩ := compileBlock_eq_ok.1 h
    obtain ⟨u, hframed, hu⟩ := achieves block (bare m) (framed m) prog t rfl hblock
    have hcompile := (compile_eq_ok hget hg hnodup hself).2
      ⟨block, m, hcall, withFrame_of_run hframed⟩
    exact ⟨_, hcompile, hu⟩
  · rintro ⟨t, h, rfl⟩
    obtain ⟨block, m, hcall, hrun⟩ := (compile_eq_ok hget hg hnodup hself).1 h
    obtain ⟨u, hframed, ht⟩ := run_withFrame hrun
    obtain ⟨v, hblock, hv⟩ := achieves block (framed m) (bare m) prog u rfl hframed
    exact ⟨v, compileBlock_eq_ok.2 ⟨block, m, hcall, hblock⟩, hv.trans ht.symm⟩

/-- **The two ways to compile a layer agree.** Let the registry hold the layer of a function under
its own name, and let parameters be given once each, neither `self` nor `namer` among them.  From
any value of the shared counter, and after any number of sources of samples, calling the function
and compiling its block succeeds exactly if the function compiles the call itself, one level deeper,
and then with the same program and counters: both ways draw the same samples, whatever they are.
Whatever the limits on nesting, a program that comes about in one way is the one that comes about in
the other. -/
theorem compile_iff_compileBlock {g : Generator}
    (hget : lib.registry.get? f.definition.name = some g) (hg : g.body = .composite f.definition)
    (symbols : List Value) (hnodup : (params.map Prod.fst).Nodup)
    (hparams : ∀ p ∈ params, p.1 ∉ ["self", "namer"]) (n : Int) (sources : Nat) :
    (∀ depth prog after,
      (∃ t, (f.compileBlock lib depth symbols params).run { counters := { shared := n, sources } } =
          (.ok prog, t) ∧ t.counters = after) ↔
        ∃ t, (f.compile lib (depth + 1) symbols params).run
          { counters := { shared := n, sources } } = (.ok prog, t) ∧ t.counters = after) ∧
    ∀ depth depth' prog prog' t t',
      (f.compileBlock lib depth symbols params).run { counters := { shared := n, sources } } =
          (.ok prog, t) →
        (f.compile lib depth' symbols params).run { counters := { shared := n, sources } } =
          (.ok prog', t') →
        prog = prog' ∧ t.counters = t'.counters := by
  have hself (p : String × Value) (hp : p ∈ params) : p.1 ≠ "self" := by
    intro heq
    refine hparams p hp ?_
    rw [heq]
    exact List.mem_cons_self
  refine ⟨fun depth prog after => exists_compileBlock_iff hget hg hnodup hself,
    fun depth depth' prog prog' t t' hblock hcompile => ?_⟩
  obtain ⟨u, hu, hcounters⟩ :=
    (exists_compileBlock_iff hget hg hnodup hself).1 ⟨t, hblock, rfl⟩
  obtain ⟨output, hlast⟩ := exists_output_of_compile hcompile
  rw [run_compile hself hlast] at hu hcompile
  obtain ⟨hprog, ht⟩ := resolveCall_unique hu hcompile
  exact ⟨hprog, hcounters.symm.trans ht⟩

/-- The affine layer with a hundred outputs, from a counter that is at seven. -/
theorem compile_iff_compileBlock_affine :
    (∃ prog t, ((⟨Standard.wb, 0⟩ : LayerFunction).compileBlock Library.standard 3
        [.str "a", .str "b"] [("out", .int 100)]).run { counters := { shared := 7 } } =
          (.ok prog, t) ∧ t.counters = { shared := 10 }) ∧
    ∃ prog t, ((⟨Standard.wb, 0⟩ : LayerFunction).compile Library.standard 4
        [.str "a", .str "b"] [("out", .int 100)]).run { counters := { shared := 7 } } =
          (.ok prog, t) ∧ t.counters = { shared := 10 } := by
  have hok : (((⟨Standard.wb, 0⟩ : LayerFunction).compileBlock Library.standard 3
      [.str "a", .str "b"] [("out", .int 100)]).run { counters := { shared := 7 } }).1.isOk := by
    decide +kernel
  have hcounters : (((⟨Standard.wb, 0⟩ : LayerFunction).compileBlock Library.standard 3
      [.str "a", .str "b"] [("out", .int 100)]).run
        { counters := { shared := 7 } }).2.counters = { shared := 10 } := by decide +kernel
  obtain ⟨prog, t, hrun⟩ := exists_of_isOk hok
  rw [hrun] at hcounters
  have hget : Library.standard.registry.get? (⟨Standard.wb, 0⟩ : LayerFunction).definition.name =
      some ⟨"wb", .composite Standard.wb⟩ := rfl
  have hnodup : (([("out", .int 100)] : List (String × Value)).map Prod.fst).Nodup := by decide
  have hparams : ∀ p ∈ ([("out", .int 100)] : List (String × Value)), p.1 ∉ ["self", "namer"] := by
    simp
  have hways := (compile_iff_compileBlock hget rfl [.str "a", .str "b"] hnodup hparams 7 0).1 3 prog
    { shared := 10 }
  exact ⟨⟨prog, t, hrun, hcounters⟩, prog, hways.1 ⟨t, hrun, hcounters⟩⟩

end LayerFunction

end Laminar
