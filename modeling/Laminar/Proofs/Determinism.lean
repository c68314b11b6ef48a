import Mathlib
import Laminar.Proofs.Forwarding
import Laminar.Proofs.RenamedLayers

/-!
# Compilation is deterministic up to minted names

The counter of minted names is the one thing that a compilation inherits from those before it.  Two
compilations of one call that start at different numbers must not differ in anything but these
numbers, although the names that hold them are texts that go wherever texts go.

The two runs are compared step by step.  `Shifts f δ m m'` says that whatever `m` yields, `m'` yields
renamed by `f`, if its counter is ahead by `δ` at the start, and then it is ahead by `δ` at the end.
The relation is one-sided, but the two runs can change places, so it gives both directions
(`Shifts.agree`).

**Where the counter does matter.** A number of too many digits cannot be written, so no name can be
minted from it, and a compilation that comes to such a number fails.  `Mintable n m` says that this
does not happen between two states of a counter, and `Shifts` carries it along for both runs.

* `shifts_resolveCall`: compiling a call follows with a shift, by induction over the depth of
  nesting; `shifts_of_fillBody` is the step from the calls of a body to the body.
* `compileCall_renumbered` compares two compilations of one call from outside.
-/

namespace Laminar

/-! ### Two runs -/

/-- All numbers from one up to another can be written, so names can be minted from them. -/
def Mintable (first after : Int) : Prop :=
  first ≤ after ∧ ∀ k, first ≤ k → k < after → intWritable k = true

theorem Mintable.refl (n : Int) : Mintable n n := ⟨le_refl n, fun k hle hlt => by omega⟩

theorem Mintable.trans {n m k : Int} (h : Mintable n m) (h' : Mintable m k) : Mintable n k := by
  refine ⟨h.1.trans h'.1, fun j hle hlt => ?_⟩
  by_cases hj : j < m
  · exact h.2 j hle hj
  · exact h'.2 j (by omega) hlt

theorem Mintable.split {n m k : Int} (h : Mintable n k) (hle : n ≤ m) (hle' : m ≤ k) :
    Mintable n m ∧ Mintable m k :=
  ⟨⟨hle, fun j hj hlt => h.2 j hj (hlt.trans_le hle')⟩,
    ⟨hle', fun j hj hlt => h.2 j (hle.trans hj) hlt⟩⟩

theorem firstUnwritable_eq_none_iff {count : Nat} {n : Int} :
    firstUnwritable count n = none ↔ Mintable n (n + count) := by
  rw [firstUnwritable_eq_none]
  exact ⟨fun h => ⟨by omega, h⟩, And.right⟩

/-- **Following with a shift.** Whatever one compilation yields, the other yields renamed, from every
state whose counter is ahead by `δ`, as long as the numbers it takes there can be written; and those
that the first one takes can be written. -/
def Shifts (f : String → String) (δ : Int) (m m' : Compile Program) : Prop :=
  ∀ c prog c', m.run c = (.ok prog, c') →
    Mintable c.counters.current c'.counters.current ∧
      ∀ e, e.counters.current = c.counters.current + δ →
        Mintable e.counters.current (c'.counters.current + δ) →
        ∃ e', m'.run e = (.ok (Program.rename f prog), e') ∧
          e'.counters.current = c'.counters.current + δ

section Shifts

variable {f : String → String} {δ : Int}

theorem shifts_pure (prog : Program) : Shifts f δ (pure prog) (pure (Program.rename f prog)) := by
  intro c prog' c' h
  obtain ⟨rfl, rfl⟩ := run_pure_eq_ok.1 h
  exact ⟨Mintable.refl _, fun e he _ => ⟨e, rfl, he⟩⟩

theorem shifts_append {m m' k k' : Compile Program} (hm : Shifts f δ m m') (hk : Shifts f δ k k') :
    Shifts f δ (do let first ← m; return first ++ (← k))
      (do let first ← m'; return first ++ (← k')) := by
  intro c prog c' h
  obtain ⟨first, c₁, hfirst, hrest⟩ := run_bind_eq_ok.1 h
  obtain ⟨more, c₂, hmore, hboth⟩ := run_bind_eq_ok.1 hrest
  obtain ⟨rfl, rfl⟩ := run_pure_eq_ok.1 hboth
  obtain ⟨hmint, hshift⟩ := hm c first c₁ hfirst
  obtain ⟨hmint', hshift'⟩ := hk c₁ more c₂ hmore
  refine ⟨hmint.trans hmint', fun e he hnumbers => ?_⟩
  obtain ⟨hbefore, hafter⟩ := hnumbers.split (m := c₁.counters.current + δ)
    (by rw [he]; exact add_le_add_left hmint.1 δ) (add_le_add_left hmint'.1 δ)
  obtain ⟨e₁, hfirst', he₁⟩ := hshift e he hbefore
  obtain ⟨e₂, hmore', he₂⟩ := hshift' e₁ he₁ (he₁ ▸ hafter)
  refine ⟨e₂, run_bind_eq_ok.2 ⟨_, e₁, hfirst', run_bind_eq_ok.2 ⟨_, e₂, hmore', ?_⟩⟩, he₂⟩
  exact run_pure_eq_ok.2 ⟨List.map_append.symm, rfl⟩

/-- If a compilation follows itself with a shift and back, then two runs of it agree up to the
shift. -/
theorem Shifts.agree {f' : String → String} {δ' : Int} {m : Compile Program} (hm : Shifts f δ m m)
    (hm' : Shifts f' δ' m m) (hδ : δ + δ' = 0) {c c' e e' : Compiler} {prog prog' : Program}
    (hstart : e.counters.current = c.counters.current + δ) (h : m.run c = (.ok prog, c'))
    (h' : m.run e = (.ok prog', e')) :
    prog' = Program.rename f prog ∧ e'.counters.current = c'.counters.current + δ := by
  obtain ⟨hmint, hforward⟩ := hm c prog c' h
  obtain ⟨hmint', hbackward⟩ := hm' e prog' e' h'
  -- The run that takes fewer numbers can be followed by the other one, so neither takes fewer.
  have hle : c'.counters.current + δ ≤ e'.counters.current := by
    by_contra hlt
    have hfirst : c.counters.current ≤ e'.counters.current + δ' := by
      have := hmint'.1
      omega
    obtain ⟨hfront, -⟩ := hmint.split hfirst (by omega)
    obtain ⟨c'', hrun, hc''⟩ := hbackward c (by omega) hfront
    obtain ⟨-, rfl⟩ := Prod.mk.inj (h.symm.trans hrun)
    omega
  have hfirst : e.counters.current ≤ c'.counters.current + δ := by
    have := hmint.1
    omega
  obtain ⟨hfront, -⟩ := hmint'.split hfirst hle
  obtain ⟨e'', hrun, he''⟩ := hforward e hstart hfront
  obtain ⟨hprog, rfl⟩ := Prod.mk.inj (h'.symm.trans hrun)
  exact ⟨Except.ok.inj hprog, he''⟩

/-- **A body follows with a shift if its calls do.** -/
theorem shifts_of_fillBody {r : Registry} {resolve : Resolver} (hf : Moving f δ)
    (hnames : ∀ name g, r.get? name = some g → isMinted name = false)
    (hresolve : ∀ {callee callee' args output},
      (∀ body, r.Names callee body → r.Names callee' body) → SealedArguments f args →
        output.unlabelled.Sealed f → Shifts f δ (resolve callee args output)
          (resolve callee' (renameNodes f args) (output.rename f)))
    {d : Definition} (hd : d.Unmarked) {a a' : Actuals} (hfollows : a.Follows f a')
    {body : List BodyStatement} (hbody : body ⊆ d.body) {statements : List Node}
    (hfill : Definition.fillBody d.file d.surroundings.globals a body = .ok statements) :
    ∃ statements',
      Definition.fillBody d.file d.surroundings.globals a' body = .ok statements' ∧
        Shifts f δ (compileNodes resolve statements) (compileNodes resolve statements') := by
  induction body generalizing statements with
  | nil =>
    obtain rfl := pure_eq_ok.1 hfill
    exact ⟨[], rfl, shifts_pure []⟩
  | cons s rest ih =>
    obtain ⟨hs, hrest⟩ := List.cons_subset.1 hbody
    obtain ⟨call, others, hfilled, hothers, rfl⟩ := fillBody_cons_eq_ok hfill
    obtain ⟨hargs, houtput, callee', hfilled', hsame⟩ := hfilled.rename hf hnames hd hfollows hs
    obtain ⟨others', hothers', hshifts⟩ := ih hrest hothers
    refine ⟨_, fillBody_cons_of_filled hfilled' hothers', ?_⟩
    -- Marking the line of the statement leaves the counters alone.
    have hboth := shifts_append (hresolve hsame hargs houtput) hshifts
    intro c prog c' h
    rw [run_compileNodes_statement] at h
    obtain ⟨hmint, hshift⟩ := hboth _ prog c' h
    rw [counters_marked] at hmint hshift
    refine ⟨hmint, fun e he hnumbers => ?_⟩
    rw [run_compileNodes_statement]
    have hmarked := hshift (e.marked s.line)
    rw [counters_marked] at hmarked
    exact hmarked he hnumbers

/-- The same for the values of a call, which a primitive is given without their objects. -/
theorem Primitive.instruction_unlabelled_rename {p : Primitive} {values : List Value}
    {named : List (String × Value)} {output : Value} {i : Instruction} (hf : Moving f δ)
    (hvalues : ∀ v ∈ values, v.unlabelled.Sealed f)
    (hnamed : ∀ k ∈ named, f k.1 = k.1 ∧ k.2.unlabelled.Sealed f)
    (houtput : output.unlabelled.Sealed f)
    (h : p.instruction (unlabelledList (values ++ [output])) (unlabelledNamed named) = .ok i) :
    p.instruction (unlabelledList (values.map (·.rename f) ++ [output.rename f]))
      (unlabelledNamed (mapValues (·.rename f) named)) = .ok (i.rename f) := by
  rw [unlabelledList_eq_map, unlabelledNamed_eq_map] at h
  have hargs : ∀ v ∈ (values ++ [output]).map Value.unlabelled, v.Sealed f := by
    rw [List.forall_mem_map, List.forall_mem_append, List.forall_mem_singleton]
    exact ⟨hvalues, houtput⟩
  have hkeywords : ∀ k ∈ named.map fun p => (p.1, p.2.unlabelled), f k.1 = k.1 ∧ k.2.Sealed f :=
    List.forall_mem_map.2 hnamed
  have hrenamed := Primitive.instruction_rename hf hargs hkeywords h
  rw [unlabelledList_eq_map, unlabelledNamed_eq_map]
  simp only [List.map_append, List.map_map, List.map_cons, List.map_nil, mapValues,
    Function.comp_def, Prod.map, Value.unlabelled_rename, id_eq] at hrenamed ⊢
  exact hrenamed

/-- **Compilation follows with a shift.** A call whose arguments are renamed compiles to the renamed
program once the counter is moved. -/
theorem shifts_resolveCall {lib : Library} (hf : Moving f δ) (hr : lib.registry.Ordinary)
    (hnames : ∀ name g, lib.registry.get? name = some g → isMinted name = false)
    (hlayers : ∀ d, lib.registry.Holds d → d.Unmarked) (depth : Nat) {callee callee' : Value}
    {args : List Node} {output : Value}
    (hsame : ∀ body, lib.registry.Names callee body → lib.registry.Names callee' body)
    (hargs : SealedArguments f args) (houtput : output.unlabelled.Sealed f) :
    Shifts f δ (resolveCall lib depth callee args output)
      (resolveCall lib depth callee' (renameNodes f args) (output.rename f)) := by
  induction depth generalizing callee callee' args output with
  | zero => exact fun c prog c' h => absurd h run_throw_ne_ok
  | succ depth ih =>
    intro c prog c' h
    obtain ⟨o, after, hcall, hrest⟩ := resolveCall_eq_ok.1 h
    obtain ⟨values, named, c₁, heval, hcases⟩ := expandCall_cases hr hcall
    obtain ⟨rfl, hrenamed⟩ := heval.rename hargs
    have hvalues : ∀ v ∈ values, v.unlabelled.Sealed f := by
      intro v hv
      obtain ⟨n, hn, hgives⟩ := heval.values_given v hv
      exact (hargs.positional n hn).of_gives hgives
    have hnamed : ∀ k ∈ named, f k.1 = k.1 ∧ k.2.unlabelled.Sealed f := by
      intro k hk
      obtain ⟨key, n, hmem, hkey, hgives⟩ := heval.named_given k hk
      obtain ⟨name, n', heq, hname, hn⟩ := hargs.entries _ hmem
      cases heq
      obtain rfl : name = k.1 := Value.str.inj hkey
      exact ⟨hname, hn.of_gives hgives⟩
    rcases hcases with
      ⟨p, i, hp, rfl, rfl, hi⟩ | ⟨d, b, out, statements, hd, rfl, rfl, hbind, hnumbers, hfill⟩
    · obtain ⟨rfl, rfl⟩ := run_pure_eq_ok.1 hrest
      refine ⟨Mintable.refl _, fun e he _ => ⟨e, resolveCall_eq_ok.2 ?_, he⟩⟩
      have hi' := Primitive.instruction_unlabelled_rename hf hvalues hnamed houtput hi
      exact ⟨_, _, expandCall_of_primitive (hrenamed callee' (output.rename f) e.counters)
        (hsame _ hp) hi', rfl⟩
    · obtain ⟨c₂, hbody, hcounters⟩ := run_withFrame hrest
      have hunmarked := hlayers d hd.holds
      have hfollows := follows_actuals hf hunmarked hvalues hnamed
        (Definition.bindCall_eq_ok hbind).1 (lib.scopes.closure d.surroundings) out
        c.counters.current
      obtain ⟨statements', hfill', hshifts⟩ :=
        shifts_of_fillBody hf hnames ih hunmarked hfollows (List.Subset.refl _) hfill
      obtain ⟨hmint, hshift⟩ := hshifts _ prog c₂ hbody
      dsimp only at hmint hshift
      rw [Counters.current_setCurrent] at hmint hshift
      have hown := firstUnwritable_eq_none_iff.1 hnumbers
      rw [hcounters]
      refine ⟨hown.trans hmint, fun e he hmintable => ?_⟩
      -- The counter of the other run is ahead by as much once both layers have their names.
      have hahead : e.counters.current + d.inner.length =
          c.counters.current + d.inner.length + δ := by omega
      obtain ⟨hown', hinner⟩ := hmintable.split (m := e.counters.current + d.inner.length)
        (by omega) (by rw [hahead]; exact add_le_add_left hmint.1 δ)
      obtain ⟨e', hbody', he'⟩ := hshift
        { counters := e.counters.setCurrent (e.counters.current + d.inner.length)
          frames := { layer := callee'.display } :: e.frames }
        (by rw [Counters.current_setCurrent, hahead]) (by rwa [Counters.current_setCurrent])
      refine ⟨_, resolveCall_eq_ok.2 ⟨_, _, expandCall_of_composite
        (hrenamed callee' (output.rename f) e.counters) (hsame _ hd)
        (bindCall_rename hf hunmarked hbind) (firstUnwritable_eq_none_iff.2 hown') ?_,
        withFrame_of_run hbody'⟩, he'⟩
      rw [he]
      exact hfill'

end Shifts

/-! ### Calls from outside -/

section Outside

variable {lib : Library} {f : String → String} {δ : Int} {inputs : List Value} {output : Value}
  {params : List (String × Value)}

/-- What no minted name occurs in is sealed, and stays as it is. -/
theorem callArguments_rename (hf : Moving f δ) (hinputs : ∀ v ∈ inputs, v.Unmarked)
    (hparams : ∀ p ∈ params, isMinted p.1 = false ∧ p.2.Unmarked) :
    SealedArguments f (callArguments inputs params) ∧
      renameNodes f (callArguments inputs params) = callArguments inputs params := by
  have hsymbols : renameNodes f (inputs.map .symbol) = inputs.map .symbol := by
    rw [renameNodes_eq_map, List.map_map]
    exact List.map_congr_left fun v hv => congrArg Node.symbol ((hinputs v hv).rename hf)
  have hentry : ∀ p ∈ params, (Entry.keyword (.str p.1) (.const p.2)).rename f =
      .keyword (.str p.1) (.const p.2) := by
    intro p hp
    obtain ⟨hname, hvalue⟩ := hparams p hp
    simp only [Entry.rename, Value.rename, Node.rename, hf.other _ hname, hvalue.rename hf]
  refine ⟨⟨?_, ?_⟩, ?_⟩
  · rw [blockEntries_callArguments, List.forall_mem_map]
    intro p hp
    obtain ⟨hname, hvalue⟩ := hparams p hp
    exact ⟨p.1, _, rfl, hf.other _ hname, p.2, hvalue.sealed hf, .inr rfl⟩
  · rw [positionalNodes_callArguments, List.forall_mem_map]
    exact fun v hv => ⟨v, (hinputs v hv).sealed hf, .inl rfl⟩
  · cases params with
    | nil => exact hsymbols
    | cons p ps =>
      have hentries : renameParameters f
          ((p :: ps).map fun p => .keyword (.str p.1) (.const p.2)) =
            (p :: ps).map fun p => .keyword (.str p.1) (.const p.2) := by
        rw [renameParameters_eq_map, List.map_map]
        exact List.map_congr_left hentry
      exact congrArg₂ List.cons (congrArg Node.parameters hentries) hsymbols

theorem shifts_compileCall (hf : Moving f δ) (hr : lib.registry.Ordinary)
    (hnames : ∀ name g, lib.registry.get? name = some g → isMinted name = false)
    (hlayers : ∀ d, lib.registry.Holds d → d.Unmarked) (depth : Nat) (name : Value)
    (hinputs : ∀ v ∈ inputs, v.Unmarked) (houtput : output.Unmarked)
    (hparams : ∀ p ∈ params, isMinted p.1 = false ∧ p.2.Unmarked) :
    Shifts f δ (compileCall lib depth name inputs output params)
      (compileCall lib depth name inputs output params) := by
  obtain ⟨hargs, hsame⟩ := callArguments_rename hf hinputs hparams
  have hnamed : ∀ body, lib.registry.Names name body → lib.registry.Names name body :=
    fun _ h => h
  have hshifts := shifts_resolveCall hf hr hnames hlayers depth hnamed hargs (houtput.sealed hf)
  rw [hsame, houtput.rename hf] at hshifts
  intro c prog c' h
  rw [run_compileCall] at h
  obtain ⟨hmint, hshift⟩ := hshifts _ prog c' h
  refine ⟨hmint, fun e he hnumbers => ?_⟩
  rw [run_compileCall]
  exact hshift { e with frames := [] } he hnumbers

end Outside

/-- **Compilation is deterministic up to minted names.** Suppose that no layer defers anything and
that no minted name is registered, written in a layer, or given to a call.  If the call compiles with
the counter at `n` and takes some numbers, then with the counter at `m` it compiles exactly if as
many numbers from `m` on can be written, to the program in which every name with number `n + i` is
replaced by that with number `m + i`, and it takes as many. -/
theorem compileCall_renumbered {lib : Library} (hr : lib.registry.Ordinary)
    (hnames : ∀ name g, lib.registry.get? name = some g → isMinted name = false)
    (hlayers : ∀ d, lib.registry.Holds d → d.Unmarked) {depth : Nat} {name : Value}
    {inputs : List Value} {output : Value} {params : List (String × Value)}
    (hinputs : ∀ v ∈ inputs, v.Unmarked) (houtput : output.Unmarked)
    (hparams : ∀ p ∈ params, isMinted p.1 = false ∧ p.2.Unmarked) {c c' : Compiler}
    {prog : Program}
    (h : (compileCall lib depth name inputs output params).run c = (.ok prog, c'))
    (e : Compiler) :
    (((compileCall lib depth name inputs output params).run e).1.isOk = true ↔
        ∀ k, e.counters.current ≤ k →
          k < e.counters.current + (c'.counters.current - c.counters.current) →
            intWritable k = true) ∧
      ∀ prog' e', (compileCall lib depth name inputs output params).run e = (.ok prog', e') →
        prog' = Program.rename (renumber c.counters.current e.counters.current) prog ∧
          e'.counters.current - e.counters.current =
            c'.counters.current - c.counters.current := by
  have hforward := shifts_compileCall (moving_renumber c.counters.current e.counters.current) hr
    hnames hlayers depth name hinputs houtput hparams
  have hbackward := shifts_compileCall (moving_renumber e.counters.current c.counters.current) hr
    hnames hlayers depth name hinputs houtput hparams
  have hstart : e.counters.current =
      c.counters.current + (e.counters.current - c.counters.current) := by omega
  obtain ⟨hmint, hshift⟩ := hforward c prog c' h
  refine ⟨⟨fun hok => ?_, fun hnumbers => ?_⟩, fun prog' e' h' => ?_⟩
  · obtain ⟨prog', e', h'⟩ := exists_of_isOk hok
    obtain ⟨-, hend⟩ := hforward.agree hbackward (by omega) hstart h h'
    obtain ⟨hmint', -⟩ := hbackward e prog' e' h'
    intro k hle hlt
    exact hmint'.2 k hle (by omega)
  · have hmint' : Mintable e.counters.current
        (c'.counters.current + (e.counters.current - c.counters.current)) := by
      refine ⟨?_, fun k hle hlt => hnumbers k hle (by omega)⟩
      have := hmint.1
      omega
    obtain ⟨e', hrun, -⟩ := hshift e hstart hmint'
    rw [hrun]
    rfl
  · obtain ⟨hprog, hend⟩ := hforward.agree hbackward (by omega) hstart h h'
    exact ⟨hprog, by omega⟩

/-! ### The standard layers -/

/-- No text in a standard layer carries the mark, and none of them defers anything. -/
theorem Standard.unmarked_of_mem : ∀ d ∈ Standard.all, d.Unmarked := by
  intro d hd
  fin_cases hd <;> refine ⟨?_, ?_, ?_, ?_⟩ <;>
    simp [wdot, bias, wb, wf, dropWf, mlp2, layer, statement, signature, Definition.terms,
      Definition.keywordNames, CallTerm.terms, CallTerm.keywordNames, KeywordTerm.term?,
      KeywordTerm.name?, Definition.body, Value.Unmarked, Value.strings, Initializer.strings]
  all_goals decide

theorem Registry.not_minted_of_default {name : String} {g : Generator}
    (h : Registry.default.get? name = some g) : isMinted name = false := by
  have hall : ∀ name ∈ Registry.default.names, isMinted name = false := by
    rw [Registry.names_default]
    decide
  refine hall name ((Table.isSome_get?_iff _ name).1 ?_)
  exact Option.isSome_iff_exists.2 ⟨g, h⟩

/-- The affine layer takes three numbers.  With the counter at 40 it compiles as from the start,
with 40 to 42 in the place of 0 to 2; with the counter at the largest number that can be written it
does not compile. -/
theorem affine_renumbered : ∃ prog prog' c' e',
    (compileCall .standard 3 (.str "wb") [.str "x"] (.str "y") [("out", .int 3)]).run {} =
        (.ok prog, c') ∧
      (compileCall .standard 3 (.str "wb") [.str "x"] (.str "y") [("out", .int 3)]).run
          { counters := { shared := 40 } } = (.ok prog', e') ∧
        prog' = Program.rename (renumber 0 40) prog ∧ e'.counters.current = 43 ∧
      ((compileCall .standard 3 (.str "wb") [.str "x"] (.str "y") [("out", .int 3)]).run
          { counters := { shared := Decimal.digitBound - 1 } }).1.isOk = false := by
  have hok : ((compileCall .standard 3 (.str "wb") [.str "x"] (.str "y")
      [("out", .int 3)]).run {}).1.isOk = true := by decide +kernel
  have hcounters : ((compileCall .standard 3 (.str "wb") [.str "x"] (.str "y")
      [("out", .int 3)]).run {}).2.counters = { shared := 3 } := by decide +kernel
  obtain ⟨prog, c', hrun⟩ := exists_of_isOk hok
  rw [hrun] at hcounters
  have htaken : c'.counters.current = 3 := by rw [hcounters]; rfl
  have hinputs : ∀ v ∈ [Value.str "x"], v.Unmarked := by
    rw [List.forall_mem_singleton]
    exact List.forall_mem_singleton.2 (by decide)
  have houtput : (Value.str "y").Unmarked := List.forall_mem_singleton.2 (by decide)
  have hparams : ∀ p ∈ [("out", Value.int 3)], isMinted p.1 = false ∧ p.2.Unmarked := by
    rw [List.forall_mem_singleton]
    exact ⟨by decide, fun s hs => by cases hs⟩
  have hrenumbered := compileCall_renumbered Registry.ordinary_default
    (fun _ _ => Registry.not_minted_of_default)
    (fun d hd => Standard.unmarked_of_mem d (Registry.mem_standard_of_holds hd))
    hinputs houtput hparams hrun
  have hcurrent (n : Int) : ({ counters := { shared := n } } : Compiler).counters.current = n := rfl
  obtain ⟨hcompiles, hsame⟩ := hrenumbered { counters := { shared := 40 } }
  obtain ⟨hlast, -⟩ := hrenumbered { counters := { shared := Decimal.digitBound - 1 } }
  simp only [hcurrent, htaken] at hcompiles hsame hlast
  have hlarge : 43 ≤ Decimal.digitBound := by decide +kernel
  obtain ⟨prog', e', hrun'⟩ := exists_of_isOk (hcompiles.2 fun k hle hlt =>
    intWritable_of_lt (by omega))
  obtain ⟨hprog, htaken'⟩ := hsame prog' e' hrun'
  refine ⟨prog, prog', c', e', hrun, hrun', hprog, by omega, ?_⟩
  rw [Bool.eq_false_iff]
  intro hlastOk
  have hnumber := hlast.1 hlastOk Decimal.digitBound (by omega) (by omega)
  rw [intWritable, Int.natAbs_natCast, decide_eq_true_iff] at hnumber
  exact lt_irrefl _ hnumber

end Laminar
