import Mathlib
import Laminar.Proofs.CallLanguage
import Laminar.Proofs.Expansion
import Laminar.Proofs.Instance

/-!
# Single assignment

A compiled program assigns every register once.  The registers it writes are the output that was
asked for, which the last instruction writes, and names minted while the call was compiled.

Names are minted where a layer is entered, handed down as the outputs of the calls in its body, and
written only by the primitives at the bottom.  The invariant that ties these places together counts
both: what a list of pending calls writes is what the calls were asked to write, together with names
minted on the way.

* `NamesMinted` says of a list of hints and numbers that it was handed out between two states of the
  counter, and closes it under doing one thing after the other.
* `writes_of_expands` is the invariant, by induction over expansion.

**Numbers that are skipped.** A deferred expression may call a layer function, and that mints from
the shared counter too.  Expressions touch the counter in no other way, since no value is a
generator of names.  If the compilation uses the same counter, such numbers are used up but never
written.  Hence "every number is written" needs that deferred expressions leave the counter alone
(`Library.Quiet`), or that the compilation has a counter of its own; "no number is written twice"
needs neither.
-/

namespace Laminar

/-! ### Names handed out between two states of a counter -/

/-- Hints with numbers that were handed out while the counter went from `lo` to `hi`: no number
twice, and every number if nothing else used the counter. -/
structure NamesMinted (hints : String → Prop) (undisturbed : Prop) (lo hi : Int)
    (names : List (String × Int)) : Prop where
  le : lo ≤ hi
  hint : ∀ m ∈ names, hints m.1
  bounds : ∀ m ∈ names, lo ≤ m.2 ∧ m.2 < hi
  nodup : (names.map Prod.snd).Nodup
  full : undisturbed → ∀ k, lo ≤ k → k < hi → k ∈ names.map Prod.snd

namespace NamesMinted

variable {hints : String → Prop} {undisturbed : Prop} {lo mid hi : Int}
  {names names' : List (String × Int)}

/-- While nothing is minted the counter moves only if it is disturbed. -/
theorem nil (hle : lo ≤ hi) (heq : undisturbed → lo = hi) :
    NamesMinted hints undisturbed lo hi [] where
  le := hle
  hint := by simp
  bounds := by simp
  nodup := by simp
  full := by
    intro h k hlo hhi
    have := heq h
    omega

/-- One run of mintings. -/
theorem run {locals : List String} (hlocals : ∀ h ∈ locals, hints h) (n : Int) :
    NamesMinted hints undisturbed n (n + locals.length) (mintedFrom locals n) where
  le := by omega
  hint := by
    intro m hm
    refine hlocals _ ?_
    rw [← map_fst_mintedFrom locals n]
    exact List.mem_map_of_mem hm
  bounds := fun m hm => mem_numbers_mintedFrom.1 (List.mem_map_of_mem hm)
  nodup := nodup_numbers_mintedFrom locals n
  full := fun _ k hlo hhi => mem_numbers_mintedFrom.2 ⟨hlo, hhi⟩

/-- One thing after the other. -/
theorem append (h : NamesMinted hints undisturbed lo mid names)
    (h' : NamesMinted hints undisturbed mid hi names') :
    NamesMinted hints undisturbed lo hi (names ++ names') where
  le := h.le.trans h'.le
  hint := List.forall_mem_append.2 ⟨h.hint, h'.hint⟩
  bounds := by
    refine List.forall_mem_append.2 ⟨fun m hm => ?_, fun m hm => ?_⟩
    · exact ⟨(h.bounds m hm).1, (h.bounds m hm).2.trans_le h'.le⟩
    · exact ⟨h.le.trans (h'.bounds m hm).1, (h'.bounds m hm).2⟩
  nodup := by
    rw [List.map_append, List.nodup_append']
    refine ⟨h.nodup, h'.nodup, ?_⟩
    -- The numbers of the first part lie below `mid`, those of the second do not.
    intro k hk hk'
    obtain ⟨m, hm, rfl⟩ := List.mem_map.1 hk
    obtain ⟨m', hm', heq⟩ := List.mem_map.1 hk'
    have hlt := (h.bounds m hm).2
    have hle := (h'.bounds m' hm').1
    omega
  full := by
    intro hu k hlo hhi
    rw [List.map_append, List.mem_append]
    rcases lt_or_ge k mid with hk | hk
    · exact .inl (h.full hu k hlo hk)
    · exact .inr (h'.full hu k hk hhi)

/-- The order of the names does not matter. -/
theorem perm (h : NamesMinted hints undisturbed lo hi names) (hperm : names'.Perm names) :
    NamesMinted hints undisturbed lo hi names' where
  le := h.le
  hint := fun m hm => h.hint m (hperm.subset hm)
  bounds := fun m hm => h.bounds m (hperm.subset hm)
  nodup := (hperm.map Prod.snd).nodup_iff.2 h.nodup
  full := fun hu k hlo hhi => (hperm.map Prod.snd).mem_iff.2 (h.full hu k hlo hhi)

end NamesMinted

/-! ### Calls that cannot be misread -/

/-- The deferred expressions in the layers of a library leave the shared counter alone. -/
def Library.Quiet (lib : Library) : Prop :=
  ∀ d, lib.registry.Holds d → ∀ text e, .deferred text e ∈ d.terms → ∀ names,
    Moves (· = ·) (evaluateIn lib.samples lib.functions lib.scopes d.surroundings.globals names e)

/-- Without layer functions to call, a library is quiet. -/
theorem Library.quiet_of_no_functions {lib : Library} (h : lib.functions = []) : lib.Quiet := by
  intro d _ text e _ names
  rw [h]
  exact evaluateIn_still lib.samples lib.scopes d.surroundings.globals names e

/-- No layer of a registry writes a keyword with the name of the result of a primitive. -/
def Registry.SparesResult (r : Registry) : Prop := ∀ d, r.Holds d → "y" ∉ d.keywordNames

/-- A pending call whose output stays its output all the way down: no keyword takes its place, and
no surplus operand can push it to where it would be read as a number. -/
structure Pending.Plain (lib : Library) (call : Pending) : Prop where
  output : ∃ s, call.output = .str s ∧ Decimal.readFloat? s = none
  keywords : ∀ k n, .keyword k n ∈ blockEntries call.args → k.bare ≠ .str "y"
  still : lib.Quiet → ∀ n ∈ argumentNodes call.args, n.MovesBy lib (· = ·)

theorem Pending.Plain.named {lib : Library} {call : Pending} {c after : Counters}
    {values : List Value} {named : List (String × Value)} (h : call.Plain lib)
    (args : Evaluated lib call c values named after) : ∀ p ∈ named, p.1 ≠ "y" := by
  intro p hp heq
  obtain ⟨k, n, hk, hname, -⟩ := args.named_given p hp
  exact h.keywords k n hk (heq ▸ hname)

section Layer

variable {lib : Library} {d : Definition} {b : Binding} {closure : List (String × Value)}
  {out : String} {n : Int} {body : List Pending}

/-- The calls of a body write the registers of its locals, in order. -/
theorem outputs_of_filled (hnodup : d.locals.Nodup)
    (hfilled : List.Forall₂ (Filled d (d.actuals b closure out n)) d.body body) :
    body.map Pending.output = d.registers out n := by
  have hget : List.Forall₂ (fun name v => (d.actuals b closure out n).get name = .ok v) d.locals
      (body.map Pending.output) := by
    rw [Definition.locals, List.forall₂_map_left_iff, List.forall₂_map_right_iff]
    exact hfilled.imp fun _ _ h => h.target
  refine List.right_unique_forall₂' ?_ hget (Definition.get_locals hnodup)
  intro name v w hv hw
  exact Except.ok.inj (hv.symm.trans hw)

/-- A term that is filled in moves the counter only if it is a deferred expression of the layer. -/
theorem movesBy_of_fillTerm {R : Int → Int → Prop} {a : Actuals} {t : Term} {m : Node}
    (h : Definition.fillTerm d.surroundings.globals a t = .ok m)
    (hquiet : ∀ text e, t = .deferred text e → ∀ names,
      Moves R (evaluateIn lib.samples lib.functions lib.scopes d.surroundings.globals names e)) :
    m.MovesBy lib R := by
  cases t with
  | symbol name =>
    obtain ⟨v, -, hv⟩ := bind_eq_ok.1 h
    cases pure_eq_ok.1 hv
    trivial
  | parameter name =>
    obtain ⟨v, -, hv⟩ := bind_eq_ok.1 h
    cases pure_eq_ok.1 hv
    trivial
  | literal value =>
    cases pure_eq_ok.1 h
    trivial
  | deferred text e =>
    cases pure_eq_ok.1 h
    exact hquiet text e rfl _

/-- In a quiet library, the arguments of a statement that is filled in leave the counter alone. -/
theorem Filled.still (hd : lib.registry.Holds d) {a : Actuals} {s : BodyStatement} {call : Pending}
    (hs : s ∈ d.body) (hfill : Filled d a s call) (hquiet : lib.Quiet) :
    ∀ n ∈ argumentNodes call.args, n.MovesBy lib (· = ·) := by
  intro m hm
  rcases hfill.nodes m hm with ⟨t, ht, hterm⟩ | ⟨k, -, rfl⟩
  · refine movesBy_of_fillTerm hterm ?_
    rintro text e rfl names
    exact hquiet d hd text e (Definition.mem_terms.2 ⟨s, hs, ht⟩) names
  · trivial

/-- **The calls of a body cannot be misread** if the call of the layer cannot be. -/
theorem plain_of_filled (hd : lib.registry.Holds d) (hwf : d.WellFormed)
    (hspares : lib.registry.SparesResult) {values : List Value} {named : List (String × Value)}
    (hout : Decimal.readFloat? out = none) (hnamed : ∀ p ∈ named, p.1 ≠ "y")
    (hbind : d.signature.bind values named = .ok b)
    (hfilled : List.Forall₂ (Filled d (d.actuals b closure out n)) d.body body) :
    ∀ call ∈ body, call.Plain lib := by
  intro call hcall
  obtain ⟨s, hs, hfill⟩ := exists_of_forall₂ hfilled.flip hcall
  refine ⟨?_, ?_, ?_⟩
  · have hmem : call.output ∈ d.registers out n := by
      rw [← outputs_of_filled hwf.nodup_locals hfilled]
      exact List.mem_map_of_mem hcall
    rcases List.mem_append.1 hmem with hminted | hlast
    · obtain ⟨m, -, heq⟩ := List.mem_map.1 hminted
      exact ⟨_, heq.symm, readFloat?_of_isMinted (isMinted_mint m.1 m.2)⟩
    · exact ⟨out, List.mem_singleton.1 hlast, hout⟩
  · intro k m hk heq
    obtain ⟨name, rfl, hname⟩ := hfill.names hk
    cases heq
    rcases hname with hwritten | ⟨v, hcollected⟩
    · exact hspares d hd (List.mem_flatMap.2 ⟨s, hs, hwritten⟩)
    · exact hnamed _ ((Signature.bind_values hbind).2 hcollected) rfl
  · exact hfill.still hd hs

/-- **Entering a layer.** The call's output is the text that the layer is given, the calls of the
body cannot be misread, and they write the registers of the locals. -/
theorem Pending.Plain.enter (hr : lib.registry.Ordinary) (hspares : lib.registry.SparesResult)
    {call : Pending} {c after : Counters} {values : List Value} {named : List (String × Value)}
    (h : call.Plain lib) (args : Evaluated lib call c values named after)
    (held : lib.registry.Holds d) (bound : d.bindCall values call.output named = .ok (b, out))
    (filled : List.Forall₂ (Filled d (d.actuals b closure out n)) d.body body) :
    call.output = .str out ∧ (∀ call ∈ body, call.Plain lib) ∧
      body.map Pending.output = d.registers out n := by
  obtain ⟨s, hout, hnumber⟩ := h.output
  obtain ⟨hbind, hname⟩ := Definition.bindCall_eq_ok bound
  rw [hout] at hname
  cases hname
  have hwf := (hr.accepted held).wellFormed
  exact ⟨hout, plain_of_filled held hwf hspares hnumber (h.named args) hbind filled,
    outputs_of_filled hwf.nodup_locals filled⟩

end Layer

/-! ### The invariant -/

/-- The name of an inner local of some layer of a registry. -/
def Registry.LocalName (r : Registry) (h : String) : Prop := ∃ d, r.Holds d ∧ h ∈ d.innerLocals

/-- What a program writes, given what its calls were asked to write: these registers and names
minted on the way, and last of all what the last call was asked to write. -/
structure Writes (lib : Library) (calls : List Pending) (c : Counters) (prog : Program)
    (c' : Counters) (names : List (String × Int)) : Prop where
  own : c'.own.isSome = c.own.isSome
  minted : NamesMinted lib.registry.LocalName (c.own.isSome ∨ lib.Quiet) c.current c'.current names
  results : (prog.map Instruction.result : Multiset Value) =
    calls.map Pending.output + names.map mintedRegister
  last : (prog.map Instruction.result).getLast? = (calls.map Pending.output).getLast?

/-- Evaluating the arguments of a call mints nothing, and does not move an undisturbed counter. -/
theorem Pending.Plain.minted_nothing {lib : Library} {call : Pending} {c c₁ : Counters}
    {values : List Value} {named : List (String × Value)} (h : call.Plain lib)
    (args : Evaluated lib call c values named c₁) :
    NamesMinted lib.registry.LocalName (c.own.isSome ∨ lib.Quiet) c.current c₁.current [] :=
  .nil args.current_le fun undisturbed => args.current_moves (undisturbed.imp_right h.still)

theorem isSome_own_setCurrent (c : Counters) (n : Int) :
    (c.setCurrent n).own.isSome = c.own.isSome := by
  obtain ⟨shared, own, sources⟩ := c
  cases own <;> rfl

/-- **Every register is written once.** -/
theorem writes_of_expands {lib : Library} (hr : lib.registry.Ordinary)
    (hspares : lib.registry.SparesResult) {calls : List Pending} {c c' : Counters} {prog : Program}
    (h : Expands lib calls c prog c') (hplain : ∀ call ∈ calls, call.Plain lib) :
    ∃ names, Writes lib calls c prog c' names := by
  induction h with
  | done c => exact ⟨[], rfl, .nil le_rfl fun _ => rfl, rfl, rfl⟩
  | @primitive call rest c c₁ c₂ values named p i prog args emitted more ih =>
    obtain ⟨hcall, hrest⟩ := List.forall_mem_cons.1 hplain
    obtain ⟨names, hnames⟩ := ih hrest
    obtain ⟨out, hout, hnumber⟩ := hcall.output
    rw [hout] at emitted
    obtain ⟨hresult, -⟩ :=
      Primitive.instruction_unlabelled_spec hnumber (hcall.named args) emitted
    have hminted := hnames.minted
    rw [args.own_eq] at hminted
    refine ⟨names, ?_, (hcall.minted_nothing args).append hminted, ?_, ?_⟩
    · rw [hnames.own, args.own_eq]
    · rw [List.map_cons, List.map_cons, ← Multiset.cons_coe, ← Multiset.cons_coe, hnames.results,
        hresult, hout, Multiset.cons_add]
    · rw [List.map_cons, List.map_cons, List.getLast?_cons, List.getLast?_cons, hnames.last,
        hresult, hout]
  | @layer call rest body c c₁ c₂ c₃ values named d b out inner prog args held bound filled inside
      more ih ih' =>
    obtain ⟨hcall, hrest⟩ := List.forall_mem_cons.1 hplain
    -- The registers of the body are the minted names and, last, the output of the call itself.
    obtain ⟨hout, hbody, hregisters⟩ := hcall.enter hr hspares args held bound filled
    obtain ⟨names₁, hinner⟩ := ih hbody
    obtain ⟨names₂, hmore⟩ := ih' hrest
    have hown : (c₁.setCurrent (c₁.current + d.inner.length)).own.isSome = c.own.isSome := by
      rw [isSome_own_setCurrent, args.own_eq]
    have hentered : NamesMinted lib.registry.LocalName (c.own.isSome ∨ lib.Quiet) c₁.current
        (c₁.current + d.inner.length) (mintedFrom d.innerLocals c₁.current) := by
      have hlength : d.inner.length = d.innerLocals.length := by simp [Definition.innerLocals]
      rw [hlength]
      exact .run (fun h hh => ⟨d, held, hh⟩) c₁.current
    have hminted₁ := hinner.minted
    rw [Counters.current_setCurrent, hown] at hminted₁
    have hminted₂ := hmore.minted
    rw [hinner.own, hown] at hminted₂
    refine ⟨mintedFrom d.innerLocals c₁.current ++ names₁ ++ names₂, ?_, ?_, ?_, ?_⟩
    · rw [hmore.own, hinner.own, hown]
    · exact (hcall.minted_nothing args).append ((hentered.append hminted₁).append hminted₂)
    · rw [List.map_append, ← Multiset.coe_add, hinner.results, hmore.results, hregisters,
        Definition.registers, List.map_cons, hout]
      simp only [List.map_append, ← Multiset.coe_add, ← Multiset.cons_coe,
        ← Multiset.singleton_add]
      abel
    · rw [List.map_append, List.getLast?_append, hmore.last, hinner.last, hregisters,
        Definition.registers, List.getLast?_concat, List.map_cons, List.getLast?_cons, hout]
      cases (rest.map Pending.output).getLast? <;> rfl

section OneCall

variable {lib : Library} {call : Pending} {c c' : Counters} {prog : Program}
  {names : List (String × Int)}

/-- What is written for one call is its output or a minted name. -/
theorem Writes.result_cases (h : Writes lib [call] c prog c' names) {i : Instruction}
    (hi : i ∈ prog) : i.result = call.output ∨ ∃ m ∈ names, mintedRegister m = i.result := by
  have hmem : i.result ∈ (prog.map Instruction.result : Multiset Value) :=
    Multiset.mem_coe.2 (List.mem_map_of_mem hi)
  rw [h.results] at hmem
  simpa using hmem

/-- Nothing is written twice for one call whose output is not minted. -/
theorem Writes.nodup_results (h : Writes lib [call] c prog c' names) {output : String}
    (hout : call.output = .str output) (hunminted : isMinted output = false) :
    (prog.map Instruction.result).Nodup := by
  rw [← Multiset.coe_nodup, h.results, List.map_singleton, hout, Multiset.coe_add,
    Multiset.coe_nodup, List.singleton_append, List.nodup_cons]
  constructor
  · intro hmem
    obtain ⟨m, -, heq⟩ := List.mem_map.1 hmem
    have hmark := isMinted_mint m.1 m.2
    rw [Value.str.inj heq, hunminted] at hmark
    cases hmark
  · refine List.Nodup.map_on (fun m _ m' _ heq => ?_) h.minted.nodup.of_map
    obtain ⟨hhint, hnumber⟩ := mint_inj.1 (Value.str.inj heq)
    exact Prod.ext hhint hnumber

end OneCall

/-! ### Calls from outside -/

/-- The arguments of a call from outside are values, which move no counter. -/
theorem still_callArguments {lib : Library} (inputs : List Value) (params : List (String × Value)) :
    ∀ n ∈ argumentNodes (callArguments inputs params), n.MovesBy lib (· = ·) := by
  intro n hn
  rw [argumentNodes, blockEntries_callArguments, positionalNodes_callArguments] at hn
  rcases List.mem_append.1 hn with hn | hn
  · obtain ⟨e, he, hnode⟩ := List.mem_filterMap.1 hn
    obtain ⟨p, -, rfl⟩ := List.mem_map.1 he
    cases hnode
    trivial
  · obtain ⟨v, -, rfl⟩ := List.mem_map.1 hn
    trivial

/-- A call from outside is plain if its output and its parameters are. -/
theorem plain_callArguments {lib : Library} {name : Value} {inputs : List Value} {output : String}
    {params : List (String × Value)} (hnumber : Decimal.readFloat? output = none)
    (hparams : ∀ p ∈ params, p.1 ≠ "y") :
    Pending.Plain lib ⟨name, callArguments inputs params, .str output⟩ := by
  refine ⟨⟨output, rfl, hnumber⟩, ?_, ?_⟩
  · intro k n hk heq
    rw [blockEntries_callArguments] at hk
    obtain ⟨p, hp, hentry⟩ := List.mem_map.1 hk
    cases hentry
    exact hparams p hp (Value.str.inj heq)
  · exact fun _ => still_callArguments inputs params

/-- **Single assignment.** The last instruction of a compiled program writes the output, and no
other does.  The others write names that were minted from inner locals while the call was compiled,
with numbers from the counter before to the counter after: none twice, and every one unless deferred
expressions use the same counter. -/
theorem compileCall_assigns_once {lib : Library} (hr : lib.registry.Ordinary)
    (hspares : lib.registry.SparesResult) {depth : Nat} {name : Value} {inputs : List Value}
    {output : String} {params : List (String × Value)} (hunminted : isMinted output = false)
    (hnumber : Decimal.readFloat? output = none) (hparams : ∀ p ∈ params, p.1 ≠ "y")
    {c c' : Compiler} {prog : Program}
    (h : (compileCall lib depth name inputs (.str output) params).run c = (.ok prog, c')) :
    ∃ (body : Program) (i : Instruction) (names : List (String × Int)),
      prog = body ++ [i] ∧ i.result = .str output ∧
      (∀ j ∈ body, j.result ≠ .str output) ∧
      body.map Instruction.result = names.map mintedRegister ∧
      (∀ m ∈ names, lib.registry.LocalName m.1 ∧
        c.counters.current ≤ m.2 ∧ m.2 < c'.counters.current) ∧
      (names.map Prod.snd).Nodup ∧
      (c.counters.own.isSome ∨ lib.Quiet →
        ∀ k, c.counters.current ≤ k → k < c'.counters.current → k ∈ names.map Prod.snd) := by
  obtain ⟨names, hwrites⟩ := writes_of_expands hr hspares (expands_of_compileCall hr h)
    (List.forall_mem_singleton.2 (plain_callArguments hnumber hparams))
  have hlast : (prog.map Instruction.result).getLast? = some (.str output) := hwrites.last
  obtain ⟨body, i, rfl⟩ : ∃ body i, prog = body ++ [i] := by
    rcases List.eq_nil_or_concat prog with rfl | ⟨body, i, rfl⟩
    · cases hlast
    · exact ⟨body, i, List.concat_eq_append⟩
  have hi : i.result = .str output := by simpa using hlast
  -- Without the last instruction, what is left of the results is what was minted.
  have hbody : (body.map Instruction.result).Perm (names.map mintedRegister) := by
    have hall : ((body ++ [i]).map Instruction.result).Perm
        ([.str output] ++ names.map mintedRegister) := Multiset.coe_eq_coe.1 hwrites.results
    rw [List.map_append, List.map_singleton, hi] at hall
    exact (List.perm_append_left_iff _).1 (List.perm_append_comm.trans hall)
  obtain ⟨ordered, hordered, hperm⟩ : ∃ ordered : List (String × Int),
      body.map Instruction.result = ordered.map mintedRegister ∧ ordered.Perm names :=
    (congrFun₂ (List.eq_map_comp_perm mintedRegister) _ _).mpr hbody
  have hminted := hwrites.minted.perm hperm
  refine ⟨body, i, ordered, rfl, hi, ?_, hordered, ?_, hminted.nodup, hminted.full⟩
  · intro j hj heq
    have hnodup := hwrites.nodup_results rfl hunminted
    rw [List.map_append] at hnodup
    refine List.disjoint_of_nodup_append hnodup (List.mem_map_of_mem hj) ?_
    rw [List.map_singleton, hi, heq]
    exact List.mem_singleton_self _
  · exact fun m hm => ⟨hminted.hint m hm, hminted.bounds m hm⟩

/-! ### A perceptron -/

theorem Registry.sparesResult_default : Registry.default.SparesResult := by
  intro d hd
  have hall : ∀ e ∈ Standard.all, "y" ∉ e.keywordNames := by decide
  exact hall d (mem_standard_of_holds hd)

/-- A perceptron writes its output last, and nine minted names before. -/
theorem mlp2_assigns_once : ∃ (body : Program) (i : Instruction) (names : List (String × Int)),
    (compileCall .standard 5 (.str "mlp2") [.str "x"] (.str "out") []).run {} =
        (.ok (body ++ [i]), { counters := { shared := 9 } }) ∧
      i.result = .str "out" ∧ body.map Instruction.result = names.map mintedRegister ∧
      (names.map Prod.snd).Nodup ∧ ∀ k, 0 ≤ k → k < 9 → k ∈ names.map Prod.snd := by
  have hok : ((compileCall .standard 5 (.str "mlp2") [.str "x"] (.str "out") []).run {}).1.isOk =
      true := by decide +kernel
  have hstate : ((compileCall .standard 5 (.str "mlp2") [.str "x"] (.str "out") []).run {}).2 =
      { counters := { shared := 9 } } := by decide +kernel
  obtain ⟨prog, c', hrun⟩ := exists_of_isOk hok
  rw [hrun] at hstate
  obtain rfl : c' = { counters := { shared := 9 } } := hstate
  obtain ⟨body, i, names, rfl, hi, -, hbody, -, hnodup, hfull⟩ :=
    compileCall_assigns_once Registry.ordinary_default Registry.sparesResult_default (by decide)
      (by decide +kernel) (by simp) hrun
  exact ⟨body, i, names, hrun, hi, hbody, hnodup,
    hfull (.inr (Library.quiet_of_no_functions rfl))⟩

/-! ### A number that is skipped -/

namespace Skipping

open Source (Expr)

/-- A layer with one inner local, named `g`. -/
def inner : Definition where
  name := "g"
  signature := { formals := [⟨"x", .standard, none⟩] }
  inner := [Standard.statement 3 "u" "relu" [] [.symbol "x"]]
  last := Standard.statement 4 "y" "relu" [] [.symbol "u"]
  surroundings := { globals := 0 }
  file := .layers 0

/-- The expression `g('a', 'b') is None`, which calls the layer and drops the block it yields. -/
def expression : Expr :=
  .compare
    (.call 8 (.name "g") [.mk 8 (.literal (.str "a" false)), .mk 8 (.literal (.str "b" false))] [])
    [(.is, .literal .null)]

/-- A layer that gives its weights the expression as an option. -/
def outer : Definition where
  name := "f"
  signature := { formals := [⟨"x", .standard, none⟩] }
  inner := [Standard.statement 8 "w" "par" [.named "opt" (.deferred expression.text expression)]
    [.literal (.int 1)]]
  last := Standard.statement 9 "y" "dot" [] [.symbol "w", .symbol "x"]
  surroundings := { globals := 0 }
  file := .layers 0

/-- Both layers, of which the inner one is also a function that expressions see. -/
def library : Library where
  registry := [inner, outer].foldl Registry.registerLayer Registry.primitives
  scopes := [Table.ofList [("g", .layer "g" 0)]]
  functions := [{ definition := inner, registry := 0 }]
  samples := .zeros

theorem accepted_inner : inner.Accepted :=
  Standard.accepted_of_read (f := ⟨[⟨"x", .standard, none⟩], 2,
    [.assign 3 [.name "u"] (.call 3 (.name "relu") [.mk 3 (.name "x")] []),
      .assign 4 [.name "y"] (.call 4 (.name "relu") [.mk 4 (.name "u")] [])]⟩)
    rfl

/-- The names that the body of the outer layer can use. -/
def names : BodyNames :=
  { layer := "f", symbols := ["x", "w", "y"], parameters := [], collector := none }

/-- The expression mentions no register, so it is deferred. -/
theorem readTerm_expression :
    names.readTerm 8 expression = .ok (.deferred expression.text expression) :=
  BodyNames.readTerm_eq_deferred (by simp [expression]) (by simp [expression]) (by decide +kernel)
    (by decide) (by decide)

theorem accepted_outer : outer.Accepted := by
  have hkeywords : names.readKeywords 8 [.named "opt" 8 expression] =
      .ok [.named "opt" (.deferred expression.text expression)] := by
    rw [BodyNames.readKeywords, readTerm_expression]
    rfl
  have hbody : names.readBody
      [⟨8, "w", 8, .name "par", [.mk 8 (.literal (.int 1))], [.named "opt" 8 expression]⟩,
        ⟨9, "y", 9, .name "dot", [.mk 9 (.name "w"), .mk 9 (.name "x")], []⟩] =
      .ok outer.body := by
    rw [BodyNames.readBody, BodyNames.readStatement, hkeywords]
    rfl
  exact Standard.accepted_of_steps ⟨[⟨"x", .standard, none⟩], 7,
    [.assign 8 [.name "w"] (.call 8 (.name "par") [.mk 8 (.literal (.int 1))]
        [.named "opt" 8 expression]),
      .assign 9 [.name "y"] (.call 9 (.name "dot") [.mk 9 (.name "w"), .mk 9 (.name "x")] [])]⟩
    rfl rfl rfl rfl rfl hbody

theorem ordinary_library : library.registry.Ordinary :=
  (Registry.ordinary_primitives.registerLayer accepted_inner).registerLayer accepted_outer

/-- The one keyword that is written is `opt`. -/
theorem keywordNames_library {d : Definition} (hd : library.registry.Holds d) :
    d.keywordNames ⊆ ["opt"] := by
  have hall : ∀ e ∈ [inner, outer], e.keywordNames ⊆ ["opt"] := by decide
  exact hall d ((Registry.holds_of_foldl hd).resolve_left (Registry.not_holds_primitives d))

/-- The text of a register. -/
def registerText : Value → String
  | .str s => s
  | _ => ""

/-- **A number may be skipped.** The outer layer compiles to two instructions while the counter goes
from 0 to 2: number 1 went to the block that the expression dropped, and nothing writes it. -/
theorem number_one_skipped :
    library.registry.Ordinary ∧
      (∀ d, library.registry.Holds d → "y" ∉ d.keywordNames ∧ "x2" ∉ d.keywordNames) ∧
      isMinted "y" = false ∧ Decimal.readFloat? "y" = none ∧
      ∃ prog, (compileCall library 3 (.str "f") [.str "x"] (.str "y") []).run {} =
          (.ok prog, { counters := { shared := 2 } }) ∧
        ∀ i ∈ prog, ∀ hint, i.result ≠ mintedRegister (hint, 1) := by
  have hspares (d : Definition) (hd : library.registry.Holds d) :
      "y" ∉ d.keywordNames ∧ "x2" ∉ d.keywordNames := by
    have hopt {name : String} (h : name ∈ d.keywordNames) : name = "opt" :=
      List.mem_singleton.1 (keywordNames_library hd h)
    exact ⟨fun h => absurd (hopt h) (by decide), fun h => absurd (hopt h) (by decide)⟩
  refine ⟨ordinary_library, hspares, by decide, by decide +kernel, ?_⟩
  have hstate : ((compileCall library 3 (.str "f") [.str "x"] (.str "y") []).run {}).2 =
      { counters := { shared := 2 } } := by decide +kernel
  have hresults : (((compileCall library 3 (.str "f") [.str "x"] (.str "y") []).run
      {}).1.toOption.map (List.map fun i => registerText i.result)) = some ["##w#0", "y"] := by
    decide +kernel
  rcases hrun : (compileCall library 3 (.str "f") [.str "x"] (.str "y") []).run {} with
    ⟨_ | prog, c'⟩
  · rw [hrun] at hresults
    cases hresults
  · rw [hrun] at hstate hresults
    obtain rfl : c' = { counters := { shared := 2 } } := hstate
    refine ⟨prog, rfl, fun i hi hint heq => ?_⟩
    have htext : mint hint 1 ∈ ["##w#0", "y"] := by
      rw [← Option.some.inj hresults]
      exact List.mem_map.2 ⟨i, hi, by rw [heq]; rfl⟩
    have hfirst : "##w#0" = mint "w" 0 := by decide +kernel
    rcases List.mem_pair.1 htext with h | h
    · rw [hfirst, mint_inj] at h
      exact absurd h.2 (by decide)
    · have hmark := isMinted_mint hint 1
      rw [h] at hmark
      exact absurd hmark (by decide)

end Skipping

end Laminar
