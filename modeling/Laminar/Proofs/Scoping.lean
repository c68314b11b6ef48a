import Mathlib
import Laminar.Proofs.Registers
import Laminar.Proofs.SingleAssignment

/-!
# Well-scoped programs can be assembled

Assembly refuses a result that it has met before, as a result or as an operand.  The compiler never
writes a register twice, but that is not enough: a program may *read* a register before it writes
it, and then the later instruction is refused.  Which texts can get into the place of an operand is
a question about everything that flows through a call: positional values, keywords, keywords handed
on, defaults, literals.

The invariant follows the flow.  A text is *harmless* if it can be no result of this compilation: it
is not minted and it is not the output.  A value is *readable* if it is harmless or has been written
already.  What a call is given is readable at the time of the call, and so every instruction reads
what is readable at its time.

* `Definition.Scoped` is the condition on a layer: its literals and defaults are harmless, it defers
  nothing, and it mentions a local only after the statement that binds it.
* `readable_of_expands` is the invariant, by induction over expansion.
* `assembleEntries_of_readable`: assembly accepts such a program.
* `assemble_of_compileCall` puts the two stages together.
-/

namespace Laminar

/-! ### Harmless and readable values -/

/-- A value that is no register of its own making: if it is a text at all, it is neither minted nor
the output. -/
def Value.Harmless (output : String) (v : Value) : Prop :=
  ∀ s, v.unlabelled = .str s → isMinted s = false ∧ s ≠ output

theorem Value.harmless_str {output s : String} (hunminted : isMinted s = false) (hne : s ≠ output) :
    (Value.str s).Harmless output := by
  intro t ht
  obtain rfl : s = t := Value.str.inj ht
  exact ⟨hunminted, hne⟩

/-- A value that can be read once some registers are written. -/
def Value.Readable (output : String) (written : List Value) (v : Value) : Prop :=
  v.Harmless output ∨ v.unlabelled ∈ written

theorem Value.Readable.mono {output : String} {written written' : List Value} {v : Value}
    (h : v.Readable output written) (hsub : written ⊆ written') : v.Readable output written' :=
  h.imp_right fun hmem => hsub hmem

/-- The arguments of every call are readable once the calls before it have written their outputs. -/
def CallsReadable (output : String) : List Value → List Pending → Prop
  | _, [] => True
  | written, call :: rest =>
    (∀ n ∈ argumentNodes call.args, ∀ v, n.Gives v → v.Readable output written) ∧
      CallsReadable output (written ++ [call.output]) rest

/-- The operands of every instruction are texts that are readable when it is executed. -/
def ProgramReadable (output : String) : List Value → Program → Prop
  | _, [] => True
  | written, i :: rest =>
    (∀ o ∈ i.operands, ∃ s, o = .str s ∧ o.Readable output written) ∧
      ProgramReadable output (written ++ [i.result]) rest

namespace ProgramReadable

variable {output : String} {written written' : List Value} {prog prog' : Program}

theorem mono (h : ProgramReadable output written prog) (hsub : written ⊆ written') :
    ProgramReadable output written' prog := by
  induction prog generalizing written written' with
  | nil => trivial
  | cons i rest ih =>
    obtain ⟨hoperands, hrest⟩ := h
    refine ⟨fun o ho => ?_, ih hrest ?_⟩
    · obtain ⟨s, rfl, hs⟩ := hoperands o ho
      exact ⟨s, rfl, hs.mono hsub⟩
    · exact List.append_subset.2 ⟨List.subset_append_of_subset_left _ hsub, by simp⟩

theorem append (h : ProgramReadable output written prog)
    (h' : ProgramReadable output (written ++ prog.map Instruction.result) prog') :
    ProgramReadable output written (prog ++ prog') := by
  induction prog generalizing written with
  | nil => simpa using h'
  | cons i rest ih =>
    refine ⟨h.1, ih h.2 ?_⟩
    simpa using h'

end ProgramReadable

/-! ### Layers -/

/-- Statements mention a local only after it is bound, given what is bound at the start. -/
def BoundFirst (locals : List String) : List String → List BodyStatement → Prop
  | _, [] => True
  | bound, s :: rest =>
    (∀ name, .symbol name ∈ s.call.terms → name ∈ locals → name ∈ bound) ∧
      BoundFirst locals (bound ++ [s.target]) rest

/-- A layer that brings in no register of its own making and reads no local too early. -/
structure Definition.Scoped (output : String) (d : Definition) : Prop where
  immediate : ∀ text e, .deferred text e ∉ d.terms
  ordered : BoundFirst d.locals [] d.body
  literals : ∀ v, .literal v ∈ d.terms → v.Harmless output
  defaults : ∀ f ∈ d.signature.formals, ∀ v, f.default = some v → v.Harmless output

section Layer

variable {output : String} {written : List Value} {d : Definition} {b : Binding}

/-- What the names of a layer are bound to is readable, if what the layer is called with is. -/
theorem readable_of_bind {values : List Value} {named : List (String × Value)}
    (hscoped : d.Scoped output) (hbind : d.signature.bind values named = .ok b)
    (hvalues : ∀ v ∈ values, v.Readable output written)
    (hnamed : ∀ p ∈ named, p.2.Readable output written) :
    (∀ p ∈ b.values ++ d.collectorEntry b, p.2.Readable output written) ∧
      ∀ p ∈ b.collected, p.2.Readable output written := by
  obtain ⟨hbound, hcollected⟩ := Signature.bind_values hbind
  refine ⟨fun p hp => ?_, fun p hp => hnamed p (hcollected hp)⟩
  rcases List.mem_append.1 hp with hp | hp
  · rcases hbound p hp with hp | hp | ⟨f, hf, hdefault⟩
    · exact hvalues _ hp
    · exact hnamed p hp
    · exact .inl (hscoped.defaults f hf _ hdefault)
  · -- The collected keywords as a whole are no text.
    have heq : p.2 = Definition.collectedValue b := by
      unfold Definition.collectorEntry at hp
      split at hp
      · cases hp
      · rw [List.mem_singleton.1 hp]
    refine .inl fun s hs => ?_
    rw [heq] at hs
    cases hs

variable {closure : List (String × Value)} {out : String} {n : Int}

/-- What a term of a body evaluates to is readable, if the formals are and the locals that are bound
already. -/
theorem readable_of_fillTerm (hwf : d.WellFormed) (hscoped : d.Scoped output)
    (hformals : ∀ p ∈ b.values ++ d.collectorEntry b, p.2.Readable output written)
    {bound : List String} (hlocals : ∀ name ∈ bound, ∀ v,
      (d.actuals b closure out n).get name = .ok v → v.Readable output written)
    {t : Term} (ht : t ∈ d.terms)
    (hbound : ∀ name, t = .symbol name → name ∈ d.locals → name ∈ bound) {m : Node}
    (hfill : Definition.fillTerm d.surroundings.globals (d.actuals b closure out n) t = .ok m)
    {v : Value} (hgives : m.Gives v) : v.Readable output written := by
  cases t with
  | symbol name =>
    obtain ⟨w, hw, hm⟩ := bind_eq_ok.1 hfill
    cases pure_eq_ok.1 hm
    cases hgives
    by_cases hlocal : name ∈ d.locals
    · exact hlocals name (hbound name rfl hlocal) v hw
    · exact hformals _ (Definition.get_of_not_local hlocal hw)
  | parameter name =>
    obtain ⟨w, hw, hm⟩ := bind_eq_ok.1 hfill
    cases pure_eq_ok.1 hm
    cases hgives
    exact hformals _ (Definition.get_of_not_local (hwf.parameter_not_local name ht) hw)
  | literal value =>
    cases pure_eq_ok.1 hfill
    cases hgives
    exact .inl (hscoped.literals v ht)
  | deferred text e => exact absurd ht (hscoped.immediate text e)

/-- **The calls of a body are readable** in order, if what the layer is called with is. -/
theorem callsReadable_of_filled (hwf : d.WellFormed) (hscoped : d.Scoped output)
    (hformals : ∀ p ∈ b.values ++ d.collectorEntry b, p.2.Readable output written)
    (hcollected : ∀ p ∈ b.collected, p.2.Readable output written)
    (bound : List String) (hlocals : ∀ name ∈ bound, ∀ v,
      (d.actuals b closure out n).get name = .ok v → v.Readable output written)
    {statements : List BodyStatement} {calls : List Pending} (hbody : statements ⊆ d.body)
    (hordered : BoundFirst d.locals bound statements)
    (hfilled : List.Forall₂ (Filled d (d.actuals b closure out n)) statements calls)
    (htexts : ∀ call ∈ calls, ∃ s, call.output = .str s) :
    CallsReadable output written calls := by
  induction hfilled generalizing written bound with
  | nil => trivial
  | @cons s call statements calls hfill _ ih =>
    obtain ⟨hmentions, hrest⟩ := hordered
    obtain ⟨⟨name, hname⟩, htexts⟩ := List.forall_mem_cons.1 htexts
    have hgrow : written ⊆ written ++ [call.output] := List.subset_append_left _ _
    refine ⟨fun m hm v hgives => ?_, ?_⟩
    · rcases hfill.nodes m hm with ⟨t, ht, hterm⟩ | ⟨k, hk, rfl⟩
      · refine readable_of_fillTerm hwf hscoped hformals hlocals
          (Definition.mem_terms.2 ⟨s, hbody List.mem_cons_self, ht⟩) ?_ hterm hgives
        rintro name rfl hlocal
        exact hmentions name ht hlocal
      · cases hgives
        exact hcollected k hk
    · refine ih (fun p hp => (hformals p hp).mono hgrow) (fun p hp => (hcollected p hp).mono hgrow)
        _ ?_ (List.subset_of_cons_subset hbody) hrest htexts
      intro other hother v hv
      rcases List.mem_append.1 hother with hother | hother
      · exact (hlocals other hother v hv).mono hgrow
      · -- The local just bound stands for the register just written.
        rw [List.mem_singleton.1 hother, hfill.target] at hv
        obtain rfl := Except.ok.inj hv
        refine .inr ?_
        rw [hname, Value.unlabelled_str]
        simp

end Layer

/-! ### Expansion -/

/-- What arguments amount to is readable if whatever they can give is. -/
theorem Evaluated.readable {lib : Library} {call : Pending} {c after : Counters}
    {values : List Value} {named : List (String × Value)} {output : String} {written : List Value}
    (args : Evaluated lib call c values named after)
    (hgiven : ∀ n ∈ argumentNodes call.args, ∀ v, n.Gives v → v.Readable output written) :
    (∀ v ∈ values, v.Readable output written) ∧ ∀ p ∈ named, p.2.Readable output written := by
  refine ⟨fun v hv => ?_, fun p hp => ?_⟩
  · obtain ⟨m, hm, hgives⟩ := args.values_given v hv
    exact hgiven m (List.mem_append_right _ hm) v hgives
  · obtain ⟨k, m, hk, -, hgives⟩ := args.named_given p hp
    exact hgiven m (List.mem_append_left _ (List.mem_filterMap.2 ⟨_, hk, rfl⟩)) _ hgives

/-- **Programs read what is readable.** -/
theorem readable_of_expands {lib : Library} {output : String} (hr : lib.registry.Ordinary)
    (hspares : lib.registry.SparesResult)
    (hscoped : ∀ d, lib.registry.Holds d → d.Scoped output) {calls : List Pending}
    {c c' : Counters} {prog : Program} (h : Expands lib calls c prog c')
    (hplain : ∀ call ∈ calls, call.Plain lib) {written : List Value}
    (hcalls : CallsReadable output written calls) : ProgramReadable output written prog := by
  induction h generalizing written with
  | done => trivial
  | @primitive call rest c c₁ c₂ values named p i prog args emitted more ih =>
    obtain ⟨hcall, hrest⟩ := List.forall_mem_cons.1 hplain
    obtain ⟨hgiven, hlater⟩ := hcalls
    obtain ⟨out, hout, hnumber⟩ := hcall.output
    rw [hout] at emitted hlater
    obtain ⟨hresult, hoperands⟩ :=
      Primitive.instruction_unlabelled_spec hnumber (hcall.named args) emitted
    refine ⟨fun o ho => ?_, by rw [hresult]; exact ih hrest hlater⟩
    obtain ⟨s, rfl, v, hv, hs⟩ := hoperands o ho
    have hreadable := (args.readable hgiven).1 v hv
    refine ⟨s, rfl, ?_⟩
    rwa [Value.Readable, Value.Harmless, Value.unlabelled_str, ← hs]
  | @layer call rest body c c₁ c₂ c₃ values named d b out inner prog args held bound filled inside
      more ih ih' =>
    obtain ⟨hcall, hrest⟩ := List.forall_mem_cons.1 hplain
    obtain ⟨hgiven, hlater⟩ := hcalls
    obtain ⟨hout, hbody, hregisters⟩ := hcall.enter hr hspares args held bound filled
    have hwf := (hr.accepted held).wellFormed
    obtain ⟨hvalues, hnamed⟩ := args.readable hgiven
    obtain ⟨hformals, hcollected⟩ := readable_of_bind (hscoped d held)
      (Definition.bindCall_eq_ok bound).1 hvalues hnamed
    have hinner : ProgramReadable output written inner := by
      refine ih hbody (callsReadable_of_filled hwf (hscoped d held) hformals hcollected [] (by simp)
        (List.Subset.refl _) (hscoped d held).ordered filled ?_)
      intro call hmem
      obtain ⟨s, hs, -⟩ := (hbody call hmem).output
      exact ⟨s, hs⟩
    -- What follows may read the output of the call, which its body has written.
    obtain ⟨names, hwrites⟩ := writes_of_expands hr hspares inside hbody
    have hlast := hwrites.last
    rw [hregisters, Definition.registers, List.getLast?_concat, ← hout] at hlast
    refine hinner.append ((ih' hrest hlater).mono (List.append_subset.2 ⟨?_, ?_⟩))
    · exact List.subset_append_left _ _
    · exact List.cons_subset.2 ⟨List.mem_append_right _ (List.mem_of_getLast? hlast), by simp⟩

/-! ### Assembly -/

/-- **Assembly accepts a program that reads what is readable** and writes registers of its own
making only, each of them once. -/
theorem assembleEntries_of_readable {output : String} {prog : Program} {written : List Value}
    {a : Assembly} (hsymbols : ∀ u ∈ a.symbols, ∃ s, u = .str s ∧ u.Readable output written)
    (hreadable : ProgramReadable output written prog)
    (hresults : ∀ i ∈ prog, ∃ s, i.result = .str s ∧ (isMinted s = true ∨ s = output))
    (hnodup : (written ++ prog.map Instruction.result).Nodup) :
    ∃ a', assembleEntries a (prog.map Instruction.toValue) = .ok a' := by
  induction prog generalizing a written with
  | nil => exact ⟨a, rfl⟩
  | cons i rest ih =>
    obtain ⟨hoperands, hlater⟩ := hreadable
    obtain ⟨⟨s, hs, hmade⟩, hrest⟩ := List.forall_mem_cons.1 hresults
    obtain ⟨registers, symbols, hintern⟩ :
        ∃ registers symbols, internAll a.symbols i.operands = .ok (registers, symbols) :=
      internAll_of_texts fun o ho => (hoperands o ho).imp fun _ => And.left
    -- Everything known when the result is written was readable before.
    have hknown : ∀ u ∈ symbols, ∃ t, u = .str t ∧ u.Readable output written := by
      obtain ⟨new, rfl, hnew, -, -⟩ := internAll_eq_ok hintern
      exact List.forall_mem_append.2 ⟨hsymbols, fun u hu => hoperands u (hnew hu)⟩
    have hfresh : ¬ Known symbols (.str s) := by
      rw [known_str_iff fun u hu => (hknown u hu).imp fun _ => And.left]
      intro hmem
      obtain ⟨t, -, hharmless | hwritten⟩ := hknown _ hmem
      · obtain ⟨hunminted, hne⟩ := hharmless s (Value.unlabelled_str s)
        rcases hmade with hminted | rfl
        · rw [hunminted] at hminted
          cases hminted
        · exact hne rfl
      · rw [Value.unlabelled_str, ← hs] at hwritten
        exact (List.disjoint_of_nodup_append hnodup) hwritten List.mem_cons_self
    have hafter : ∀ u ∈ symbols ++ [.str s],
        ∃ t, u = .str t ∧ u.Readable output (written ++ [i.result]) := by
      refine List.forall_mem_append.2 ⟨fun u hu => ?_, List.forall_mem_singleton.2 ?_⟩
      · obtain ⟨t, ht, hreadable⟩ := hknown u hu
        exact ⟨t, ht, hreadable.mono (List.subset_append_left _ _)⟩
      · refine ⟨s, rfl, .inr ?_⟩
        rw [Value.unlabelled_str, hs]
        simp
    obtain ⟨a', ha'⟩ := ih (a := ⟨a.ops ++ [i.op], a.operands ++ [registers], symbols ++ [.str s]⟩)
      hafter hlater hrest (by simpa using hnodup)
    refine ⟨a', ?_⟩
    simp only [List.map_cons, assembleEntries, Value.instruction?_toValue, bind_eq_ok]
    exact ⟨_, Assembly.add_of_new hs hintern hfresh, ha'⟩

/-! ### Both stages -/

/-- The arguments of a call from outside are readable, if its parameters are harmless and its inputs
are neither minted nor the output. -/
theorem callsReadable_callArguments {output : String} {name : Value} {inputs : List String}
    {params : List (String × Value)} (houtput : output ∉ inputs)
    (hinputs : ∀ s ∈ inputs, isMinted s = false) (hvalues : ∀ p ∈ params, p.2.Harmless output) :
    CallsReadable output [] [⟨name, callArguments (inputs.map .str) params, .str output⟩] := by
  refine ⟨fun n hn v hgives => .inl ?_, trivial⟩
  rw [argumentNodes, blockEntries_callArguments, positionalNodes_callArguments] at hn
  rcases List.mem_append.1 hn with hn | hn
  · obtain ⟨e, he, hnode⟩ := List.mem_filterMap.1 hn
    obtain ⟨p, hp, rfl⟩ := List.mem_map.1 he
    cases hnode
    cases hgives
    exact hvalues p hp
  · obtain ⟨u, hu, rfl⟩ := List.mem_map.1 hn
    obtain ⟨s, hs, rfl⟩ := List.mem_map.1 hu
    cases hgives
    exact Value.harmless_str (hinputs s hs) fun heq => houtput (heq ▸ hs)

/-- **Assembly never refuses a well-scoped program.** If a call compiles, its program can be
assembled, and the output gets the largest register. -/
theorem assemble_of_compileCall {lib : Library} {output : String} (hr : lib.registry.Ordinary)
    (hspares : lib.registry.SparesResult)
    (hscoped : ∀ d, lib.registry.Holds d → d.Scoped output) {depth : Nat} {name : Value}
    {inputs : List String} {params : List (String × Value)} (hdistinct : inputs.Nodup)
    (houtput : output ∉ inputs) (hunminted : ∀ s ∈ output :: inputs, isMinted s = false)
    (hnumber : Decimal.readFloat? output = none) (hkeys : ∀ p ∈ params, p.1 ≠ "y")
    (hvalues : ∀ p ∈ params, p.2.Harmless output) {c c' : Compiler} {prog : Program}
    (h : (compileCall lib depth name (inputs.map .str) (.str output) params).run c =
      (.ok prog, c')) :
    ∃ a, assemble (prog.map Instruction.toValue) (inputs.map .str) = .ok a ∧
      ∃ r, registerOf? a.symbols (.str output) = some r ∧ r + 1 = a.symbols.length := by
  obtain ⟨houtminted, hinminted⟩ := List.forall_mem_cons.1 hunminted
  have hexpands := expands_of_compileCall hr h
  have hplain : ∀ call ∈ [Pending.mk name (callArguments (inputs.map .str) params) (.str output)],
      call.Plain lib := List.forall_mem_singleton.2 (plain_callArguments hnumber hkeys)
  obtain ⟨names, hwrites⟩ := writes_of_expands hr hspares hexpands hplain
  have hreadable := readable_of_expands hr hspares hscoped hexpands hplain
    (callsReadable_callArguments houtput hinminted hvalues)
  obtain ⟨declared, hdeclared⟩ : ∃ a, assembleInputs {} (inputs.map .str) = .ok a :=
    assembleInputs_of_nodup (by simp) hdistinct (by simp)
  obtain ⟨-, -, hsymbols, hinputs⟩ := assembleInputs_eq_ok hdeclared
  rw [List.nil_append] at hsymbols
  obtain ⟨a, ha⟩ : ∃ a, assembleEntries declared (prog.map Instruction.toValue) = .ok a := by
    refine assembleEntries_of_readable ?_ hreadable ?_ (hwrites.nodup_results rfl houtminted)
    · rw [hsymbols]
      intro u hu
      obtain ⟨s, hs, rfl⟩ := List.mem_map.1 hu
      refine ⟨s, rfl, .inl (Value.harmless_str (hinminted s hs) ?_)⟩
      exact fun heq => houtput (heq ▸ hs)
    · intro i hi
      rcases hwrites.result_cases hi with hresult | ⟨m, -, hresult⟩
      · exact ⟨output, hresult, .inr rfl⟩
      · exact ⟨_, hresult.symm, .inl (isMinted_mint m.1 m.2)⟩
  refine ⟨a, bind_eq_ok.2 ⟨declared, liftFault_eq_ok.2 hdeclared, ha⟩, ?_⟩
  -- The last instruction writes the output, and the symbol added last has the largest number.
  have numbered := numbered_of_assembleEntries ha
  obtain ⟨i, hi, hresult⟩ : ∃ i, prog.getLast? = some i ∧ i.result = .str output := by
    simpa using hwrites.last
  have hlast := numbered.last i hi
  rw [hresult, List.getLast?_eq_getElem?] at hlast
  have hpos := (List.getElem?_eq_some_iff.1 hlast).1
  refine ⟨_, registerOf?_of_distinct (numbered.distinct (hinputs .nil)) (by simp) hlast, ?_⟩
  omega

/-! ### The standard layers -/

namespace Standard

/-- The standard layers are scoped for every output that is not the name of an activation that they
mention. -/
theorem scoped_of_mem {output : String} (hrelu : "relu" ≠ output) (hsoft : "soft" ≠ output) :
    ∀ d ∈ Standard.all, d.Scoped output := by
  have unmintedRelu : isMinted "relu" = false := by decide
  have unmintedSoft : isMinted "soft" = false := by decide
  intro d hd
  fin_cases hd <;> refine ⟨?_, ?_, ?_, ?_⟩ <;>
    simp [wdot, bias, wb, wf, dropWf, mlp2, layer, statement, signature, Definition.terms,
      CallTerm.terms, KeywordTerm.term?, Definition.body, Definition.innerLocals, Definition.output,
      BoundFirst, Value.Harmless, Value.unlabelled, unmintedRelu, unmintedSoft, hrelu, hsoft]

end Standard

/-- A perceptron that is given the name of its activation is assembled, its output last. -/
theorem mlp2_assembles : ∃ prog c' a,
    (compileCall .standard 5 (.str "mlp2") [.str "x"] (.str "out")
      [("f", .str "sigm"), ("hidden", .int 3)]).run {} = (.ok prog, c') ∧
      assemble (prog.map Instruction.toValue) [.str "x"] = .ok a ∧
      ∃ r, registerOf? a.symbols (.str "out") = some r ∧ r + 1 = a.symbols.length := by
  have hok : ((compileCall .standard 5 (.str "mlp2") [.str "x"] (.str "out")
      [("f", .str "sigm"), ("hidden", .int 3)]).run {}).1.isOk = true := by decide +kernel
  obtain ⟨prog, c', hrun⟩ := exists_of_isOk hok
  have hscoped : ∀ d, Library.standard.registry.Holds d → d.Scoped "out" := fun d hd =>
    Standard.scoped_of_mem (by decide) (by decide) d (Registry.mem_standard_of_holds hd)
  have hvalues : ∀ p ∈ [("f", Value.str "sigm"), ("hidden", .int 3)], p.2.Harmless "out" := by
    refine List.forall_mem_cons.2 ⟨Value.harmless_str (by decide) (by decide), ?_⟩
    simp [Value.Harmless, Value.unlabelled]
  obtain ⟨a, ha, hlast⟩ := assemble_of_compileCall Registry.ordinary_default
    Registry.sparesResult_default hscoped (List.nodup_singleton "x") (by decide) (by decide)
    (by decide +kernel) (by decide) hvalues hrun
  exact ⟨prog, c', a, hrun, ha, hlast⟩

end Laminar
