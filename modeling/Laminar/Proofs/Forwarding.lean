import Mathlib
import Laminar.Proofs.Comparison
import Laminar.Proofs.Instance

/-!
# Layers that only hand on

A layer may do nothing but call another one with its own inputs and with all keywords it was given.
Such a layer is transparent: a call of it compiles exactly if the call of the other one does, and to
the same program.

The two compilations are not the same run.  The one through the wrapper has a frame more, marks a
line, nests one level deeper, and finds a parameter block in front of the arguments even if there
are no keywords.  So the argument has two halves.

* **What does not matter.** `Achieves m m'`: whatever `m` achieves, `m'` achieves from every state
  with the same counters.  `achieves_resolveCall`: neither frames nor a deeper limit take anything
  away, so what a call compiles to depends on the counters only.
* **What the wrapper does.** `expandCall_forwarding`: it takes its arguments apart and puts them
  together again unchanged, and mints nothing.

**Design.** The wrapper is given by its source, not by a definition of the right shape: that reading
the source yields that shape is part of the theorem (`eq_forwarding_of_read`).
-/

namespace Laminar

open Source (Expr Statement)

/-! ### Frames and limits do not matter -/

/-- Whatever one compilation achieves, the other one achieves from every state with the same
counters. -/
def Achieves {α : Type} (m m' : Compile α) : Prop :=
  ∀ s s' a t, s'.counters = s.counters → m.run s = (.ok a, t) →
    ∃ t', m'.run s' = (.ok a, t') ∧ t'.counters = t.counters

section Achieves

variable {α β : Type}

theorem achieves_pure (a : α) : Achieves (pure a) (pure a) := by
  intro s s' b t hc h
  obtain ⟨rfl, rfl⟩ := run_pure_eq_ok.1 h
  exact ⟨s', rfl, hc⟩

theorem achieves_bind {m m' : Compile α} {k k' : α → Compile β} (hm : Achieves m m')
    (hk : ∀ a, Achieves (k a) (k' a)) : Achieves (m >>= k) (m' >>= k') := by
  intro s s' b t hc h
  obtain ⟨a, u, hfirst, hrest⟩ := run_bind_eq_ok.1 h
  obtain ⟨u', hfirst', hu⟩ := hm s s' a u hc hfirst
  obtain ⟨t', hrest', ht⟩ := hk a u u' b t hu hrest
  exact ⟨t', run_bind_eq_ok.2 ⟨a, u', hfirst', hrest'⟩, ht⟩

/-- A failure achieves nothing. -/
theorem achieves_failWith (problem : Problem) (m : Compile α) : Achieves (failWith problem) m := by
  intro s s' a t _ h
  obtain ⟨_, _, _, h⟩ := run_bind_eq_ok.1 h
  exact absurd h run_throw_ne_ok

theorem achieves_markLine (line : Int) : Achieves (markLine line) (markLine line) := by
  intro s s' u t hc h
  obtain ⟨t', h'⟩ : ∃ t', (markLine line).run s' = (.ok u, t') := ⟨_, run_modify _ s'⟩
  exact ⟨t', h', by rw [counters_of_markLine h', counters_of_markLine h, hc]⟩

theorem achieves_withFrame {layer : String} {m m' : Compile α} (h : Achieves m m') :
    Achieves (withFrame layer m) (withFrame layer m') := by
  intro s s' a t hc hrun
  obtain ⟨u, hbody, ht⟩ := run_withFrame hrun
  obtain ⟨u', hbody', hu⟩ := h { s with frames := { layer } :: s.frames }
    { s' with frames := { layer } :: s'.frames } a u hc hbody
  exact ⟨_, withFrame_of_run hbody', hu.trans ht.symm⟩

end Achieves

theorem stepClosed_achieves : StepClosed Achieves where
  pure := achieves_pure
  bind := achieves_bind
  failWith problem := achieves_failWith problem _
  markLine := achieves_markLine
  withFrame := achieves_withFrame

/-- **What a call compiles to depends on the counters only**, once layers may be nested deep
enough. -/
theorem achieves_resolveCall {lib : Library} {depth depth' : Nat} (hle : depth ≤ depth')
    (callee : Value) (args : List Node) (output : Value) :
    Achieves (resolveCall lib depth callee args output)
      (resolveCall lib depth' callee args output) := by
  induction depth generalizing depth' callee args output with
  | zero => exact fun s s' a t _ h => absurd h run_throw_ne_ok
  | succ depth ih =>
    obtain ⟨depth', rfl⟩ := Nat.exists_eq_succ_of_ne_zero (Nat.ne_of_gt (Nat.zero_lt_of_lt hle))
    have outcome : ∀ o, Achieves (compileOutcome (resolveCall lib depth) callee o)
        (compileOutcome (resolveCall lib depth') callee o) :=
      stepClosed_achieves.compileOutcome (fun callee args output =>
        ih (Nat.le_of_succ_le_succ hle) callee args output) callee
    intro s s' prog t hc h
    obtain ⟨o, after, hcall, hrest⟩ := resolveCall_eq_ok.1 h
    obtain ⟨t', hrest', ht⟩ := outcome o { s with counters := after } { s' with counters := after }
      prog t rfl hrest
    exact ⟨t', resolveCall_eq_ok.2 ⟨o, after, hc ▸ hcall, hrest'⟩, ht⟩

/-! ### Arguments that are put together again -/

/-- The arguments of a call from outside with the parameter block in front even if it is empty. -/
def blockArguments (inputs : List Value) (params : List (String × Value)) : List Node :=
  .parameters (params.map fun p => .keyword (.str p.1) (.const p.2)) :: inputs.map .symbol

section Arguments

variable {lib : Library} {callee : Value}

/-- Symbols evaluate to their names. -/
theorem run_splitPositional_symbols (index : Nat) (names : List Value) (s : EvalState) :
    (splitPositional lib callee index (names.map .symbol)).run s = (.ok names, s) := by
  induction names generalizing index with
  | nil => rfl
  | cons name names ih =>
    change (do
      let v ← argumentValue lib callee index (.symbol name)
      return v :: (← splitPositional lib callee (index + 1) (names.map .symbol)) :
        Eval (List Value)).run s = _
    rw [argumentValue, pure_bind, run_bind, ih]
    rfl

/-- A constant given by name is taken as it is, unless the name is repeated. -/
theorem run_splitEntries_constant {known : List (String × Value)} {p : String × Value}
    {rest : List Entry} {s : EvalState} :
    (splitEntries lib callee (.keyword (.str p.1) (.const p.2) :: rest)
      (known.map (Prod.map .str id))).run s =
        if p.1 ∈ known.map Prod.fst then
          (.error (Problem.repeatedKeyword (.str p.1)).failure, s)
        else (splitEntries lib callee rest ((known ++ [p]).map (Prod.map .str id))).run s := by
  have hrepeated : ((known.map (Prod.map Value.str id)).any fun k =>
      (Value.str p.1).sameKey k.1) = decide (p.1 ∈ known.map Prod.fst) := by
    rw [Bool.eq_iff_iff, List.any_map, List.any_eq_true, decide_eq_true_iff, List.mem_map]
    simp only [Function.comp_apply, Prod.map_fst, Value.sameKey_str, beq_iff_eq]
    exact exists_congr fun q => and_congr_right' eq_comm
  have hhash : settle (Value.str p.1).checkHashable = pure () := rfl
  rw [splitEntries, hhash, pure_bind, hrepeated]
  by_cases hmem : p.1 ∈ known.map Prod.fst
  · simp only [hmem, decide_true, if_true]
    rfl
  · simp only [hmem, decide_false, if_false]
    rw [List.map_append]
    rfl

/-- Constants given by name are taken as they are if no name is repeated, and refused otherwise. -/
theorem splitEntries_constants_eq_ok {known params : List (String × Value)}
    {keywords : List (Value × Value)} {s t : EvalState} (hknown : (known.map Prod.fst).Nodup) :
    (splitEntries lib callee (params.map fun p => .keyword (.str p.1) (.const p.2))
      (known.map (Prod.map .str id))).run s = (.ok keywords, t) ↔
        ((known ++ params).map Prod.fst).Nodup ∧
          (known ++ params).map (Prod.map .str id) = keywords ∧ s = t := by
  induction params generalizing known with
  | nil =>
    rw [List.map_nil, splitEntries, run_pure_eq_ok, List.append_nil]
    exact ⟨fun h => ⟨hknown, h⟩, And.right⟩
  | cons p params ih =>
    rw [List.map_cons, run_splitEntries_constant]
    by_cases hmem : p.1 ∈ known.map Prod.fst
    · rw [if_pos hmem]
      refine iff_of_false (fun h => by cases h) ?_
      rintro ⟨hnodup, -⟩
      rw [List.map_append] at hnodup
      exact List.disjoint_of_nodup_append hnodup hmem List.mem_cons_self
    · have hgrown : ((known ++ [p]).map Prod.fst).Nodup := by
        rw [List.map_append, List.nodup_append']
        exact ⟨hknown, List.nodup_singleton _, by simpa using hmem⟩
      rw [if_neg hmem, ih hgrown, List.append_assoc, List.singleton_append]

/-- The arguments of a call from outside amount to what they were made of. -/
theorem splitArguments_blockArguments_eq_ok {inputs values : List Value}
    {params : List (String × Value)} {keywords : List (Value × Value)} {s t : EvalState} :
    (splitArguments lib callee (blockArguments inputs params)).run s =
        (.ok (keywords, values), t) ↔
      (params.map Prod.fst).Nodup ∧ params.map (Prod.map .str id) = keywords ∧ inputs = values ∧
        s = t := by
  have hentries (keywords : List (Value × Value)) (t : EvalState) :=
    @splitEntries_constants_eq_ok lib callee [] params keywords s t List.nodup_nil
  rw [blockArguments, splitArguments, run_bind_eq_ok]
  constructor
  · rintro ⟨ks, u, hks, h⟩
    obtain ⟨hnodup, rfl, rfl⟩ := (hentries ks u).1 hks
    rw [run_bind, run_splitPositional_symbols] at h
    obtain ⟨heq, rfl⟩ := run_pure_eq_ok.1 h
    cases heq
    exact ⟨hnodup, rfl, rfl, rfl⟩
  · rintro ⟨hnodup, rfl, rfl, rfl⟩
    refine ⟨_, s, (hentries _ s).2 ⟨hnodup, rfl, rfl⟩, ?_⟩
    rw [run_bind, run_splitPositional_symbols]
    rfl

/-- An empty parameter block makes no difference. -/
theorem expandCall_blockArguments {inputs : List Value} {params : List (String × Value)}
    {output : Value} {c : Counters} :
    expandCall lib callee (blockArguments inputs params) output c =
      expandCall lib callee (callArguments inputs params) output c := by
  cases params with
  | cons p params => rfl
  | nil =>
    have hblock (s : EvalState) :
        (splitArguments lib callee (blockArguments inputs [])).run s = (.ok ([], inputs), s) :=
      splitArguments_blockArguments_eq_ok.2 ⟨List.nodup_nil, rfl, rfl, rfl⟩
    have hplain (s : EvalState) :
        (splitArguments lib callee (callArguments inputs [])).run s = (.ok ([], inputs), s) := by
      have hsplit : splitArguments lib callee (callArguments inputs []) =
          (do return ([], ← splitPositional lib callee 0 (inputs.map .symbol))) := by
        cases inputs <;> rfl
      rw [hsplit, run_bind, run_splitPositional_symbols]
      rfl
    unfold expandCall
    rw [hblock, hplain]
    rfl

end Arguments

/-! ### Reading the wrapper -/

/-- The source of a layer that hands all it is given on to another: the header names inputs
`x₁, …, xₙ` and a collector `o`, and the one statement is `y = g(x₁, …, xₙ, **o)`.  The lines on
which the pieces stand are arbitrary. -/
def forwardingSource (xs : List String) (collector target callee : String)
    (line bodyLine callLine : Nat) (argLine : String → Nat) : FunctionSource where
  formals := xs.map (fun x => ⟨x, .standard, none⟩) ++ [⟨collector, .keywords, none⟩]
  line := line
  body := [.assign bodyLine [.name target] (.call callLine (.name callee)
    (xs.map fun x => .mk (argLine x) (.name x)) [.forward (.name collector)])]

/-- The layer that this source is read as. -/
def Definition.forwarding (layer : String) (xs : List String) (collector target callee : String)
    (line : Nat) (surroundings : Surroundings) (file : SourceFile) : Definition where
  name := layer
  signature := { formals := xs.map fun x => ⟨x, .standard, none⟩, collector := some collector }
  inner := []
  last := { line, target, call := { callee := .fixed callee, keywords := [.forward],
                                    args := xs.map .symbol } }
  surroundings := surroundings
  file := file

section Reading

variable {layer collector target callee : String} {xs : List String}

theorem readSignature_forwarding :
    readSignature layer (xs.map (fun x => ⟨x, .standard, none⟩) ++ [⟨collector, .keywords, none⟩]) =
      .ok { formals := xs.map fun x => ⟨x, .standard, none⟩, collector := some collector } := by
  induction xs with
  | nil => rfl
  | cons x xs ih =>
    simp only [List.map_cons, List.cons_append, readSignature, ih]
    rfl

/-- Formals without defaults that can be given by position are inputs. -/
theorem inputs_forwarding : Signature.inputs
    { formals := xs.map fun x => ⟨x, .standard, none⟩, collector := some collector } = xs := by
  rw [Signature.inputs, List.filter_eq_self.2 (by simp [LayerFormal.isInput]), List.map_map]
  exact List.map_id xs

theorem parameterNames_forwarding : Signature.parameterNames
    { formals := xs.map fun x => ⟨x, .standard, none⟩, collector := some collector } = [] := by
  simp [Signature.parameterNames, Signature.parameters, LayerFormal.isInput]

theorem readArguments_symbols {b : BodyNames} {line : Nat} {argLine : String → Nat}
    (h : xs ⊆ b.symbols) :
    b.readArguments line (xs.map fun x => .mk (argLine x) (.name x)) = .ok (xs.map .symbol) := by
  induction xs with
  | nil => rfl
  | cons x xs ih =>
    obtain ⟨hx, hxs⟩ := List.cons_subset.1 h
    have hterm : b.readTerm (argLine x) (.name x) = .ok (.symbol x) := by
      rw [BodyNames.readTerm, if_pos (List.contains_iff_mem.2 hx)]
      rfl
    change (do
      let term ← b.readTerm (argLine x) (.name x)
      return term :: (← b.readArguments line (xs.map fun x => .mk (argLine x) (.name x))) :
        Except Failure (List Term)) = _
    rw [hterm, ih hxs]
    rfl

/-- **Reading the source** yields that layer, and the target is none of the inputs. -/
theorem eq_forwarding_of_read {line bodyLine callLine : Nat} {argLine : String → Nat}
    {around : Surroundings} {file : SourceFile} {d : Definition}
    (h : Definition.read layer (forwardingSource xs collector target callee line bodyLine callLine
      argLine) around file = .ok d) :
    d = .forwarding layer xs collector target callee bodyLine around file ∧ target ∉ xs := by
  simp only [Definition.read, forwardingSource, bind_eq_ok, readSignature_forwarding] at h
  obtain ⟨⟨⟩, -, signature, hsignature, h⟩ := h
  cases hsignature
  obtain ⟨assignments, statements, last, hassignments, htargets, hread, hlast, rfl⟩ :=
    Definition.readBody_eq_ok h
  cases hassignments
  have htarget : target ∉ xs := by
    have hnew := ((checkTargets_eq_ok htargets).1 _ (List.mem_singleton_self _)).1
    rw [Signature.names, inputs_forwarding] at hnew
    exact fun hmem => hnew (by simp [hmem])
  refine ⟨?_, htarget⟩
  rw [inputs_forwarding, parameterNames_forwarding] at hread
  simp only [BodyNames.readBody, BodyNames.readStatement, bind_eq_ok, pure_eq_ok] at hread
  obtain ⟨statement, ⟨calleeTerm, hcallee, keywords, hkeywords, args, hargs, rfl⟩, _, rfl, rfl⟩ :=
    hread
  rw [readArguments_symbols (List.subset_append_left _ _)] at hargs
  cases hargs
  simp only [BodyNames.readKeywords, if_true, bind_eq_ok, pure_eq_ok] at hkeywords
  obtain ⟨_, rfl, rfl⟩ := hkeywords
  -- A callee that is an input or the target would have been refused.
  simp only [BodyNames.readCallee, List.contains_nil, Bool.false_eq_true, if_false] at hcallee
  split at hcallee
  · exact absurd hcallee throw_ne_ok
  · cases hcallee
    cases hlast
    rfl

end Reading

/-! ### What the wrapper does -/

section Wrapper

variable {layer collector target callee : String} {xs : List String} {line : Nat}
  {around : Surroundings} {file : SourceFile}

/-- There are no literals that could be made objects. -/
theorem labelled_forwarding (n : Nat) :
    (Definition.forwarding layer xs collector target callee line around file).labelled n =
      (.forwarding layer xs collector target callee line around file, n) := by
  have hterms : Definition.labelTerms n (xs.map .symbol) = (xs.map .symbol, n) := by
    induction xs with
    | nil => rfl
    | cons x xs ih => simp only [List.map_cons, Definition.labelTerms, Definition.labelTerm, ih]
  simp only [Definition.labelled, Definition.forwarding, Definition.labelStatements,
    Definition.labelStatement, Definition.labelKeywords, hterms]

/-- Symbols are filled in by what they stand for. -/
theorem fillTerms_symbols {globals : ScopeId} {a : Actuals} {values : List Value}
    (h : List.Forall₂ (fun x v => a.get x = .ok v) xs values) :
    Definition.fillTerms globals a (xs.map .symbol) = .ok (values.map .symbol) := by
  induction h with
  | nil => rfl
  | cons hv _ ih =>
    simp only [List.map_cons, Definition.fillTerms, Definition.fillTerm, hv, ih]
    rfl

/-- The wrapper binds its inputs by position and collects every keyword. -/
theorem bindCall_forwarding (hxs : xs.Nodup) {inputs : List String}
    (hlength : inputs.length = xs.length) {output : String} {params : List (String × Value)}
    (hfree : ∀ p ∈ params, p.1 ∉ xs) :
    (Definition.forwarding layer xs collector target callee line around file).bindCall
        (inputs.map .str) (.str output) params =
      .ok (⟨xs.zip (inputs.map .str), params⟩, output) := by
  have hvalues : (inputs.map Value.str).length = xs.length := by rw [List.length_map, hlength]
  have hbound : Signature.bind ⟨xs.map fun x => ⟨x, .standard, none⟩, some collector⟩
      (inputs.map .str) params = .ok ⟨xs.zip (inputs.map .str), params⟩ :=
    Signature.bind_of_inputs hvalues hfree
  have hinputs : Definition.checkInputs layer ⟨xs.zip (inputs.map .str), params⟩ xs = .ok () := by
    refine Definition.checkInputs_of_texts fun x hx => ?_
    obtain ⟨v, hv, hlookup⟩ := exists_of_forall₂ (lookup_zip hxs hvalues []) hx
    obtain ⟨s, -, rfl⟩ := List.mem_map.1 hv
    exact ⟨.str s, s, by simpa [Binding.get?] using hlookup, rfl⟩
  simp only [Definition.bindCall, Definition.forwarding, hbound, inputs_forwarding, bind_eq_ok]
  exact ⟨_, rfl, (), hinputs, output, rfl, rfl⟩

/-- **The wrapper puts its arguments together again.** Its block is the one call that it stands for,
and nothing is minted. -/
theorem generate_forwarding (hxs : xs.Nodup) (htarget : target ∉ xs) {inputs : List String}
    (hlength : inputs.length = xs.length) {output : String} {params : List (String × Value)}
    (hfree : ∀ p ∈ params, p.1 ∉ xs) (closure : List (String × Value)) (n : Int) :
    (Definition.forwarding layer xs collector target callee line around file).generate closure
        (inputs.map .str) (.str output) params n =
      (.ok (.block [.line line file, .assign (.symbol (.str output))
        (.call (.str callee) (blockArguments (inputs.map .str) params))]), n) := by
  set d := Definition.forwarding layer xs collector target callee line around file
  set b : Binding := ⟨xs.zip (inputs.map .str), params⟩
  -- The names of the body are the output and the inputs, and no input has the name of the output.
  have hnames : List.Forall₂ (fun x v => (d.actuals b closure output n).get x = .ok v)
      (target :: xs) (.str output :: inputs.map .str) := by
    refine (lookup_zip (List.nodup_cons.2 ⟨htarget, hxs⟩) (by simp [hlength])
      (d.collectorEntry b)).imp fun x v hlookup => ?_
    have hactuals : (d.actuals b closure output n).values =
        (target :: xs).zip (.str output :: inputs.map .str) ++ d.collectorEntry b := rfl
    rw [Actuals.get, hactuals, hlookup]
    rfl
  obtain ⟨houtput, hinputs⟩ := List.forall₂_cons.1 hnames
  have hbody : Definition.fillBody file around.globals (d.actuals b closure output n)
      [⟨line, target, ⟨.fixed callee, [.forward], xs.map .symbol⟩⟩] =
        .ok [.line line file, .assign (.symbol (.str output))
          (.call (.str callee) (blockArguments (inputs.map .str) params))] := by
    simp only [Definition.fillBody, Definition.fillCall, Definition.fillCallee,
      Definition.fillKeywords, houtput, fillTerms_symbols hinputs]
    rw [blockArguments, ← List.append_nil (params.map _)]
    rfl
  rw [Definition.generate, bindCall_forwarding hxs hlength hfree]
  refine Prod.ext ?_ (Int.add_zero n)
  exact bind_eq_ok.2 ⟨_, hbody, rfl⟩

end Wrapper

/-! ### Calls through the wrapper -/

/-- Keywords whose names are texts are read back. -/
theorem keywordTexts_map_str (params : List (String × Value)) :
    keywordTexts (params.map (Prod.map .str id)) = .ok params := by
  induction params with
  | nil => rfl
  | cons p params ih =>
    simp only [List.map_cons, Prod.map_apply', keywordTexts, Value.bare_str, ih]
    rfl

section Calls

variable {lib : Library}

/-- A call from outside amounts to something only if no keyword is repeated. -/
theorem nodup_of_expandCall {callee : Value} {inputs : List Value} {params : List (String × Value)}
    {output : Value} {c after : Counters} {o : Outcome}
    (h : expandCall lib callee (callArguments inputs params) output c = (.ok o, after)) :
    (params.map Prod.fst).Nodup := by
  rw [← expandCall_blockArguments, expandCall] at h
  rcases hsplit : (splitArguments lib callee (blockArguments inputs params)).run
      (argumentState (blockArguments inputs params) c) with ⟨_ | ⟨keywords, values⟩, s⟩
  · rw [hsplit] at h
    cases h
  · exact (splitArguments_blockArguments_eq_ok.1 hsplit).1

/-- **A call of a layer from outside amounts to the block that the layer generates.** -/
theorem expandCall_layer {w : String} {g : Generator} {d : Definition}
    {params : List (String × Value)} (hget : lib.registry.get? w = some g)
    (hg : g.body = .composite d) (hnodup : (params.map Prod.fst).Nodup) (inputs : List Value)
    (output : Value) (c : Counters) :
    expandCall lib (.str w) (callArguments inputs params) output c =
      (((d.generate (lib.scopes.closure d.surroundings) inputs output params c.current).1.map
          Outcome.block).mapError (blameCallee (.str w)),
        c.setCurrent
          (d.generate (lib.scopes.closure d.surroundings) inputs output params c.current).2) := by
  have hsplit (s : EvalState) :
      (splitArguments lib (.str w) (blockArguments inputs params)).run s =
        (.ok (params.map (Prod.map .str id), inputs), s) :=
    splitArguments_blockArguments_eq_ok.2 ⟨hnodup, rfl, rfl, rfl⟩
  rw [← expandCall_blockArguments, expandCall]
  simp only [hsplit, Counters.after_argumentState, Registry.lookup_str, hget, Generator.invoke, hg,
    keywordTexts_map_str]

theorem expandCall_layer_eq_ok {w : String} {g : Generator} {d : Definition}
    {params : List (String × Value)} (hget : lib.registry.get? w = some g)
    (hg : g.body = .composite d) (hnodup : (params.map Prod.fst).Nodup) {inputs : List Value}
    {output : Value} {c after : Counters} {o : Outcome} :
    expandCall lib (.str w) (callArguments inputs params) output c = (.ok o, after) ↔
      ∃ block n, d.generate (lib.scopes.closure d.surroundings) inputs output params c.current =
        (.ok block, n) ∧ o = .block block ∧ after = c.setCurrent n := by
  rw [expandCall_layer hget hg hnodup]
  rcases d.generate (lib.scopes.closure d.surroundings) inputs output params c.current with
    ⟨e | block, n⟩
  · constructor
    · intro h
      cases h
    · rintro ⟨block, n, h, -⟩
      cases h
  · constructor
    · intro h
      cases h
      exact ⟨block, n, rfl, rfl, rfl⟩
    · rintro ⟨_, _, h, rfl, rfl⟩
      cases h
      rfl

theorem resolveCall_blockArguments {depth : Nat} {callee : Value} {inputs : List Value}
    {params : List (String × Value)} {output : Value} :
    resolveCall lib depth callee (blockArguments inputs params) output =
      resolveCall lib depth callee (callArguments inputs params) output := by
  cases depth with
  | zero => rfl
  | succ depth => simp only [resolveCall, expandCall_blockArguments]

/-- A block of one statement is that statement, on its line. -/
theorem compileNode_single_eq_ok {resolve : Resolver} {line : Int} {file : SourceFile}
    {output callee : Value} {args : List Node} {s t : Compiler} {prog : Program} :
    (compileNode resolve
        (.block [.line line file, .assign (.symbol output) (.call callee args)])).run s =
          (.ok prog, t) ↔
      ∃ s', (markLine line).run s = (.ok (), s') ∧
        (resolve callee args output).run s' = (.ok prog, t) := by
  change (do
    let first ← compileNode resolve (.line line file)
    return first ++ (← compileNodes resolve [.assign (.symbol output) (.call callee args)]) :
      Compile Program).run s = _ ↔ _
  have hassign : compileNodes resolve [.assign (.symbol output) (.call callee args)] = (do
      let first ← resolve callee args output
      return first ++ (← (pure [] : Compile Program))) := rfl
  simp only [compileNode_line, hassign, run_bind_eq_ok, run_pure_eq_ok]
  constructor
  · rintro ⟨_, _, ⟨⟨⟩, s', hmark, rfl, rfl⟩, _, _,
      ⟨first, _, hcall, _, _, ⟨rfl, rfl⟩, rfl, rfl⟩, rfl, rfl⟩
    exact ⟨s', hmark, by rwa [List.nil_append, List.append_nil]⟩
  · rintro ⟨s', hmark, hcall⟩
    exact ⟨[], s', ⟨(), s', hmark, rfl, rfl⟩, prog, t,
      ⟨prog, t, hcall, [], t, ⟨rfl, rfl⟩, List.append_nil prog, rfl⟩, rfl, rfl⟩

variable {w layer collector target callee : String} {xs : List String} {line : Nat}
  {around : Surroundings} {file : SourceFile} {g : Generator} {inputs : List String}
  {output : String} {params : List (String × Value)}

/-- **A call of the wrapper amounts to the call it stands for**, and changes no counter. -/
theorem expandCall_forwarding (hget : lib.registry.get? w = some g)
    (hg : g.body =
      .composite (.forwarding layer xs collector target callee line around file))
    (hxs : xs.Nodup) (htarget : target ∉ xs) (hlength : inputs.length = xs.length)
    (hfree : ∀ p ∈ params, p.1 ∉ xs) (hnodup : (params.map Prod.fst).Nodup) (c : Counters) :
    expandCall lib (.str w) (callArguments (inputs.map .str) params) (.str output) c =
      (.ok (.block (.block [.line line file, .assign (.symbol (.str output))
        (.call (.str callee) (blockArguments (inputs.map .str) params))])), c) := by
  rw [expandCall_layer hget hg hnodup, generate_forwarding hxs htarget hlength hfree,
    setCurrent_current]
  rfl

/-- **A call through the wrapper compiles to what the call it stands for compiles to**, one level
less deep. -/
theorem resolveCall_forwarding_iff (hget : lib.registry.get? w = some g)
    (hg : g.body =
      .composite (.forwarding layer xs collector target callee line around file))
    (hxs : xs.Nodup) (htarget : target ∉ xs) (hlength : inputs.length = xs.length)
    (hfree : ∀ p ∈ params, p.1 ∉ xs) {depth : Nat} {s : Compiler} {prog : Program}
    {after : Counters} :
    (∃ t, (resolveCall lib (depth + 1) (.str w) (callArguments (inputs.map .str) params)
        (.str output)).run s = (.ok prog, t) ∧ t.counters = after) ↔
      ∃ t, (resolveCall lib depth (.str callee) (callArguments (inputs.map .str) params)
        (.str output)).run s = (.ok prog, t) ∧ t.counters = after := by
  set args := callArguments (inputs.map .str) params
  have achieves : Achieves (resolveCall lib depth (.str callee) args (.str output))
      (resolveCall lib depth (.str callee) args (.str output)) := achieves_resolveCall le_rfl _ _ _
  constructor
  · rintro ⟨t, h, rfl⟩
    obtain ⟨o, c, hcall, hrest⟩ := resolveCall_eq_ok.1 h
    have hnodup := nodup_of_expandCall hcall
    rw [expandCall_forwarding hget hg hxs htarget hlength hfree hnodup] at hcall
    cases hcall
    rw [compileOutcome] at hrest
    obtain ⟨u, hblock, ht⟩ := run_withFrame hrest
    obtain ⟨s', hmark, hresolve⟩ := compileNode_single_eq_ok.1 hblock
    rw [resolveCall_blockArguments] at hresolve
    obtain ⟨t', hresolve', ht'⟩ :=
      achieves s' s prog u (counters_of_markLine hmark).symm hresolve
    exact ⟨t', hresolve', ht'.trans ht.symm⟩
  · rintro ⟨t, h, rfl⟩
    have hnodup : (params.map Prod.fst).Nodup := by
      cases depth with
      | zero => exact absurd h run_throw_ne_ok
      | succ depth =>
        obtain ⟨o, c, hcall, -⟩ := resolveCall_eq_ok.1 h
        exact nodup_of_expandCall hcall
    -- The same call, in the frame of the wrapper and after its line is marked.
    obtain ⟨s', hmark⟩ : ∃ s', (markLine line).run
        { s with frames := { layer := Value.display (.str w) } :: s.frames } = (.ok (), s') :=
      ⟨_, run_modify _ _⟩
    obtain ⟨t', hresolve, ht⟩ := achieves s s' prog t (counters_of_markLine hmark :) h
    rw [← resolveCall_blockArguments] at hresolve
    refine ⟨{ t' with frames := t'.frames.tail }, resolveCall_eq_ok.2 ⟨_, _,
      expandCall_forwarding hget hg hxs htarget hlength hfree hnodup s.counters, ?_⟩, ht⟩
    rw [compileOutcome]
    exact withFrame_of_run (compileNode_single_eq_ok.2 ⟨s', hmark, hresolve⟩)

/-- Two compilations of one call agree, however deep they could have gone. -/
theorem resolveCall_unique {callee : Value} {args : List Node} {output : Value} {depth depth' : Nat}
    {s t t' : Compiler} {prog prog' : Program}
    (h : (resolveCall lib depth callee args output).run s = (.ok prog, t))
    (h' : (resolveCall lib depth' callee args output).run s = (.ok prog', t')) :
    prog = prog' ∧ t.counters = t'.counters := by
  obtain ⟨u, hu, ht⟩ := achieves_resolveCall (Nat.le_max_left depth depth') callee args output
    s s prog t rfl h
  obtain ⟨u', hu', ht'⟩ := achieves_resolveCall (Nat.le_max_right depth depth') callee args output
    s s prog' t' rfl h'
  obtain ⟨hprog, rfl⟩ := Prod.mk.inj (hu.symm.trans hu')
  exact ⟨Except.ok.inj hprog, ht.symm.trans ht'⟩

end Calls

/-- **A forwarding wrapper is transparent.** Let `w` be registered with a layer read from the source
`y = g(x₁, …, xₙ, **o)`.  For `n` inputs and keywords that are not named like an input, a call of
`w` compiles if and only if the call of `g` does, just one level deeper, and then to the same
program and with the same counters after it.  Whatever the sources of samples yield, both calls
begin with the same source, and they use the same ones on the way. -/
theorem compileCall_forwarding {lib : Library} {layer w g collector target : String}
    {xs : List String} {line bodyLine callLine : Nat} {argLine : String → Nat}
    {around : Surroundings} {file : SourceFile} {d : Definition} {wrapper : Generator}
    (hxs : xs.Nodup)
    (hread : Definition.read layer (forwardingSource xs collector target g line bodyLine callLine
      argLine) around file = .ok d)
    (hget : lib.registry.get? w = some wrapper)
    (hbody : wrapper.body = .composite d ∨ ∃ n, wrapper.body = .composite (d.labelled n).1)
    {inputs : List String} (hlength : inputs.length = xs.length)
    {params : List (String × Value)} (hfree : ∀ p ∈ params, p.1 ∉ xs) (output : String)
    (c : Compiler) :
    (∀ depth,
      (∃ prog c', (compileCall lib (depth + 1) (.str w) (inputs.map .str) (.str output) params).run
        c = (.ok prog, c')) ↔
      ∃ prog c', (compileCall lib depth (.str g) (inputs.map .str) (.str output) params).run
        c = (.ok prog, c')) ∧
    ((∃ depth prog c', (compileCall lib depth (.str w) (inputs.map .str) (.str output) params).run
        c = (.ok prog, c')) ↔
      ∃ depth prog c', (compileCall lib depth (.str g) (inputs.map .str) (.str output) params).run
        c = (.ok prog, c')) ∧
    ∀ depth depth' prog prog' c₁ c₂,
      (compileCall lib depth (.str w) (inputs.map .str) (.str output) params).run c =
        (.ok prog, c₁) →
      (compileCall lib depth' (.str g) (inputs.map .str) (.str output) params).run c =
        (.ok prog', c₂) →
      prog = prog' ∧ c₁.counters = c₂.counters := by
  obtain ⟨rfl, htarget⟩ := eq_forwarding_of_read hread
  have hwrapper : wrapper.body =
      .composite (.forwarding layer xs collector target g bodyLine around file) := by
    rcases hbody with hbody | ⟨n, hbody⟩
    · exact hbody
    · rw [hbody, labelled_forwarding]
  simp only [run_compileCall]
  have step (depth : Nat) (prog : Program) (after : Counters) :
      (∃ t, (resolveCall lib (depth + 1) (.str w) (callArguments (inputs.map .str) params)
          (.str output)).run { c with frames := [] } = (.ok prog, t) ∧ t.counters = after) ↔
        ∃ t, (resolveCall lib depth (.str g) (callArguments (inputs.map .str) params)
          (.str output)).run { c with frames := [] } = (.ok prog, t) ∧ t.counters = after :=
    resolveCall_forwarding_iff hget hwrapper hxs htarget hlength hfree
  refine ⟨fun depth => ⟨?_, ?_⟩, ⟨?_, ?_⟩, ?_⟩
  · rintro ⟨prog, c', h⟩
    obtain ⟨t, ht, -⟩ := (step depth prog _).1 ⟨c', h, rfl⟩
    exact ⟨prog, t, ht⟩
  · rintro ⟨prog, c', h⟩
    obtain ⟨t, ht, -⟩ := (step depth prog _).2 ⟨c', h, rfl⟩
    exact ⟨prog, t, ht⟩
  · rintro ⟨_ | depth, prog, c', h⟩
    · exact absurd h run_throw_ne_ok
    · obtain ⟨t, ht, -⟩ := (step depth prog _).1 ⟨c', h, rfl⟩
      exact ⟨depth, prog, t, ht⟩
  · rintro ⟨depth, prog, c', h⟩
    obtain ⟨t, ht, -⟩ := (step depth prog _).2 ⟨c', h, rfl⟩
    exact ⟨depth + 1, prog, t, ht⟩
  · intro depth depth' prog prog' c₁ c₂ h h'
    obtain _ | depth := depth
    · exact absurd h run_throw_ne_ok
    · obtain ⟨t, ht, hcounters⟩ := (step depth prog _).1 ⟨c₁, h, rfl⟩
      rw [← hcounters]
      exact resolveCall_unique ht h'

/-! ### A wrapper of a standard layer -/

namespace Wrapping

/-- A layer that hands all it is given on to the affine layer. -/
def wrapper : Definition := .forwarding "w" ["x"] "o" "y" "wb" 2 { globals := 0 } (.layers 0)

/-- The standard layers and the wrapper. -/
def library : Library :=
  { registry := Registry.default.registerLayer wrapper, scopes := [], samples := .zeros }

/-- The affine layer compiles through its wrapper as it does on its own. -/
theorem affine_through_wrapper : ∃ prog c₁ c₂,
    (compileCall library 5 (.str "w") [.str "a"] (.str "b") [("out", .int 3)]).run {} =
        (.ok prog, c₁) ∧
      (compileCall library 4 (.str "wb") [.str "a"] (.str "b") [("out", .int 3)]).run {} =
        (.ok prog, c₂) ∧ c₁.counters = c₂.counters := by
  have hread : Definition.read "w" (forwardingSource ["x"] "o" "y" "wb" 1 2 2 fun _ => 2)
      { globals := 0 } (.layers 0) = .ok wrapper := rfl
  have hget : library.registry.get? "w" = some ⟨"w", .composite wrapper⟩ := by
    rw [library, Registry.registerLayer, Registry.get?_register]
    rfl
  have hok : ((compileCall library 4 (.str "wb") [.str "a"] (.str "b")
      [("out", .int 3)]).run {}).1.isOk = true := by decide +kernel
  obtain ⟨prog, c₂, hrun⟩ := exists_of_isOk hok
  have hfree : ∀ p ∈ [("out", Value.int 3)], p.1 ∉ ["x"] := by decide
  obtain ⟨hdepth, -, hsame⟩ := compileCall_forwarding (List.nodup_singleton "x") hread hget
    (.inl rfl) (rfl : ["a"].length = 1) hfree "b" {}
  obtain ⟨prog', c₁, hrun'⟩ := (hdepth 4).2 ⟨prog, c₂, hrun⟩
  obtain ⟨rfl, hcounters⟩ := hsame 5 4 prog' prog c₁ c₂ hrun' hrun
  exact ⟨prog', c₁, c₂, hrun', hrun, hcounters⟩

end Wrapping

end Laminar
