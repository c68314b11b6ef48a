import Mathlib
import Laminar.Proofs.Expansion
import Laminar.Proofs.Instance
import Laminar.Proofs.RenamedEmission

/-!
# Layers and renamed values

Between a call of a layer and the calls of its body, values are only passed on: arguments are
evaluated, bound to formals, and filled in for the names of the body.  If the values are renamed
before, they come out renamed, and what was sealed stays sealed.

Minted names enter here as well, as the registers of the locals.  That is where the renaming and the
counter have to agree: the registers that are minted from a counter which is ahead by `δ` are the
renamed ones.

* `Evaluated.rename`: renamed arguments amount to renamed values.
* `bindCall_rename` and `follows_actuals`: what a layer binds, and what its names stand for.
* `Filled.rename`: a statement that is filled in.
* `Definition.Unmarked` is the condition on a layer: a literal, a default or a keyword that looked
  like a minted name would be renamed in one place and not in another.

**Design.** The callee of a call is not renamed but kept track of: a callee that is written in a body
stays, one that is given by a parameter is renamed, and either way it names the same generator,
because nothing that is registered carries the mark.
-/

namespace Laminar

/-! ### Arguments -/

/-- An argument that stands for a sealed value. -/
def Node.Sealed (f : String → String) (n : Node) : Prop :=
  ∃ v, v.unlabelled.Sealed f ∧ (n = .symbol v ∨ n = .const v)

/-- The arguments of a call stand for sealed values, and renaming leaves its keywords alone. -/
structure SealedArguments (f : String → String) (args : List Node) : Prop where
  entries : ∀ e ∈ blockEntries args, ∃ name n, e = .keyword (.str name) n ∧ f name = name ∧
    n.Sealed f
  positional : ∀ n ∈ positionalNodes args, n.Sealed f

section Arguments

variable {lib : Library} {f : String → String}

theorem Node.Sealed.of_gives {n : Node} {v : Value} (h : n.Sealed f) (hgives : n.Gives v) :
    v.unlabelled.Sealed f := by
  obtain ⟨w, hw, rfl | rfl⟩ := h
  · cases hgives
    exact hw
  · cases hgives
    exact hw

/-- Sealed arguments are evaluated without a failure, and renamed ones to renamed values. -/
theorem splitPositional_rename (lib : Library) {nodes : List Node} (h : ∀ n ∈ nodes, n.Sealed f) :
    ∃ values, ∀ callee index, splitPositional lib callee index nodes = pure values ∧
      splitPositional lib callee index (renameNodes f nodes) = pure (values.map (·.rename f)) := by
  induction nodes with
  | nil => exact ⟨[], fun _ _ => ⟨rfl, rfl⟩⟩
  | cons n rest ih =>
    obtain ⟨hn, hrest⟩ := List.forall_mem_cons.1 h
    obtain ⟨values, hvalues⟩ := ih hrest
    obtain ⟨v, -, hn⟩ := hn
    refine ⟨v :: values, fun callee index => ?_⟩
    obtain ⟨hplain, hrenamed⟩ := hvalues callee (index + 1)
    rcases hn with rfl | rfl
    all_goals
      simp only [renameNodes, Node.rename, splitPositional, argumentValue, pure_bind, hplain,
        hrenamed, List.map_cons, and_self]

theorem splitEntries_rename {callee : Value} {entries : List Entry}
    {known keywords : List (Value × Value)} {s t : EvalState}
    (h : ∀ e ∈ entries, ∃ name n, e = .keyword (.str name) n ∧ f name = name ∧ n.Sealed f)
    (hrun : (splitEntries lib callee entries known).run s = (.ok keywords, t)) :
    t = s ∧ ∀ callee' s', (splitEntries lib callee' (renameParameters f entries)
      (known.map (Prod.map id (·.rename f)))).run s' =
        (.ok (keywords.map (Prod.map id (·.rename f))), s') := by
  induction entries generalizing known with
  | nil =>
    obtain ⟨rfl, rfl⟩ := run_pure_eq_ok.1 hrun
    exact ⟨rfl, fun _ _ => rfl⟩
  | cons e rest ih =>
    obtain ⟨⟨name, n, rfl, hname, v, -, hn⟩, hrest⟩ := List.forall_mem_cons.1 h
    have hhash : settle (Value.str name).checkHashable = pure () := rfl
    have hvalue : ∀ callee, keywordValue lib callee n = pure v ∧
        keywordValue lib callee (n.rename f) = pure (v.rename f) := by
      intro callee
      rcases hn with rfl | rfl <;> exact ⟨rfl, rfl⟩
    have hkeyword : (Value.str name).rename f = .str name := congrArg Value.str hname
    have hknown : ((known.map (Prod.map id (·.rename f))).any fun k => (Value.str name).sameKey k.1) =
        known.any fun k => (Value.str name).sameKey k.1 := by
      rw [List.any_map]
      rfl
    rw [splitEntries, hhash, pure_bind] at hrun
    split at hrun
    · obtain ⟨_, _, refused, -⟩ := run_bind_eq_ok.1 hrun
      exact absurd refused run_throw_ne_ok
    · rename_i hnew
      rw [(hvalue callee).1, pure_bind] at hrun
      obtain ⟨rfl, hothers⟩ := ih hrest hrun
      refine ⟨rfl, fun callee' s' => ?_⟩
      rw [renameParameters, Entry.rename, hkeyword, splitEntries, hhash, pure_bind, hknown,
        if_neg hnew, (hvalue callee').2, pure_bind, ← hothers callee' s', List.map_append]
      rfl

theorem keywordTexts_rename {keywords : List (Value × Value)} {named : List (String × Value)}
    (h : keywordTexts keywords = .ok named) :
    keywordTexts (keywords.map (Prod.map id (·.rename f))) = .ok (mapValues (·.rename f) named) := by
  induction keywords generalizing named with
  | nil =>
    obtain rfl := pure_eq_ok.1 h
    rfl
  | cons k rest ih =>
    obtain ⟨key, v⟩ := k
    simp only [List.map_cons, Prod.map_apply, id_eq, keywordTexts] at h ⊢
    split at h
    · simp only [bind_eq_ok, pure_eq_ok] at h
      obtain ⟨others, hothers, rfl⟩ := h
      rw [ih hothers]
      rfl
    · exact absurd h throw_ne_ok

theorem splitArguments_of_not_block (callee : Value) {args : List Node}
    (h : ∀ entries rest, args ≠ .parameters entries :: rest) :
    splitArguments lib callee args =
      (do return ([], ← splitPositional lib callee 0 args)) := by
  unfold splitArguments
  split
  · exact (h _ _ rfl).elim
  · rfl

theorem splitArguments_rename {callee : Value} {args : List Node} {values : List Value}
    {keywords : List (Value × Value)} {s t : EvalState} (hargs : SealedArguments f args)
    (h : (splitArguments lib callee args).run s = (.ok (keywords, values), t)) :
    t = s ∧ ∀ callee' s', (splitArguments lib callee' (renameNodes f args)).run s' =
      (.ok (keywords.map (Prod.map id (·.rename f)), values.map (·.rename f)), s') := by
  obtain ⟨positional, hpositional⟩ := splitPositional_rename lib hargs.positional
  by_cases hblock : ∃ entries rest, args = .parameters entries :: rest
  · obtain ⟨entries, rest, rfl⟩ := hblock
    rw [positionalNodes] at hpositional
    obtain ⟨found, u, hentries, hrest⟩ := run_bind_eq_ok.1 h
    obtain ⟨rfl, hrenamed⟩ := splitEntries_rename hargs.entries hentries
    rw [(hpositional callee 1).1, pure_bind] at hrest
    obtain ⟨heq, rfl⟩ := run_pure_eq_ok.1 hrest
    cases heq
    refine ⟨rfl, fun callee' s' => run_bind_eq_ok.2 ⟨_, s', hrenamed callee' s', ?_⟩⟩
    rw [(hpositional callee' 1).2]
    rfl
  · simp only [not_exists] at hblock
    have hall : positionalNodes args = args := by
      unfold positionalNodes
      split
      · exact (hblock _ _ rfl).elim
      · rfl
    have hrenamed : ∀ entries rest, renameNodes f args ≠ .parameters entries :: rest := by
      intro entries rest heq
      rcases args with _ | ⟨n, ns⟩
      · cases heq
      · cases n
        case parameters es => exact hblock es ns rfl
        all_goals cases heq
    rw [hall] at hpositional
    rw [splitArguments_of_not_block callee hblock, (hpositional callee 0).1, pure_bind] at h
    obtain ⟨heq, rfl⟩ := run_pure_eq_ok.1 h
    cases heq
    refine ⟨rfl, fun callee' s' => ?_⟩
    rw [splitArguments_of_not_block callee' hrenamed, (hpositional callee' 0).2, pure_bind]
    rfl

/-- **Renamed arguments amount to renamed values**, and evaluating them mints nothing. -/
theorem Evaluated.rename {callee : Value} {args : List Node} {output : Value} {c after : Counters}
    {values : List Value} {named : List (String × Value)} (hargs : SealedArguments f args)
    (h : Evaluated lib ⟨callee, args, output⟩ c values named after) :
    after = c ∧ ∀ callee' output' c', Evaluated lib ⟨callee', renameNodes f args, output'⟩ c'
      (values.map (·.rename f)) (mapValues (·.rename f) named) c' := by
  obtain ⟨keywords, s, hsplit, hnamed, rfl⟩ := h
  obtain ⟨rfl, hrenamed⟩ := splitArguments_rename hargs hsplit
  exact ⟨rfl, fun callee' output' c' =>
    ⟨_, _, hrenamed callee' _, keywordTexts_rename hnamed, rfl⟩⟩

end Arguments

/-! ### Layers -/

/-- No text in a value carries the mark of minted names. -/
def Value.Unmarked (v : Value) : Prop := ∀ s ∈ v.strings, isMinted s = false

theorem Value.Unmarked.rename {f : String → String} {δ : Int} {v : Value} (hf : Moving f δ)
    (h : v.Unmarked) : v.rename f = v :=
  v.rename_eq_self fun s hs => hf.other s (h s hs)

theorem Value.Unmarked.sealed {f : String → String} {δ : Int} {v : Value} (hf : Moving f δ)
    (h : v.Unmarked) : v.unlabelled.Sealed f :=
  .inl (by rw [← Value.unlabelled_rename, h.rename hf])

/-- A layer that defers nothing, and in which no text is written that carries the mark. -/
structure Definition.Unmarked (d : Definition) : Prop where
  immediate : ∀ text e, .deferred text e ∉ d.terms
  keywords : ∀ name ∈ d.keywordNames, isMinted name = false
  literals : ∀ v, .literal v ∈ d.terms → v.Unmarked
  defaults : ∀ formal ∈ d.signature.formals, ∀ v, formal.default = some v → v.Unmarked

/-- The names of a body stand for sealed values on one side, and for what these are renamed to on
the other. -/
structure Actuals.Follows (f : String → String) (a a' : Actuals) : Prop where
  values : a'.values = mapValues (·.rename f) a.values
  collected : a'.collected = mapValues (·.rename f) a.collected
  sealed : ∀ p ∈ a.values, p.2.unlabelled.Sealed f
  options : ∀ k ∈ a.collected, f k.1 = k.1 ∧ k.2.unlabelled.Sealed f

section Filling

variable {f : String → String} {δ : Int} {a a' : Actuals} {d : Definition} {globals : ScopeId}

theorem Actuals.Follows.get (hfollows : a.Follows f a') {name : String} {v : Value}
    (h : a.get name = .ok v) : v.unlabelled.Sealed f ∧ a'.get name = .ok (v.rename f) := by
  unfold Actuals.get at h ⊢
  rw [hfollows.values, lookup_mapValues]
  split at h
  · rename_i w hlookup
    obtain rfl := pure_eq_ok.1 h
    rw [hlookup]
    exact ⟨hfollows.sealed _ (mem_of_lookup hlookup), rfl⟩
  · exact absurd h throw_ne_ok

theorem Actuals.Follows.fillTerm (hf : Moving f δ) (hd : d.Unmarked) (hfollows : a.Follows f a')
    {t : Term} {n : Node} (ht : t ∈ d.terms) (h : Definition.fillTerm globals a t = .ok n) :
    n.Sealed f ∧ Definition.fillTerm globals a' t = .ok (n.rename f) := by
  cases t with
  | symbol name =>
    obtain ⟨v, hv, hn⟩ := bind_eq_ok.1 h
    obtain rfl := pure_eq_ok.1 hn
    obtain ⟨hsealed, hv'⟩ := hfollows.get hv
    exact ⟨⟨v, hsealed, .inl rfl⟩, bind_eq_ok.2 ⟨_, hv', rfl⟩⟩
  | parameter name =>
    obtain ⟨v, hv, hn⟩ := bind_eq_ok.1 h
    obtain rfl := pure_eq_ok.1 hn
    obtain ⟨hsealed, hv'⟩ := hfollows.get hv
    exact ⟨⟨v, hsealed, .inr rfl⟩, bind_eq_ok.2 ⟨_, hv', rfl⟩⟩
  | literal value =>
    obtain rfl := pure_eq_ok.1 h
    have hvalue := hd.literals value ht
    exact ⟨⟨value, hvalue.sealed hf, .inr rfl⟩,
      pure_eq_ok.2 (congrArg Node.const (hvalue.rename hf).symm)⟩
  | deferred text e => exact absurd ht (hd.immediate text e)

theorem Actuals.Follows.fillTerms (hf : Moving f δ) (hd : d.Unmarked) (hfollows : a.Follows f a')
    {terms : List Term} {nodes : List Node} (hterms : terms ⊆ d.terms)
    (h : Definition.fillTerms globals a terms = .ok nodes) :
    Definition.fillTerms globals a' terms = .ok (renameNodes f nodes) := by
  induction terms generalizing nodes with
  | nil =>
    obtain rfl := pure_eq_ok.1 h
    rfl
  | cons t rest ih =>
    obtain ⟨ht, hrest⟩ := List.cons_subset.1 hterms
    simp only [Definition.fillTerms, bind_eq_ok, pure_eq_ok] at h ⊢
    obtain ⟨node, hnode, others, hothers, rfl⟩ := h
    exact ⟨_, (hfollows.fillTerm hf hd ht hnode).2, _, ih hrest hothers, rfl⟩

theorem Actuals.Follows.fillKeywords (hf : Moving f δ) (hd : d.Unmarked) (hfollows : a.Follows f a')
    {keywords : List KeywordTerm} {entries : List Entry}
    (hterms : keywords.filterMap KeywordTerm.term? ⊆ d.terms)
    (hnames : keywords.filterMap KeywordTerm.name? ⊆ d.keywordNames)
    (h : Definition.fillKeywords globals a keywords = .ok entries) :
    Definition.fillKeywords globals a' keywords = .ok (renameParameters f entries) := by
  induction keywords generalizing entries with
  | nil =>
    obtain rfl := pure_eq_ok.1 h
    rfl
  | cons k rest ih =>
    cases k with
    | named name value =>
      obtain ⟨hvalue, hrest⟩ := List.cons_subset.1 hterms
      obtain ⟨hname, hothernames⟩ := List.cons_subset.1 hnames
      simp only [Definition.fillKeywords, bind_eq_ok, pure_eq_ok] at h ⊢
      obtain ⟨node, hnode, others, hothers, rfl⟩ := h
      refine ⟨_, (hfollows.fillTerm hf hd hvalue hnode).2, _, ih hrest hothernames hothers, ?_⟩
      have hkeyword : (Value.str name).rename f = .str name :=
        congrArg Value.str (hf.other name (hd.keywords name hname))
      rw [renameParameters, Entry.rename, hkeyword]
    | forward =>
      simp only [Definition.fillKeywords, bind_eq_ok, pure_eq_ok] at h ⊢
      obtain ⟨others, hothers, rfl⟩ := h
      have hhere : (a'.collected.map fun k => Entry.keyword (.str k.1) (.const k.2)) =
          renameParameters f (a.collected.map fun k => .keyword (.str k.1) (.const k.2)) := by
        rw [hfollows.collected, renameParameters_eq_map, List.map_map, List.map_map]
        refine List.map_congr_left fun k hk => ?_
        have hkeyword : (Value.str k.1).rename f = .str k.1 :=
          congrArg Value.str (hfollows.options k hk).1
        simp only [Function.comp_apply, Prod.map_fst, Prod.map_snd, id_eq, Entry.rename, hkeyword,
          Node.rename]
      refine ⟨_, ih hterms hnames hothers, ?_⟩
      rw [hhere]
      simp only [renameParameters_eq_map, List.map_append]

/-- A callee that is filled in names no less after a renaming: what is registered is not minted. -/
theorem Actuals.Follows.fillCallee {r : Registry} (hf : Moving f δ)
    (hnames : ∀ name g, r.get? name = some g → isMinted name = false) (hfollows : a.Follows f a')
    {c : CalleeTerm} {callee : Value} (h : Definition.fillCallee a c = .ok callee) :
    ∃ callee', Definition.fillCallee a' c = .ok callee' ∧
      ∀ body, r.Names callee body → r.Names callee' body := by
  cases c with
  | fixed name => exact ⟨callee, h, fun _ h => h⟩
  | parameter name =>
    obtain ⟨v, hv, h⟩ := bind_eq_ok.1 h
    split at h
    · rename_i s hs
      obtain rfl := pure_eq_ok.1 h
      refine ⟨.str (f s), bind_eq_ok.2 ⟨_, (hfollows.get hv).2, ?_⟩, ?_⟩
      · simp only [Value.bare_rename, hs, Value.rename]
        rfl
      · rintro body ⟨registered, g, hname, hget, hbody⟩
        obtain rfl : s = registered := Value.str.inj hname
        exact ⟨s, g, by rw [hf.other s (hnames s g hget)]; rfl, hget, hbody⟩
    · exact absurd h throw_ne_ok

/-- **A statement that is filled in follows the renaming**: so do its arguments and its output, and
its callee names the same. -/
theorem Filled.rename {r : Registry} (hf : Moving f δ)
    (hnames : ∀ name g, r.get? name = some g → isMinted name = false) (hd : d.Unmarked)
    (hfollows : a.Follows f a') {s : BodyStatement} {call : Pending} (hs : s ∈ d.body)
    (h : Filled d a s call) :
    SealedArguments f call.args ∧ call.output.unlabelled.Sealed f ∧
      ∃ callee', Filled d a' s ⟨callee', renameNodes f call.args, call.output.rename f⟩ ∧
        ∀ body, r.Names call.callee body → r.Names callee' body := by
  have hterms : s.call.terms ⊆ d.terms := fun t ht => Definition.mem_terms.2 ⟨s, hs, ht⟩
  have hkeywords : s.call.keywordNames ⊆ d.keywordNames := fun name hname =>
    List.mem_flatMap.2 ⟨s, hs, hname⟩
  obtain ⟨hnamed, hpositional⟩ := List.append_subset.1 hterms
  obtain ⟨entries, nodes, hentries, hnodes, hargs⟩ := h.args
  obtain ⟨houtput, htarget⟩ := hfollows.get h.target
  obtain ⟨callee', hcallee, hsame⟩ := hfollows.fillCallee hf hnames h.callee
  refine ⟨⟨?_, ?_⟩, houtput, callee', ⟨htarget, hcallee, _, _,
    hfollows.fillKeywords hf hd hnamed hkeywords hentries,
    hfollows.fillTerms hf hd hpositional hnodes, ?_⟩, hsame⟩
  · intro e he
    obtain ⟨name, n, rfl, hn⟩ := h.entries e he
    rcases hn with ⟨t, ht, hfill⟩ | ⟨v, hv, rfl⟩
    · refine ⟨name, n, rfl, hf.other name (hd.keywords name (hkeywords ?_)), ?_⟩
      · exact List.mem_filterMap.2 ⟨_, ht, rfl⟩
      · exact (hfollows.fillTerm hf hd (hnamed (List.mem_filterMap.2 ⟨_, ht, rfl⟩)) hfill).1
    · obtain ⟨hname, hsealed⟩ := hfollows.options _ hv
      exact ⟨name, _, rfl, hname, v, hsealed, .inr rfl⟩
  · intro n hn
    obtain ⟨t, ht, hfill⟩ := h.positional n hn
    exact (hfollows.fillTerm hf hd (hpositional ht) hfill).1
  · rw [hargs, Definition.withParameters, Definition.withParameters]
    split <;> rfl

end Filling

section Binding

variable {f : String → String} {δ : Int} {d : Definition} {b : Binding} {out : String}
  {values : List Value} {named : List (String × Value)} {output : Value}

theorem checkInputs_rename {layer : String} {inputs : List String}
    (h : Definition.checkInputs layer b inputs = .ok ()) :
    Definition.checkInputs layer (b.map (·.rename f)) inputs = .ok () := by
  induction inputs with
  | nil => rfl
  | cons input rest ih =>
    simp only [Definition.checkInputs] at h ⊢
    split at h
    · exact absurd h throw_ne_ok
    · rename_i v hv
      obtain ⟨s, hs, hrest⟩ := bind_eq_ok.1 h
      rw [mapError_eq_ok] at hs
      have hget : (b.map (·.rename f)).get? input = some (v.rename f) := by
        rw [Binding.get?, Binding.map, lookup_mapValues]
        exact congrArg (Option.map _) hv
      rw [hget]
      exact bind_eq_ok.2 ⟨f s, mapError_eq_ok.2 (checkSymbol_rename hs _), ih hrest⟩

/-- Binding a call follows a renaming. -/
theorem bindCall_rename (hf : Moving f δ) (hd : d.Unmarked)
    (h : d.bindCall values output named = .ok (b, out)) :
    d.bindCall (values.map (·.rename f)) (output.rename f) (mapValues (·.rename f) named) =
      .ok (b.map (·.rename f), f out) := by
  have hdefaults : ∀ formal ∈ d.signature.formals, ∀ v, formal.default = some v →
      v.rename f = v := fun formal hformal v hv => (hd.defaults formal hformal v hv).rename hf
  simp only [Definition.bindCall, bind_eq_ok, liftFault_eq_ok, mapError_eq_ok, pure_eq_ok,
    Prod.mk.injEq] at h ⊢
  obtain ⟨b', hbind, ⟨⟩, hinputs, out', hout, rfl, rfl⟩ := h
  exact ⟨_, Signature.bind_map hdefaults hbind, (), checkInputs_rename hinputs, _,
    checkSymbol_rename hout _, rfl, rfl⟩

theorem passingNamed_mapValues (bound : Nat) (named : List (String × Value)) :
    passingNamed bound (mapValues (·.rename f) named) = passingNamed bound named := by
  induction named generalizing bound with
  | nil => rfl
  | cons p rest ih =>
    rw [mapValues, List.map_cons, Prod.map_apply', passingNamed, Value.passing_rename]
    exact ih _

/-- The collected keywords as a whole follow a renaming that leaves their names alone. -/
theorem collectorEntry_rename (hcollected : ∀ k ∈ b.collected, f k.1 = k.1) :
    d.collectorEntry (b.map (·.rename f)) = mapValues (·.rename f) (d.collectorEntry b) := by
  have hvalue : Definition.collectedValue (b.map (·.rename f)) =
      (Definition.collectedValue b).rename f := by
    have hentries : (mapValues (·.rename f) b.collected).map
        (fun k => (Value.kept .word (.str k.1), k.2)) =
          renameEntries f (b.collected.map fun k => (.kept .word (.str k.1), k.2)) := by
      rw [renameEntries_eq_map, mapValues, List.map_map, List.map_map]
      refine List.map_congr_left fun k hk => ?_
      simp only [Function.comp_apply, Prod.map_apply', id_eq, Value.rename, hcollected k hk]
    simp only [Definition.collectedValue, Binding.map, passingNamed_mapValues, hentries,
      Value.rename]
  unfold Definition.collectorEntry
  split
  · rfl
  · rw [hvalue]
    rfl

/-- The registers of a layer follow a renaming that moves the numbers of minted names. -/
theorem registers_rename (hf : Moving f δ) (n : Int) :
    d.registers (f out) (n + δ) = (d.registers out n).map (·.rename f) := by
  have hminted : ∀ (hints : List String) (n : Int), (mintedFrom hints (n + δ)).map mintedRegister =
      ((mintedFrom hints n).map mintedRegister).map (·.rename f) := by
    intro hints
    induction hints with
    | nil => exact fun _ => rfl
    | cons hint hints ih =>
      intro n
      have hnext : n + δ + 1 = n + 1 + δ := by omega
      have hfirst : mintedRegister (hint, n + δ) = (mintedRegister (hint, n)).rename f :=
        congrArg Value.str (hf.mint hint n).symm
      simp only [mintedFrom, List.map_cons, hnext, ih, hfirst]
  rw [Definition.registers, Definition.registers, hminted, List.map_append]
  rfl

/-- **What the names of a layer stand for follows the renaming**, once the counter is moved. -/
theorem follows_actuals (hf : Moving f δ) (hd : d.Unmarked)
    (hvalues : ∀ v ∈ values, v.unlabelled.Sealed f)
    (hnamed : ∀ k ∈ named, f k.1 = k.1 ∧ k.2.unlabelled.Sealed f)
    (hbind : d.signature.bind values named = .ok b) (closure : List (String × Value))
    (out : String) (n : Int) :
    (d.actuals b closure out n).Follows f
      (d.actuals (b.map (·.rename f)) closure (f out) (n + δ)) := by
  obtain ⟨hbound, hcollected⟩ := Signature.bind_values hbind
  have hoptions : ∀ k ∈ b.collected, f k.1 = k.1 ∧ k.2.unlabelled.Sealed f := fun k hk =>
    hnamed k (hcollected hk)
  refine ⟨?_, rfl, ?_, hoptions⟩
  · rw [Definition.values_actuals, Definition.values_actuals, registers_rename hf,
      collectorEntry_rename fun k hk => (hoptions k hk).1, List.zip_map_right]
    simp only [mapValues, Binding.map, List.map_append]
  · rw [Definition.values_actuals]
    intro p hp
    rcases List.mem_append.1 hp with hp | hp
    · -- A local stands for a register, which is a text.
      obtain ⟨m, -, hm⟩ | hout := (List.mem_append.1 (List.of_mem_zip hp).2).imp
        List.mem_map.1 List.mem_singleton.1
      · rw [← hm]
        exact .inr (.inl ⟨_, rfl⟩)
      · rw [hout]
        exact .inr (.inl ⟨_, rfl⟩)
    · rcases List.mem_append.1 hp with hp | hp
      · rcases hbound p hp with hp | hp | ⟨formal, hformal, hdefault⟩
        · exact hvalues _ hp
        · exact (hnamed p hp).2
        · exact (hd.defaults formal hformal _ hdefault).sealed hf
      · -- The collected keywords are a dictionary.
        unfold Definition.collectorEntry at hp
        split at hp
        · cases hp
        · rw [List.mem_singleton.1 hp]
          exact .inr (.inr ⟨_, rfl⟩)

end Binding

end Laminar
