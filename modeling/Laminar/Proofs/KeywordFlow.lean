import Mathlib
import Laminar.Proofs.Closing
import Laminar.Proofs.Comparison
import Laminar.Proofs.StandardLayers

/-!
# Keywords on their way to a callee

A call in the body of a layer gives keywords one by one and hands on those that the layer collected.
On their way to the callee they are read into terms, filled in when the layer is entered, and
evaluated when the call is resolved.  This module follows them from the text of the function to the
generator.

* `CallAssignment.keywordSequence`: the keywords of a call as they are written, with the collected
  ones in the place of each `**`.
* `Definition.Means`: what a keyword means, case by case: the value of a parameter, the register of
  an input or local, a constant, or what a deferred expression yields.  `Definition.MeansAll` takes
  several in turn.
* `prepareCall` is what resolving a call does before a generator is invoked.
* `Definition.keywords_reach_callee` is the theorem.

**Design.** Deferred expressions are evaluated in a state, so meaning is a relation between states,
and "in source order" is part of it.  A constant may be any object with the right content; that is
why success is stated apart from what is handed over.
-/

namespace Laminar

open Source (Expr)

/-! ### What is written -/

/-- Where the value of a keyword comes from: an expression in the call, or a keyword that the layer
was given itself. -/
inductive Origin where
  | written (e : Expr)
  | handed (v : Value)

/-- The keywords that stand behind one keyword of a call, given what the layer collected. -/
def Source.Keyword.sequence (collected : List (String × Value)) :
    Source.Keyword → List (String × Origin)
  | .named name _ e => [(name, .written e)]
  | .forward _ => collected.map fun k => (k.1, .handed k.2)

/-- **The keywords of a call in source order.** -/
def CallAssignment.keywordSequence (a : CallAssignment) (collected : List (String × Value)) :
    List (String × Origin) :=
  a.keywords.flatMap (Source.Keyword.sequence collected)

/-- The positional values of a call in source order. -/
def CallAssignment.positionalSequence (a : CallAssignment) : List Origin :=
  a.args.map fun x => .written x.value

/-! ### What it means -/

section Meaning

variable (lib : Library) (d : Definition) (b : Binding) (closure : List (String × Value))
  (out : String) (n : Int)

/-- What the value of a keyword is, and the state after it was found. -/
inductive Definition.Means : EvalState → Origin → Value → EvalState → Prop where
  /-- What is handed on stays as it is. -/
  | handed (s : EvalState) (v : Value) : Means s (.handed v) v s
  /-- An input stands for the register bound to it. -/
  | input {s : EvalState} {x : String} {v : Value} (member : x ∈ d.signature.inputs)
      (bound : b.get? x = some v) : Means s (.written (.name x)) v s
  /-- A local stands for its register. -/
  | inner {s : EvalState} {x : String} {v : Value}
      (member : (x, v) ∈ d.locals.zip (d.registers out n)) : Means s (.written (.name x)) v s
  | parameter {s : EvalState} {p : String} {v : Value} (member : p ∈ d.signature.parameterNames)
      (bound : b.get? p = some v) : Means s (.written (.name p)) v s
  /-- The collector stands for all that was collected. -/
  | collector {s : EvalState} {p : String} (named : d.signature.collector = some p)
      (unbound : b.get? p = none) :
      Means s (.written (.name p)) (Definition.collectedValue b) s
  | literal {s : EvalState} {l : Source.Literal} {v : Value} (h : v.bare = .ofLiteral l) :
      Means s (.written (.literal l)) v s
  /-- A deferred expression is evaluated with the names that the layer sees. -/
  | deferred {s t : EvalState} {e : Expr} {v : Value} (defers : d.bodyNames.Defers e)
      (yields : (evaluateIn lib.samples lib.functions lib.scopes d.surroundings.globals
        (d.actuals b closure out n).visible e).run s = (.ok v, t)) :
      Means s (.written e) v t

/-- Values that are found in turn. -/
inductive Definition.MeansAll : EvalState → List Origin → List Value → EvalState → Prop where
  | nil (s : EvalState) : MeansAll s [] [] s
  | cons {s t u : EvalState} {o : Origin} {v : Value} {os : List Origin} {vs : List Value}
      (first : d.Means lib b closure out n s o v t) (rest : MeansAll t os vs u) :
      MeansAll s (o :: os) (v :: vs) u

/-- A node stands for an origin if evaluating it finds a value that the origin means, and if it does
so whenever there is one. -/
structure Definition.Stands (callee : Value) (o : Origin) (node : Node) : Prop where
  argument : node.IsArgument
  sound : ∀ {s t v}, (keywordValue lib callee node).run s = (.ok v, t) →
    d.Means lib b closure out n s o v t
  complete : ∀ {s t v}, d.Means lib b closure out n s o v t →
    ∃ w, (keywordValue lib callee node).run s = (.ok w, t)

/-- An entry of a parameter block stands for a keyword of that name. -/
def Definition.EntryStands (callee : Value) (k : String × Origin) (e : Entry) : Prop :=
  ∃ node, e = .keyword (.str k.1) node ∧ d.Stands lib b closure out n callee k.2 node

end Meaning

namespace Definition

variable {lib : Library} {d : Definition} {b : Binding} {closure : List (String × Value)}
  {out : String} {n : Int} {callee : Value}

/-- Only a deferred expression leaves another state behind. -/
theorem Means.state_eq {s t : EvalState} {e : Expr} {v : Value}
    (h : d.Means lib b closure out n s (.written e) v t) (hdefers : ¬ d.bodyNames.Defers e) :
    t = s := by
  cases h with
  | deferred defers => exact absurd defers hdefers
  | _ => rfl

/-- A constant or a symbol stands for what means its value and leaves the state alone. -/
theorem stands_of_value {o : Origin} {node : Node} {v : Value}
    (hnode : node = .const v ∨ node = .symbol v)
    (hmeans : ∀ s, d.Means lib b closure out n s o v s)
    (hstate : ∀ {s t w}, d.Means lib b closure out n s o w t → t = s) :
    d.Stands lib b closure out n callee o node := by
  have hvalue : keywordValue lib callee node = pure v := by
    rcases hnode with rfl | rfl
    · rfl
    · rfl
  refine ⟨?_, ?_, ?_⟩
  · rcases hnode with rfl | rfl
    · trivial
    · trivial
  · intro s t w h
    rw [hvalue] at h
    obtain ⟨rfl, rfl⟩ := run_pure_eq_ok.1 h
    exact hmeans s
  · intro s t w h
    rw [hstate h, hvalue]
    exact ⟨v, rfl⟩

theorem stands_handed (v : Value) :
    d.Stands lib b closure out n callee (.handed v) (.const v) := by
  refine stands_of_value (.inl rfl) (fun s => .handed s v) fun h => ?_
  cases h
  rfl

/-- A deferred expression that yields a value is evaluated. -/
theorem run_evaluateDeferred_eq_ok {text : String} {e : Expr} {globals : ScopeId}
    {names : List (String × Value)} {s t : EvalState} {v : Value} :
    (evaluateDeferred lib callee text e globals names).run s = (.ok v, t) ↔
      (evaluateIn lib.samples lib.functions lib.scopes globals names e).run s = (.ok v, t) := by
  refine ⟨fun h => ?_, run_evaluateDeferred_of_ok text⟩
  rcases hrun : (evaluateIn lib.samples lib.functions lib.scopes globals names e).run s with
    ⟨err | w, u⟩
  · rw [run_evaluateDeferred_of_error text hrun] at h
    cases h
  · rw [run_evaluateDeferred_of_ok text hrun] at h
    exact h

/-- A deferred expression means what it yields, and nothing else. -/
theorem Means.yields {s t : EvalState} {e : Expr} {v : Value}
    (h : d.Means lib b closure out n s (.written e) v t) (hdefers : d.bodyNames.Defers e) :
    (evaluateIn lib.samples lib.functions lib.scopes d.surroundings.globals
      (d.actuals b closure out n).visible e).run s = (.ok v, t) := by
  cases h with
  | deferred _ yields => exact yields
  | input member => exact absurd (List.mem_append_left _ member) hdefers.1
  | inner member => exact absurd (List.mem_append_right _ (List.of_mem_zip member).1) hdefers.1
  | parameter member => exact absurd member hdefers.2.1
  | collector named => exact absurd named hdefers.2.2
  | literal => exact hdefers.elim

/-- The register of a local. -/
theorem mem_zip_of_get (hnodup : d.locals.Nodup) {x : String} {v : Value} (hx : x ∈ d.locals)
    (h : (d.actuals b closure out n).get x = .ok v) :
    (x, v) ∈ d.locals.zip (d.registers out n) := by
  have hkeys : x ∈ (d.locals.zip (d.registers out n)).map Prod.fst := by
    rw [List.map_fst_zip length_registers.ge]
    exact hx
  obtain ⟨⟨y, w⟩, hmem, rfl⟩ := List.mem_map.1 hkeys
  have hget : (d.actuals b closure out n).get y = .ok w :=
    (List.forall₂_iff_zip.1 (get_locals hnodup)).2 hmem
  rw [Except.ok.inj (h.symm.trans hget)]
  exact hmem

/-- What a parameter or the collector stands for. -/
theorem means_parameter (hbound : d.signature.BoundBy b) {p : String} {v : Value}
    (hfresh : p ∉ d.symbolNames)
    (hp : p ∈ d.signature.parameterNames ∨ d.signature.collector = some p)
    (h : (d.actuals b closure out n).get p = .ok v) (s : EvalState) :
    d.Means lib b closure out n s (.written (.name p)) v s := by
  have hlocal : p ∉ d.locals := fun hlocal => hfresh (List.mem_append_right _ hlocal)
  by_cases hparameter : p ∈ d.signature.parameterNames
  · obtain ⟨w, hw⟩ := hbound.exists_get? (.inr hparameter)
    rw [get_formal hlocal hw] at h
    cases h
    exact .parameter hparameter hw
  · have hcollector := hp.resolve_left hparameter
    have hunbound : b.get? p = none :=
      hbound.get?_eq_none (fun hinput => hfresh (List.mem_append_left _ hinput)) hparameter
    rw [get_collector hlocal hunbound hcollector] at h
    cases h
    exact .collector hcollector hunbound

section Calls

variable (haccepted : d.Accepted) (hbound : d.signature.BoundBy b)

include haccepted hbound

/-- What a symbol stands for. -/
theorem means_symbol {x : String} {v : Value} (hx : x ∈ d.symbolNames)
    (h : (d.actuals b closure out n).get x = .ok v) (s : EvalState) :
    d.Means lib b closure out n s (.written (.name x)) v s := by
  by_cases hlocal : x ∈ d.locals
  · exact .inner (mem_zip_of_get haccepted.wellFormed.nodup_locals hlocal h)
  · have hinput := (List.mem_append.1 hx).resolve_right hlocal
    obtain ⟨w, hw⟩ := hbound.exists_get? (.inl hinput)
    rw [get_formal hlocal hw] at h
    cases h
    exact .input hinput hw

/-- **A term that is filled in stands for its expression.** -/
theorem stands_of_fillTerm {e : Expr} {t : Term} {node : Node} (hread : d.bodyNames.ReadsTerm e t)
    (hfill : fillTerm d.surroundings.globals (d.actuals b closure out n) t = .ok node) :
    d.Stands lib b closure out n callee (.written e) node := by
  cases hread with
  | @symbol x hx =>
    obtain ⟨v, hget, hnode⟩ := bind_eq_ok.1 hfill
    cases pure_eq_ok.1 hnode
    refine stands_of_value (.inr rfl) (means_symbol haccepted hbound hx hget) fun hmeans => ?_
    exact hmeans.state_eq fun hdefers => hdefers.1 hx
  | @parameter p hfresh hp =>
    obtain ⟨v, hget, hnode⟩ := bind_eq_ok.1 hfill
    cases pure_eq_ok.1 hnode
    refine stands_of_value (.inl rfl) (means_parameter hbound hfresh hp hget)
      fun hmeans => ?_
    exact hmeans.state_eq fun hdefers => hp.elim hdefers.2.1 hdefers.2.2
  | literal hl =>
    cases pure_eq_ok.1 hfill
    exact stands_of_value (.inl rfl) (fun s => .literal hl) fun hmeans => hmeans.state_eq id
  | deferred hdefers =>
    cases pure_eq_ok.1 hfill
    refine ⟨trivial, fun hrun => .deferred hdefers (run_evaluateDeferred_eq_ok.1 hrun), ?_⟩
    exact fun hmeans => ⟨_, run_evaluateDeferred_of_ok _ (hmeans.yields hdefers)⟩

/-- **Keywords that are filled in stand for the keywords as they are written**, in their order. -/
theorem sequence_of_fillKeywords {keywords : List Source.Keyword} {read : List KeywordTerm}
    {entries : List Entry} (hread : List.Forall₂ d.bodyNames.ReadsKeyword keywords read)
    (hfill : fillKeywords d.surroundings.globals (d.actuals b closure out n) read = .ok entries) :
    List.Forall₂ (d.EntryStands lib b closure out n callee)
      (keywords.flatMap (Source.Keyword.sequence b.collected)) entries := by
  induction hread generalizing entries with
  | nil =>
    cases pure_eq_ok.1 hfill
    exact .nil
  | cons first _ ih =>
    cases first with
    | named hterm =>
      simp only [fillKeywords, bind_eq_ok, pure_eq_ok] at hfill
      obtain ⟨node, hnode, others, hothers, rfl⟩ := hfill
      exact .cons ⟨node, rfl, stands_of_fillTerm haccepted hbound hterm hnode⟩ (ih hothers)
    | forward =>
      simp only [fillKeywords, bind_eq_ok, pure_eq_ok] at hfill
      obtain ⟨others, hothers, rfl⟩ := hfill
      rw [List.flatMap_cons]
      refine List.rel_append ?_ (ih hothers)
      simp only [Source.Keyword.sequence, List.forall₂_map_left_iff, List.forall₂_map_right_iff]
      exact List.forall₂_same.2 fun k _ => ⟨.const k.2, rfl, stands_handed k.2⟩

theorem sequence_of_fillTerms {args : List Source.Argument} {read : List Term} {nodes : List Node}
    (hread : List.Forall₂ (fun x t => d.bodyNames.ReadsTerm x.value t) args read)
    (hfill : fillTerms d.surroundings.globals (d.actuals b closure out n) read = .ok nodes) :
    List.Forall₂ (d.Stands lib b closure out n callee) (args.map fun x => .written x.value)
      nodes := by
  induction hread generalizing nodes with
  | nil =>
    cases pure_eq_ok.1 hfill
    exact .nil
  | cons first _ ih =>
    simp only [fillTerms, bind_eq_ok, pure_eq_ok] at hfill
    obtain ⟨node, hnode, others, hothers, rfl⟩ := hfill
    exact .cons (stands_of_fillTerm haccepted hbound first hnode) (ih hothers)

end Calls

/-! ### Evaluation in turn -/

/-- What a keyword of a parameter block does: its name must be new, then its value is found. -/
theorem run_splitEntries_keyword {known : List (String × Value)} {name : String} {node : Node}
    {rest : List Entry} {s : EvalState} :
    (splitEntries lib callee (.keyword (.str name) node :: rest)
      (known.map (Prod.map .str id))).run s =
        if name ∈ known.map Prod.fst then
          (.error (Problem.repeatedKeyword (.str name)).failure, s)
        else (do
          let v ← keywordValue lib callee node
          splitEntries lib callee rest ((known ++ [(name, v)]).map (Prod.map .str id))).run s := by
  have hrepeated : ((known.map (Prod.map Value.str id)).any fun k =>
      (Value.str name).sameKey k.1) = decide (name ∈ known.map Prod.fst) := by
    rw [Bool.eq_iff_iff, List.any_map, List.any_eq_true, decide_eq_true_iff, List.mem_map]
    simp only [Function.comp_apply, Prod.map_fst, Value.sameKey_str, beq_iff_eq]
    exact exists_congr fun q => and_congr_right' eq_comm
  have hhash : settle (Value.str name).checkHashable = pure () := rfl
  rw [splitEntries, hhash, pure_bind, hrepeated]
  by_cases hmem : name ∈ known.map Prod.fst
  · simp only [hmem, decide_true, if_true]
    rfl
  · simp only [hmem, decide_false, if_false, List.map_append]
    rfl

/-- **Keywords that are evaluated** have different names, and values that they mean. -/
theorem meansAll_of_splitEntries {sequence : List (String × Origin)} {entries : List Entry}
    (hentries : List.Forall₂ (d.EntryStands lib b closure out n callee) sequence entries)
    (known : List (String × Value)) (hknown : (known.map Prod.fst).Nodup)
    {keywords : List (Value × Value)} {s t : EvalState}
    (h : (splitEntries lib callee entries (known.map (Prod.map .str id))).run s =
      (.ok keywords, t)) :
    (known.map Prod.fst ++ sequence.map Prod.fst).Nodup ∧
      ∃ given, d.MeansAll lib b closure out n s (sequence.map Prod.snd) given t ∧
        keywords = (known ++ (sequence.map Prod.fst).zip given).map (Prod.map .str id) := by
  induction hentries generalizing known s with
  | nil =>
    obtain ⟨rfl, rfl⟩ := run_pure_eq_ok.1 h
    refine ⟨?_, [], .nil _, ?_⟩
    · rw [List.map_nil, List.append_nil]
      exact hknown
    · rw [List.zip_nil_right, List.append_nil]
  | @cons p e sequence entries first _ ih =>
    obtain ⟨node, rfl, hstands⟩ := first
    rw [run_splitEntries_keyword] at h
    split at h
    · cases h
    · rename_i hnew
      obtain ⟨v, u, hvalue, hrest⟩ := run_bind_eq_ok.1 h
      have hgrown : ((known ++ [(p.1, v)]).map Prod.fst).Nodup := by
        rw [List.map_append, List.nodup_append']
        exact ⟨hknown, List.nodup_singleton _, by simpa using hnew⟩
      obtain ⟨hnodup, given, hmeans, hkeywords⟩ := ih _ hgrown hrest
      refine ⟨?_, v :: given, .cons (hstands.sound hvalue) hmeans, ?_⟩
      · rw [List.map_append, List.append_assoc] at hnodup
        exact hnodup
      · rw [hkeywords, List.append_assoc]
        rfl

/-- Keywords with different names and a meaning are evaluated. -/
theorem splitEntries_of_meansAll {sequence : List (String × Origin)} {entries : List Entry}
    (hentries : List.Forall₂ (d.EntryStands lib b closure out n callee) sequence entries)
    (known : List (String × Value))
    (hnodup : (known.map Prod.fst ++ sequence.map Prod.fst).Nodup) {given : List Value}
    {s t : EvalState} (h : d.MeansAll lib b closure out n s (sequence.map Prod.snd) given t) :
    ∃ keywords, (splitEntries lib callee entries (known.map (Prod.map .str id))).run s =
      (.ok keywords, t) := by
  induction hentries generalizing known s given with
  | nil =>
    cases h
    exact ⟨_, rfl⟩
  | @cons p e sequence entries first _ ih =>
    obtain ⟨node, rfl, hstands⟩ := first
    cases h with
    | cons hfirst hrest =>
      obtain ⟨w, hvalue⟩ := hstands.complete hfirst
      have hnew : p.1 ∉ known.map Prod.fst := fun hmem =>
        List.disjoint_of_nodup_append hnodup hmem (List.mem_cons_self ..)
      have hgrown : ((known ++ [(p.1, w)]).map Prod.fst ++ sequence.map Prod.fst).Nodup := by
        rw [List.map_append, List.append_assoc]
        exact hnodup
      obtain ⟨keywords, hkeywords⟩ := ih _ hgrown hrest
      refine ⟨keywords, ?_⟩
      rw [run_splitEntries_keyword, if_neg hnew, run_bind, hvalue]
      exact hkeywords

/-- What a positional argument does. -/
theorem splitPositional_cons {node : Node} (hnode : node.IsArgument) (index : Nat)
    (rest : List Node) :
    splitPositional lib callee index (node :: rest) = (do
      let v ← keywordValue lib callee node
      return v :: (← splitPositional lib callee (index + 1) rest)) := by
  cases node
  case symbol | const | deferred => rfl
  all_goals exact hnode.elim

/-- **Positional arguments that are evaluated** have values that they mean. -/
theorem meansAll_of_splitPositional {os : List Origin} {nodes : List Node}
    (hnodes : List.Forall₂ (d.Stands lib b closure out n callee) os nodes) {index : Nat}
    {values : List Value} {s t : EvalState}
    (h : (splitPositional lib callee index nodes).run s = (.ok values, t)) :
    d.MeansAll lib b closure out n s os values t := by
  induction hnodes generalizing index s values with
  | nil =>
    obtain ⟨rfl, rfl⟩ := run_pure_eq_ok.1 h
    exact .nil _
  | cons first _ ih =>
    rw [splitPositional_cons first.argument] at h
    obtain ⟨v, u, hvalue, h⟩ := run_bind_eq_ok.1 h
    obtain ⟨vs, w, hrest, h⟩ := run_bind_eq_ok.1 h
    obtain ⟨rfl, rfl⟩ := run_pure_eq_ok.1 h
    exact .cons (first.sound hvalue) (ih hrest)

theorem splitPositional_of_meansAll {os : List Origin} {nodes : List Node}
    (hnodes : List.Forall₂ (d.Stands lib b closure out n callee) os nodes) (index : Nat)
    {values : List Value} {s t : EvalState} (h : d.MeansAll lib b closure out n s os values t) :
    ∃ found, (splitPositional lib callee index nodes).run s = (.ok found, t) := by
  induction hnodes generalizing index s values with
  | nil =>
    cases h
    exact ⟨[], rfl⟩
  | cons first _ ih =>
    cases h with
    | cons hfirst hrest =>
      obtain ⟨w, hvalue⟩ := first.complete hfirst
      obtain ⟨found, hfound⟩ := ih (index + 1) hrest
      refine ⟨w :: found, ?_⟩
      rw [splitPositional_cons first.argument, run_bind, hvalue]
      change (do return w :: (← splitPositional lib callee (index + 1) _) :
        Eval (List Value)).run _ = _
      rw [run_bind, hfound]
      rfl

/-- The keywords come first, then the positional arguments. -/
theorem splitArguments_withParameters {α : Type} {keywords : List α} {entries : List Entry}
    {nodes : List Node} (hentries : keywords = [] → entries = [])
    (hnodes : ∀ node ∈ nodes, node.IsArgument) :
    ∃ index, splitArguments lib callee (withParameters keywords entries nodes) = (do
      let ks ← splitEntries lib callee entries []
      return (ks, ← splitPositional lib callee index nodes)) := by
  cases keywords with
  | cons k keywords => exact ⟨1, rfl⟩
  | nil =>
    refine ⟨0, ?_⟩
    rw [hentries rfl, splitEntries, pure_bind]
    rcases nodes with _ | ⟨node, rest⟩
    · rfl
    · have hnode := hnodes node (List.mem_cons_self ..)
      cases node
      case symbol | const | deferred => rfl
      all_goals exact hnode.elim

/-! ### Calls in a body -/

/-- A call of a tree stands for a call as it is written: its callee is a name, and its arguments
stand for the keywords and the positional values in their order. -/
structure CallStands (lib : Library) (d : Definition) (b : Binding)
    (closure : List (String × Value)) (out : String) (n : Int) (a : CallAssignment)
    (callee : Value) (args : List Node) : Prop where
  named : ∃ name, callee = .str name
  ordinary : OrdinaryArguments args
  arguments : ∃ entries nodes, args = withParameters a.keywords entries nodes ∧
    (a.keywords = [] → entries = []) ∧
    List.Forall₂ (d.EntryStands lib b closure out n callee) (a.keywordSequence b.collected)
      entries ∧
    List.Forall₂ (d.Stands lib b closure out n callee) a.positionalSequence nodes

/-- **A statement that is filled in stands for the assignment it was read from.** -/
theorem callStands_of_filled (haccepted : d.Accepted) (hbound : d.signature.BoundBy b)
    {a : CallAssignment} {s : BodyStatement} {call : Pending}
    (hread : d.bodyNames.ReadsStatement a s)
    (h : Filled d (d.actuals b closure out n) s call) :
    CallStands lib d b closure out n a call.callee call.args := by
  obtain ⟨name, hname, -⟩ := h.callee_eq_str
  obtain ⟨entries, nodes, hentries, hnodes, hargs⟩ := h.args
  refine ⟨⟨name, hname⟩, h.ordinaryArguments, entries, nodes, ?_, ?_, ?_, ?_⟩
  · -- One keyword is read as one keyword, so there is a parameter block in both or in neither.
    have hempty : s.call.keywords.isEmpty = a.keywords.isEmpty := by
      rw [Bool.eq_iff_iff, List.isEmpty_iff_length_eq_zero, List.isEmpty_iff_length_eq_zero,
        hread.keywords.length_eq]
    rw [hargs, withParameters, withParameters, hempty]
  · intro hnone
    have hkeywords := hread.keywords
    rw [hnone, List.forall₂_nil_left_iff] at hkeywords
    rw [hkeywords] at hentries
    exact (pure_eq_ok.1 hentries).symm
  · exact sequence_of_fillKeywords haccepted hbound hread.keywords hentries
  · exact sequence_of_fillTerms haccepted hbound hread.args hnodes

namespace CallStands

variable {a : CallAssignment} {args : List Node}
  (hcall : CallStands lib d b closure out n a callee args)

include hcall

theorem exists_splitArguments_eq : ∃ entries nodes index,
    List.Forall₂ (d.EntryStands lib b closure out n callee) (a.keywordSequence b.collected)
      entries ∧
    List.Forall₂ (d.Stands lib b closure out n callee) a.positionalSequence nodes ∧
    splitArguments lib callee args = (do
      let ks ← splitEntries lib callee entries []
      return (ks, ← splitPositional lib callee index nodes)) := by
  obtain ⟨entries, nodes, rfl, hempty, hentries, hnodes⟩ := hcall.arguments
  have harguments : ∀ node ∈ nodes, node.IsArgument := by
    intro node hnode
    obtain ⟨o, -, hstands⟩ := exists_of_forall₂ hnodes.flip hnode
    exact hstands.argument
  obtain ⟨index, heq⟩ := splitArguments_withParameters hempty harguments
  exact ⟨entries, nodes, index, hentries, hnodes, heq⟩

/-- What the arguments of a call amount to. -/
theorem meansAll_of_splitArguments {keywords : List (Value × Value)} {values : List Value}
    {s t : EvalState} (h : (splitArguments lib callee args).run s = (.ok (keywords, values), t)) :
    ((a.keywordSequence b.collected).map Prod.fst).Nodup ∧
      ∃ given u, d.MeansAll lib b closure out n s ((a.keywordSequence b.collected).map Prod.snd)
          given u ∧
        d.MeansAll lib b closure out n u a.positionalSequence values t ∧
        keywords = (((a.keywordSequence b.collected).map Prod.fst).zip given).map
          (Prod.map .str id) := by
  obtain ⟨entries, nodes, index, hentries, hnodes, heq⟩ := hcall.exists_splitArguments_eq
  rw [heq] at h
  obtain ⟨ks, u, hks, h⟩ := run_bind_eq_ok.1 h
  obtain ⟨vs, w, hvs, h⟩ := run_bind_eq_ok.1 h
  obtain ⟨hpair, rfl⟩ := run_pure_eq_ok.1 h
  cases hpair
  obtain ⟨hnodup, given, hgiven, hkeywords⟩ :=
    meansAll_of_splitEntries hentries [] List.nodup_nil hks
  exact ⟨hnodup, given, u, hgiven, meansAll_of_splitPositional hnodes hvs, hkeywords⟩

/-- Arguments that have a meaning are evaluated, if no name is repeated. -/
theorem splitArguments_of_meansAll
    (hnodup : ((a.keywordSequence b.collected).map Prod.fst).Nodup) {given values : List Value}
    {s t u : EvalState}
    (hgiven : d.MeansAll lib b closure out n s ((a.keywordSequence b.collected).map Prod.snd)
      given u)
    (hvalues : d.MeansAll lib b closure out n u a.positionalSequence values t) :
    ∃ r, (splitArguments lib callee args).run s = (.ok r, t) := by
  obtain ⟨entries, nodes, index, hentries, hnodes, heq⟩ := hcall.exists_splitArguments_eq
  obtain ⟨ks, hks⟩ : ∃ ks, (splitEntries lib callee entries []).run s = (.ok ks, u) :=
    splitEntries_of_meansAll hentries [] hnodup hgiven
  obtain ⟨vs, hvs⟩ := splitPositional_of_meansAll hnodes index hvalues
  refine ⟨(ks, vs), ?_⟩
  rw [heq, run_bind, hks]
  change (do return (ks, ← splitPositional lib callee index nodes) :
    Eval (List (Value × Value) × List Value)).run u = _
  rw [run_bind, hvs]
  rfl

end CallStands

end Definition

/-! ### Up to the generator -/

/-- What resolving a call does before a generator is invoked: the arguments are evaluated and the
callee is looked up. -/
def prepareCall (lib : Library) (callee : Value) (args : List Node) (c : Counters) :
    Except Failure (Generator × List Value × List (Value × Value)) × Counters :=
  let (split, s) := (splitArguments lib callee args).run (argumentState args c)
  let c := c.after s
  match split with
  | .error e => (.error e, c)
  | .ok (keywords, values) =>
    match lib.registry.lookup callee with
    | .error f => (.error (.fault f), c)
    | .ok none => (.error ((Problem.notRegistered callee).calling callee), c)
    | .ok (some g) => (.ok (g, values, keywords), c)

section Preparation

variable {lib : Library} {callee : Value} {args : List Node} {c c' : Counters}

/-- A call is prepared if its arguments are evaluated and its callee is found. -/
theorem prepareCall_eq_ok {g : Generator} {values : List Value} {keywords : List (Value × Value)} :
    prepareCall lib callee args c = (.ok (g, values, keywords), c') ↔
      lib.registry.lookup callee = .ok (some g) ∧
        ∃ t, (splitArguments lib callee args).run (argumentState args c) =
            (.ok (keywords, values), t) ∧ c' = c.after t := by
  rw [prepareCall]
  rcases (splitArguments lib callee args).run (argumentState args c) with ⟨e | ⟨ks, vs⟩, t⟩
  · constructor
    · intro h
      cases h
    · rintro ⟨-, u, h, -⟩
      cases h
  · rcases lib.registry.lookup callee with f | _ | g'
    · refine iff_of_false (fun h => ?_) (fun h => ?_)
      · cases h
      · cases h.1
    · refine iff_of_false (fun h => ?_) (fun h => ?_)
      · cases h
      · cases h.1
    · constructor
      · intro h
        cases h
        exact ⟨rfl, t, rfl, rfl⟩
      · rintro ⟨hlookup, u, h, rfl⟩
        cases hlookup
        cases h
        rfl

/-- A call that is prepared goes on to the generator. -/
theorem expandCall_of_prepareCall {g : Generator} {values : List Value}
    {keywords : List (Value × Value)}
    (h : prepareCall lib callee args c = (.ok (g, values, keywords), c')) (output : Value) :
    expandCall lib callee args output c =
      ((g.invoke lib.scopes values output keywords c'.current).1.mapError (blameCallee callee),
        c'.setCurrent (g.invoke lib.scopes values output keywords c'.current).2) := by
  obtain ⟨hlookup, t, hsplit, rfl⟩ := prepareCall_eq_ok.1 h
  rw [expandCall, hsplit, hlookup]

/-- A call that cannot be prepared fails, and no generator is invoked. -/
theorem expandCall_of_prepareCall_error {e : Failure}
    (h : prepareCall lib callee args c = (.error e, c')) (output : Value) :
    expandCall lib callee args output c = (.error e, c') := by
  revert h
  rw [prepareCall, expandCall]
  rcases (splitArguments lib callee args).run (argumentState args c) with ⟨e' | ⟨ks, vs⟩, t⟩
  · intro h
    cases h
    rfl
  · rcases lib.registry.lookup callee with f | _ | g
    · intro h
      cases h
      rfl
    · intro h
      cases h
      rfl
    · intro h
      cases h

/-- Arguments that cannot be evaluated are what the call fails with. -/
theorem resolveCall_of_splitArguments {s : Compiler} {e : Failure} {t : EvalState}
    (h : (splitArguments lib callee args).run (argumentState args s.counters) = (.error e, t))
    (depth : Nat) (output : Value) :
    ∃ s', (resolveCall lib (depth + 1) callee args output).run s =
      (.error (e.inFrames (calleeContext callee) s.frames), s') := by
  have hprepared : prepareCall lib callee args s.counters = (.error e, s.counters.after t) := by
    rw [prepareCall, h]
  refine ⟨{ s with counters := s.counters.after t }, ?_⟩
  rw [run_resolveCall, expandCall_of_prepareCall_error hprepared output]

end Preparation

/-- A failure of the arguments of a call from a body is told, unless it has no text. -/
theorem told_of_splitArguments {lib : Library} {callee : String} {args : List Node}
    (hargs : OrdinaryArguments args) {s t : EvalState} {e : Failure}
    (h : (splitArguments lib (.str callee) args).run s = (.error e, t)) :
    (∃ dg, e = .diagnostic dg) ∨ e = .fault .digitLimit ∧ FailsUntold lib args := by
  rcases splitArguments_eq_error hargs h with ⟨name, rfl⟩ | hdeferred
  · exact .inl ⟨_, rfl⟩
  · rcases hdeferred.told with ⟨dg, rfl, -⟩ | ⟨huntold, rfl⟩
    · exact .inl ⟨dg, rfl⟩
    · exact .inr ⟨rfl, huntold⟩

namespace Definition

/-- **No keyword is lost, moved or overridden on its way to a callee.** Take a layer that a function
defines, a call of the layer whose formals are bound, and the call in its block that stands for the
`i`-th assignment of the function.

* Once the call is prepared its generator is given the keywords as they are written, with the
  collected ones in the place of each `**`: in this order, no name twice, and each with a value that
  it means.
* Otherwise the call fails with what it could not be prepared for, and no generator is invoked.
* It is prepared if and only if no name is repeated, all arguments have a meaning, and the callee is
  registered.
* If a name is repeated, so that it is not, the call fails with a diagnostic.  The one
  exception is a deferred argument that fails over a missing key too long to be written. -/
theorem keywords_reach_callee {f : FunctionSource} {d : Definition} (hdefines : f.Defines d)
    {values : List Value} {keywords : List (String × Value)} {b : Binding}
    (hbind : d.signature.bind values keywords = .ok b) {closure : List (String × Value)}
    {out : String} {n : Int} {statements : List Node}
    (hblock : d.instantiate b closure out n = .ok (.block statements)) {i : Nat}
    {a : CallAssignment} (hassignment : f.assignments[i]? = some a) {output callee : Value}
    {args : List Node}
    (hcall : statements[2 * i + 1]? = some (.assign (.symbol output) (.call callee args)))
    (lib : Library) (c : Counters) :
    (∀ g positional params c', prepareCall lib callee args c = (.ok (g, positional, params), c') →
      expandCall lib callee args output c =
          ((g.invoke lib.scopes positional output params c'.current).1.mapError
              (blameCallee callee),
            c'.setCurrent (g.invoke lib.scopes positional output params c'.current).2) ∧
        ((a.keywordSequence b.collected).map Prod.fst).Nodup ∧
        ∃ given t, d.MeansAll lib b closure out n (argumentState args c)
            ((a.keywordSequence b.collected).map Prod.snd) given t ∧
          params = (((a.keywordSequence b.collected).map Prod.fst).zip given).map
            (Prod.map .str id)) ∧
    (∀ e c', prepareCall lib callee args c = (.error e, c') →
      expandCall lib callee args output c = (.error e, c')) ∧
    ((∃ r c', prepareCall lib callee args c = (.ok r, c')) ↔
      ((a.keywordSequence b.collected).map Prod.fst).Nodup ∧
        (∃ given positional t u, d.MeansAll lib b closure out n (argumentState args c)
            ((a.keywordSequence b.collected).map Prod.snd) given t ∧
          d.MeansAll lib b closure out n t a.positionalSequence positional u) ∧
        ∃ g, lib.registry.lookup callee = .ok (some g)) ∧
    (¬ ((a.keywordSequence b.collected).map Prod.fst).Nodup → ∀ depth s, s.counters = c →
      ∃ e s', (resolveCall lib (depth + 1) callee args output).run s = (.error e, s') ∧
        ((∃ dg, e = .diagnostic dg) ∨ e = .fault .digitLimit ∧ FailsUntold lib args)) := by
  have haccepted : d.Accepted := hdefines.accepted
  have hbound : d.signature.BoundBy b := Signature.map_fst_of_bind hbind
  -- The assignment is read as a statement, which is filled in at its place.
  obtain ⟨s, hs, hread⟩ := hdefines.transcribes.exists_statement hassignment
  obtain ⟨filled, hfill, hstatements⟩ := bind_eq_ok.1 hblock
  cases pure_eq_ok.1 hstatements
  obtain ⟨⟨callee', args', output'⟩, hfilled, -, hplace⟩ := filled_of_getElem? hfill hs
  rw [hcall] at hplace
  simp only [Option.some.injEq, Node.assign.injEq, Node.symbol.injEq, Node.call.injEq] at hplace
  obtain ⟨rfl, rfl, rfl⟩ := hplace
  have hstands : CallStands lib d b closure out n a callee args :=
    callStands_of_filled haccepted hbound hread hfilled
  refine ⟨?_, fun e c' h => expandCall_of_prepareCall_error h output, ?_, ?_⟩
  · intro g positional params c' hprepared
    obtain ⟨-, t, hsplit, -⟩ := prepareCall_eq_ok.1 hprepared
    obtain ⟨hnodup, given, u, hgiven, -, hparams⟩ := hstands.meansAll_of_splitArguments hsplit
    exact ⟨expandCall_of_prepareCall hprepared output, hnodup, given, u, hgiven, hparams⟩
  · constructor
    · rintro ⟨⟨g, positional, params⟩, c', hprepared⟩
      obtain ⟨hlookup, t, hsplit, -⟩ := prepareCall_eq_ok.1 hprepared
      obtain ⟨hnodup, given, u, hgiven, hpositional, -⟩ := hstands.meansAll_of_splitArguments hsplit
      exact ⟨hnodup, ⟨given, positional, u, t, hgiven, hpositional⟩, g, hlookup⟩
    · rintro ⟨hnodup, ⟨given, positional, t, u, hgiven, hpositional⟩, g, hlookup⟩
      obtain ⟨⟨params, values⟩, hsplit⟩ :=
        hstands.splitArguments_of_meansAll hnodup hgiven hpositional
      exact ⟨(g, values, params), _, prepareCall_eq_ok.2 ⟨hlookup, u, hsplit, rfl⟩⟩
  · rintro hrepeated depth state rfl
    obtain ⟨name, rfl⟩ := hstands.named
    rcases hsplit : (splitArguments lib (.str name) args).run
      (argumentState args state.counters) with ⟨e | ⟨params, positional⟩, t⟩
    · obtain ⟨state', hrun⟩ := resolveCall_of_splitArguments hsplit depth output
      refine ⟨_, state', hrun, ?_⟩
      rcases told_of_splitArguments hstands.ordinary hsplit with ⟨dg, rfl⟩ | ⟨rfl, huntold⟩
      · exact .inl ⟨_, rfl⟩
      · exact .inr ⟨rfl, huntold⟩
    · exact absurd (hstands.meansAll_of_splitArguments hsplit).1 hrepeated

/-! ### Options of a weight -/

/-- The function that `bias` is read from. -/
def biasFunction : FunctionSource :=
  Standard.function [("binit", biasDefault)]
    [Standard.assignment 30 "b" "par" [.literal (.int 0)] [("init", .name "binit")] true,
      Standard.assignment 31 "y" "add" [.name "b", .name "x"] [] false]

/-- A call of `bias` with an option. -/
def boundOption (option : String) : Binding :=
  ⟨[("x", .str "a"), ("binit", biasDefault)], [(option, .int 1)]⟩

/-- The arguments of the weight in a call of `bias` with an option. -/
def biasArguments (option : String) : List Node :=
  [.parameters [.keyword (.str "init") (.const biasDefault),
    .keyword (.str option) (.const (.int 1))], .const (.int 0)]

theorem instantiate_bias (option : String) :
    ∃ statements, Standard.bias.instantiate (boundOption option) [] "b" 7 =
        .ok (.block statements) ∧
      statements[1]? = some (.assign (.symbol (mintedRegister ("b", 7)))
        (.call (.str "par") (biasArguments option))) :=
  ⟨_, rfl, rfl⟩

theorem defines_bias : biasFunction.Defines Standard.bias := by
  have hread : Definition.read "bias" biasFunction Standard.bias.surroundings Standard.bias.file =
      .ok Standard.bias := rfl
  exact .read hread

/-- A function that gives its weight the expression with the long key and hands options on. -/
def longKeyFunction : FunctionSource :=
  Standard.function []
    [Standard.assignment 3 "y" "par" [.literal (.int 0)] [("k", LongKey.expression)] true]

/-- What the function is read as, given what the expression is read as. -/
def longKeyLayer (option : Term) : Definition where
  name := "f"
  signature := Standard.signature []
  inner := []
  last := Standard.statement 3 "y" "par" [.named "k" option, .forward] [.literal (.int 0)]
  surroundings := { globals := Standard.bareScope }
  file := .layers 0

/-- A call of the layer with an option of the same name. -/
def boundKey : Binding := ⟨[("x", .str "a")], [("k", .int 1)]⟩

/-- The arguments of the weight in that call. -/
def longKeyArguments : List Node :=
  [.parameters [.keyword (.str "k") (.deferred LongKey.expression.text LongKey.expression
      Standard.bareScope [(Standard.collector, collectedValue boundKey)] .new),
    .keyword (.str "k") (.const (.int 1))], .const (.int 0)]

theorem instantiate_longKeyLayer :
    ∃ statements, (longKeyLayer (.deferred LongKey.expression.text LongKey.expression)).instantiate
        boundKey [] "b" 7 = .ok (.block statements) ∧
      statements[1]? = some (.assign (.symbol (.str "b"))
        (.call (.str "par") longKeyArguments)) :=
  ⟨_, rfl, rfl⟩

theorem defines_longKeyLayer : longKeyFunction.Defines
    (longKeyLayer (.deferred LongKey.expression.text LongKey.expression)) := by
  have hterm : BodyNames.readTerm ⟨"f", ["x", "y"], [], some Standard.collector⟩ 3
      LongKey.expression = .ok (.deferred LongKey.expression.text LongKey.expression) :=
    BodyNames.readTerm_eq_deferred (by simp [LongKey.expression]) (by simp [LongKey.expression])
      (by decide +kernel) (by decide) (by decide)
  have hbody (e : Expr) (t : Term)
      (h : BodyNames.readTerm ⟨"f", ["x", "y"], [], some Standard.collector⟩ 3 e = .ok t) :
      BodyNames.readBody ⟨"f", ["x", "y"], [], some Standard.collector⟩
        [⟨3, "y", 3, .name "par", [.mk 3 (.literal (.int 0))],
          [.named "k" 3 e, .forward (.name Standard.collector)]⟩] =
        .ok [(longKeyLayer t).last] := by
    rw [BodyNames.readBody, BodyNames.readStatement, BodyNames.readKeywords, h]
    rfl
  exact .read (Standard.read_of_steps rfl rfl rfl rfl rfl (hbody _ _ hterm))

/-- The standard layers. -/
def standardLibrary : Library :=
  { registry := Registry.default, scopes := [], samples := .zeros }

/-- Only a deferred argument fails without being told. -/
theorem not_failsUntold_biasArguments (option : String) :
    ¬ FailsUntold standardLibrary (biasArguments option) := by
  rintro ⟨node, hnode, text, key, hfails, -⟩
  cases hfails
  simp [biasArguments, argumentNodes, blockEntries, positionalNodes, Entry.node?] at hnode

/-- The failure over a number that is too long. -/
def isDigitLimit {α : Type} : Except Failure α → Bool
  | .error (.fault .digitLimit) => true
  | _ => false

/-- **Options on their way to a weight.** An option of `bias` reaches the weight after the one that
is written, and `init` cannot be given again.  The long key fails first, so that the repeated name
is not told. -/
theorem options_reach_weight :
    (∃ g c', prepareCall standardLibrary (.str "par") (biasArguments "lr") {} =
        (.ok (g, [.int 0], [(.str "init", biasDefault), (.str "lr", .int 1)]), c') ∧
      ∃ given t, Standard.bias.MeansAll standardLibrary (boundOption "lr") [] "b" 7
          (argumentState (biasArguments "lr") {}) [.written (.name "binit"), .handed (.int 1)]
          given t ∧
        [(.str "init", biasDefault), (.str "lr", .int 1)] =
          (["init", "lr"].zip given).map (Prod.map Value.str id)) ∧
    (∃ dg s', (resolveCall standardLibrary 1 (.str "par") (biasArguments "init")
      (mintedRegister ("b", 7))).run {} = (.error (.diagnostic dg), s')) ∧
    FailsUntold standardLibrary longKeyArguments ∧
      ∃ s', (resolveCall standardLibrary 1 (.str "par") longKeyArguments (.str "b")).run {} =
        (.error (.fault .digitLimit), s') := by
  refine ⟨?_, ?_, ?_⟩
  · have hbind : Standard.bias.signature.bind [.str "a"] [("lr", .int 1)] =
        .ok (boundOption "lr") := rfl
    obtain ⟨statements, hblock, hcall⟩ := instantiate_bias "lr"
    have hassignment : biasFunction.assignments[0]? = some _ := rfl
    have hprepared : prepareCall standardLibrary (.str "par") (biasArguments "lr") {} =
        (.ok (_, [.int 0], [(.str "init", biasDefault), (.str "lr", .int 1)]), _) := rfl
    obtain ⟨-, -, given, t, hmeans, hparams⟩ :=
      (keywords_reach_callee defines_bias hbind hblock hassignment hcall standardLibrary {}).1
        _ _ _ _ hprepared
    exact ⟨_, _, hprepared, given, t, hmeans, hparams⟩
  · have hbind : Standard.bias.signature.bind [.str "a"] [("init", .int 1)] =
        .ok (boundOption "init") := rfl
    obtain ⟨statements, hblock, hcall⟩ := instantiate_bias "init"
    have hassignment : biasFunction.assignments[0]? = some _ := rfl
    obtain ⟨-, -, -, hrepeated⟩ :=
      keywords_reach_callee defines_bias hbind hblock hassignment hcall standardLibrary {}
    obtain ⟨e, s', hrun, ⟨dg, rfl⟩ | ⟨-, huntold⟩⟩ := hrepeated (by decide) 0 {} rfl
    · exact ⟨dg, s', hrun⟩
    · exact absurd huntold (not_failsUntold_biasArguments "init")
  · have hbind : (longKeyLayer (.deferred LongKey.expression.text
        LongKey.expression)).signature.bind [.str "a"] [("k", .int 1)] = .ok boundKey := rfl
    obtain ⟨statements, hblock, hcall⟩ := instantiate_longKeyLayer
    have hassignment : longKeyFunction.assignments[0]? = some _ := rfl
    obtain ⟨-, -, -, hrepeated⟩ := keywords_reach_callee defines_longKeyLayer hbind hblock
      hassignment hcall standardLibrary {}
    have hlimit : isDigitLimit ((resolveCall standardLibrary 1 (.str "par") longKeyArguments
        (.str "b")).run {}).1 = true := by decide +kernel
    obtain ⟨e, s', hrun, ⟨dg, rfl⟩ | ⟨rfl, huntold⟩⟩ := hrepeated (by decide) 0 {} rfl
    · rw [hrun] at hlimit
      cases hlimit
    · exact ⟨huntold, s', hrun⟩

end Definition

end Laminar
