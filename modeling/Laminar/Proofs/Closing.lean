import Mathlib
import Laminar.Proofs.Location
import Laminar.Proofs.Transcription

/-!
# A call closes the template

The template of a layer has a hole wherever its body has a name, and a call of the layer fills them
all.  The names are chosen when the layer is read and the values when it is called, so this is where
the two have to fit: every hole that reading can leave is one that binding and minting can fill.

* `Node.holes` are the holes of a tree; `Definition.Covered.mem_names_of_hole`: each hole of a
  template is a name of the layer, and `Definition.get_isOk`: a name of the layer is found among the
  actuals of a call.
* `Node.Closes`: a statement of the template, and what it becomes.
* `Definition.Closing` lists all that can come of entering a layer.  Either the template is closed,
  or a parameter that is called does not name anything, or a register cannot be named.
* `Definition.generate_closes` is the theorem.

**Design.** A failure over a parameter has two forms, since a value that is too long to be written
cannot be shown in a diagnostic.
-/

namespace Laminar

/-! ### Holes -/

mutual

/-- The leaves of a tree, in order.  The callee of a call is one of them. -/
def Node.leaves : Node → List Node
  | .parameters entries => leavesEntries entries
  | .call callee args => Node.ofValue callee :: leavesAll args
  | .assign target value => target.leaves ++ value.leaves
  | .block statements => leavesAll statements
  | n => [n]
termination_by structural n => n

/-- The leaves of several trees. -/
def leavesAll : List Node → List Node
  | [] => []
  | n :: ns => n.leaves ++ leavesAll ns
termination_by structural ns => ns

/-- The leaves of an entry of a parameter block. -/
def Entry.leaves : Entry → List Node
  | .keyword _ value => value.leaves
  | .other node => node.leaves
termination_by structural e => e

/-- The leaves of a parameter block. -/
def leavesEntries : List Entry → List Node
  | [] => []
  | e :: es => e.leaves ++ leavesEntries es
termination_by structural es => es

end

theorem leavesAll_eq_flatMap (ns : List Node) : leavesAll ns = ns.flatMap Node.leaves := by
  induction ns with
  | nil => rfl
  | cons n ns ih => exact congrArg (n.leaves ++ ·) ih

theorem leavesEntries_eq_flatMap (es : List Entry) :
    leavesEntries es = es.flatMap Entry.leaves := by
  induction es with
  | nil => rfl
  | cons e es ih => exact congrArg (e.leaves ++ ·) ih

/-- The name of a hole. -/
def Node.hole? : Node → Option String
  | .placeholder name => some name
  | .splat name => some name
  | _ => none

/-- The names of the holes of a tree. -/
def Node.holes (n : Node) : List String := n.leaves.filterMap Node.hole?

/-- What may stand as an argument is a leaf. -/
theorem Node.IsArgument.leaves_eq {n : Node} (h : n.IsArgument) : n.leaves = [n] := by
  cases n
  case symbol | const | deferred => rfl
  all_goals exact h.elim

/-- What may stand as an argument is no hole. -/
theorem Node.IsArgument.hole?_eq_none {n : Node} (h : n.IsArgument) : n.hole? = none := by
  cases n
  case symbol | const | deferred => rfl
  all_goals exact h.elim

/-- The leaves of the arguments of a call in a body are what is evaluated for it. -/
theorem OrdinaryArguments.mem_argumentNodes {args : List Node} (h : OrdinaryArguments args)
    {leaf : Node} (hleaf : leaf ∈ leavesAll args) : leaf ∈ argumentNodes args := by
  have positional (hleaf : leaf ∈ leavesAll (positionalNodes args)) :
      leaf ∈ argumentNodes args := by
    rw [leavesAll_eq_flatMap, List.mem_flatMap] at hleaf
    obtain ⟨n, hn, hleaf⟩ := hleaf
    have hmem : n ∈ argumentNodes args := List.mem_append_right _ hn
    rw [(h.nodes n hmem).leaves_eq, List.mem_singleton] at hleaf
    rwa [hleaf]
  have named (hleaf : leaf ∈ leavesEntries (blockEntries args)) : leaf ∈ argumentNodes args := by
    rw [leavesEntries_eq_flatMap, List.mem_flatMap] at hleaf
    obtain ⟨e, he, hleaf⟩ := hleaf
    obtain ⟨name, n, rfl⟩ := h.entries e he
    have hmem : n ∈ argumentNodes args :=
      List.mem_append_left _ (List.mem_filterMap.2 ⟨_, he, rfl⟩)
    replace hleaf : leaf ∈ n.leaves := hleaf
    rw [(h.nodes n hmem).leaves_eq, List.mem_singleton] at hleaf
    rwa [hleaf]
  rcases args with _ | ⟨n, rest⟩
  · cases hleaf
  · cases n
    case parameters entries =>
      rcases List.mem_append.1 hleaf with hleaf | hleaf
      · exact named hleaf
      · exact positional hleaf
    all_goals exact positional hleaf

namespace Definition

variable {d : Definition} {b : Binding} {closure : List (String × Value)} {out : String} {n : Int}

/-! ### Looking holes up -/

/-- Every local stands for a register, which is a text. -/
theorem get_local (hnodup : d.locals.Nodup) {name : String} (h : name ∈ d.locals) :
    ∃ r, (d.actuals b closure out n).get name = .ok (.str r) := by
  obtain ⟨v, hv, hget⟩ := exists_of_forall₂ (get_locals hnodup) h
  rw [registers, List.mem_append, List.mem_map, List.mem_singleton] at hv
  rcases hv with ⟨m, -, rfl⟩ | rfl
  · exact ⟨mint m.1 m.2, hget⟩
  · exact ⟨out, hget⟩

/-- **Every name of a layer stands for something.** -/
theorem get_isOk (hnodup : d.locals.Nodup) (hbound : d.signature.BoundBy b) {name : String}
    (h : name ∈ d.locals ∨ name ∈ d.signature.names) :
    ∃ v, (d.actuals b closure out n).get name = .ok v := by
  by_cases hlocal : name ∈ d.locals
  · obtain ⟨r, hget⟩ := get_local hnodup hlocal
    exact ⟨_, hget⟩
  · cases hvalue : b.get? name with
    | some v => exact ⟨v, get_formal hlocal hvalue⟩
    | none =>
      have hname := h.resolve_left hlocal
      have notFormal : ¬ (name ∈ d.signature.inputs ∨ name ∈ d.signature.parameterNames) := by
        rw [← hbound.get?_isSome_iff, hvalue]
        exact Bool.false_ne_true
      rw [Signature.names, List.mem_append, List.mem_append] at hname
      have hcollector := Option.mem_toList.1 (hname.resolve_left notFormal)
      exact ⟨_, get_collector hlocal hvalue hcollector⟩

/-- The name that a term leaves a hole for is a name of the layer. -/
theorem Covered.mem_names_of_term (h : d.Covered) {globals : ScopeId} {t : Term} (ht : t ∈ d.terms)
    {leaf : Node} (hleaf : leaf ∈ (termNode globals t).leaves) {name : String}
    (hname : leaf.hole? = some name) : name ∈ d.locals ∨ name ∈ d.signature.names := by
  cases t with
  | symbol x =>
    obtain rfl := List.mem_singleton.1 hleaf
    obtain rfl : x = name := Option.some.inj hname
    rcases List.mem_append.1 (h.symbol x ht) with hinput | hlocal
    · exact .inr (List.mem_append_left _ (List.mem_append_left _ hinput))
    · exact .inl hlocal
  | parameter p =>
    obtain rfl := List.mem_singleton.1 hleaf
    obtain rfl : p = name := Option.some.inj hname
    rcases (h.parameter p ht).2 with hparameter | hcollector
    · exact .inr (List.mem_append_left _ (List.mem_append_right _ hparameter))
    · exact .inr (List.mem_append_right _ (Option.mem_toList.2 hcollector))
  | literal v =>
    obtain rfl := List.mem_singleton.1 hleaf
    cases hname
  | deferred text e =>
    obtain rfl := List.mem_singleton.1 hleaf
    cases hname

/-- The same for a call. -/
theorem Covered.mem_names_of_call (h : d.Covered) {s : BodyStatement} (hs : s ∈ d.body)
    {leaf : Node} (hleaf : leaf ∈ (d.callNode s.call).leaves) {name : String}
    (hname : leaf.hole? = some name) : name ∈ d.locals ∨ name ∈ d.signature.names := by
  have positional (hleaf : leaf ∈ leavesAll (s.call.args.map (termNode d.surroundings.globals))) :
      name ∈ d.locals ∨ name ∈ d.signature.names := by
    rw [leavesAll_eq_flatMap, List.flatMap_map, List.mem_flatMap] at hleaf
    obtain ⟨t, ht, hleaf⟩ := hleaf
    exact h.mem_names_of_term (mem_terms_of_argument hs ht) hleaf hname
  rcases List.mem_cons.1 hleaf with rfl | hleaf
  · cases hcallee : s.call.callee with
    | fixed callee =>
      rw [hcallee] at hname
      cases hname
    | parameter p =>
      rw [hcallee] at hname
      obtain rfl : p = name := Option.some.inj hname
      exact .inr (List.mem_append_left _ (List.mem_append_right _ (h.callee s hs p hcallee)))
  · rw [withParameters] at hleaf
    split at hleaf
    · exact positional hleaf
    rcases List.mem_append.1 hleaf with hleaf | hleaf
    swap
    · exact positional hleaf
    replace hleaf : leaf ∈ leavesEntries (s.call.keywords.map (keywordEntry d.surroundings.globals
      (d.signature.collector.getD ""))) := hleaf
    rw [leavesEntries_eq_flatMap, List.flatMap_map, List.mem_flatMap] at hleaf
    obtain ⟨k, hk, hleaf⟩ := hleaf
    cases k with
    | named key t =>
      have ht : t ∈ d.terms := mem_terms_of_keyword hs (List.mem_filterMap.2 ⟨_, hk, rfl⟩)
      exact h.mem_names_of_term ht hleaf hname
    | forward =>
      obtain ⟨own, hown⟩ := Option.isSome_iff_exists.1 (h.forward s hs hk)
      obtain rfl := List.mem_singleton.1 hleaf
      rw [hown] at hname
      obtain rfl : own = name := Option.some.inj hname
      exact .inr (List.mem_append_right _ (Option.mem_toList.2 hown))

/-- **The holes of a template** are names of the layer. -/
theorem Covered.mem_names_of_hole (h : d.Covered) {name : String}
    (hname : name ∈ d.template.holes) : name ∈ d.locals ∨ name ∈ d.signature.names := by
  obtain ⟨leaf, hleaf, hhole⟩ := List.mem_filterMap.1 hname
  have hstatements : d.template.leaves = leavesAll (d.body.flatMap d.statementNodes) := rfl
  rw [hstatements, leavesAll_eq_flatMap, List.flatMap_assoc, List.mem_flatMap] at hleaf
  obtain ⟨s, hs, hleaf⟩ := hleaf
  rw [statementNodes, List.flatMap_cons, List.flatMap_cons, List.flatMap_nil, List.append_nil,
    List.mem_append] at hleaf
  rcases hleaf with hleaf | hleaf
  · obtain rfl := List.mem_singleton.1 hleaf
    cases hhole
  rcases List.mem_append.1 hleaf with hleaf | hleaf
  · obtain rfl := List.mem_singleton.1 hleaf
    obtain rfl : s.target = name := Option.some.inj hhole
    exact .inl (List.mem_map_of_mem hs)
  · exact h.mem_names_of_call hs hleaf hhole

/-! ### Filling a body in -/

/-- Entering a layer with a call that is bound: registers are named for the inner locals, then the
body is filled in. -/
def enter (d : Definition) (b : Binding) (closure : List (String × Value)) (out : String)
    (n : Int) : Except Failure Node :=
  if (firstUnwritable d.inner.length n).isSome then .error (.fault .digitLimit)
  else d.instantiate b closure out n

/-- A layer that is called is entered once the call is bound. -/
theorem generate_of_bindCall {args : List Value} {output : Value} {keywords : List (String × Value)}
    (h : d.bindCall args output keywords = .ok (b, out)) :
    (d.generate closure args output keywords n).1 = d.enter b closure out n := by
  rw [generate, h, enter]
  cases firstUnwritable d.inner.length n <;> rfl

/-- A call is bound if its inputs and its output are texts. -/
theorem bindCall_of_texts {args : List Value} {output : Value} {keywords : List (String × Value)}
    (hbind : d.signature.bind args keywords = .ok b)
    (hinputs : ∀ x ∈ d.signature.inputs, ∃ v s, b.get? x = some v ∧ v.bare = .str s)
    (hout : output.bare = .str out) : d.bindCall args output keywords = .ok (b, out) := by
  have hchecked : checkSymbol ("output of " ++ d.name) output = .ok out := by
    rw [checkSymbol, hout]
    rfl
  simp only [bindCall, bind_eq_ok, liftFault_eq_ok, mapError_eq_ok, pure_eq_ok]
  exact ⟨b, hbind, (), checkInputs_of_texts hinputs, out, hchecked, rfl⟩

/-- A parameter that is called is bound to a value that names nothing. -/
def CallsUnnamed (d : Definition) (b : Binding) (v : Value) : Prop :=
  ∃ s ∈ d.body, ∃ p ∈ d.signature.parameterNames, s.call.callee = .parameter p ∧
    b.get? p = some v ∧ ∀ name, v.bare ≠ .str name

/-- A callee can be filled in unless it is a parameter that names nothing. -/
theorem fillCallee_cases (hcovered : d.Covered) (hbound : d.signature.BoundBy b) {s : BodyStatement}
    (hs : s ∈ d.body) :
    (∃ callee, fillCallee (d.actuals b closure out n) s.call.callee = .ok callee) ∨
      ∃ v, d.CallsUnnamed b v ∧ fillCallee (d.actuals b closure out n) s.call.callee =
        .error (Problem.calleeNotText v).failure := by
  cases hcallee : s.call.callee with
  | fixed name => exact .inl ⟨_, rfl⟩
  | parameter p =>
    have hp := hcovered.callee s hs p hcallee
    obtain ⟨v, hv⟩ := hbound.exists_get? (.inr hp)
    rw [fillCallee, get_formal (hcovered.not_local (.inr hp)) hv, ok_bind]
    split
    · exact .inl ⟨_, rfl⟩
    · rename_i notText
      exact .inr ⟨v, ⟨s, hs, p, hp, hcallee, hv, notText⟩, rfl⟩

section Filling

variable (hcovered : d.Covered) (hnodup : d.locals.Nodup) (hbound : d.signature.BoundBy b)

include hcovered hnodup hbound

/-- Every term of a body can be filled in. -/
theorem exists_fillTerm {t : Term} (ht : t ∈ d.terms) :
    ∃ node, fillTerm d.surroundings.globals (d.actuals b closure out n) t = .ok node := by
  have found {name : String} (hleaf : Node.placeholder name ∈
      (termNode d.surroundings.globals t).leaves) :
      ∃ v, (d.actuals b closure out n).get name = .ok v :=
    get_isOk hnodup hbound (hcovered.mem_names_of_term ht hleaf rfl)
  cases t with
  | symbol x =>
    obtain ⟨v, hv⟩ := found (List.mem_singleton_self _)
    exact ⟨.symbol v, by rw [fillTerm, hv]; rfl⟩
  | parameter p =>
    obtain ⟨v, hv⟩ := found (List.mem_singleton_self _)
    exact ⟨.const v, by rw [fillTerm, hv]; rfl⟩
  | literal v => exact ⟨_, rfl⟩
  | deferred text e => exact ⟨_, rfl⟩

theorem exists_fillTerms {ts : List Term} (hts : ∀ t ∈ ts, t ∈ d.terms) :
    ∃ nodes, fillTerms d.surroundings.globals (d.actuals b closure out n) ts = .ok nodes := by
  induction ts with
  | nil => exact ⟨[], rfl⟩
  | cons t ts ih =>
    obtain ⟨ht, hrest⟩ := List.forall_mem_cons.1 hts
    obtain ⟨node, hnode⟩ := exists_fillTerm hcovered hnodup hbound ht
    obtain ⟨nodes, hnodes⟩ := ih hrest
    exact ⟨node :: nodes, by rw [fillTerms, hnode, hnodes]; rfl⟩

theorem exists_fillKeywords {ks : List KeywordTerm}
    (hks : ∀ t ∈ ks.filterMap KeywordTerm.term?, t ∈ d.terms) :
    ∃ entries, fillKeywords d.surroundings.globals (d.actuals b closure out n) ks =
      .ok entries := by
  induction ks with
  | nil => exact ⟨[], rfl⟩
  | cons k ks ih =>
    cases k with
    | named key t =>
      obtain ⟨ht, hrest⟩ := List.forall_mem_cons.1 hks
      obtain ⟨node, hnode⟩ := exists_fillTerm hcovered hnodup hbound ht
      obtain ⟨entries, hentries⟩ := ih hrest
      exact ⟨_, by rw [fillKeywords, hnode, hentries]; rfl⟩
    | forward =>
      obtain ⟨entries, hentries⟩ := ih hks
      exact ⟨_, by rw [fillKeywords, hentries]; rfl⟩

/-- A statement can be filled in unless its callee cannot. -/
theorem filled_of_fillCallee {s : BodyStatement} (hs : s ∈ d.body) {callee : Value}
    (hcallee : fillCallee (d.actuals b closure out n) s.call.callee = .ok callee) :
    ∃ call, Filled d (d.actuals b closure out n) s call := by
  obtain ⟨r, htarget⟩ := get_local hnodup (List.mem_map_of_mem hs)
  obtain ⟨entries, hentries⟩ :=
    exists_fillKeywords hcovered hnodup hbound fun t => mem_terms_of_keyword hs
  obtain ⟨nodes, hnodes⟩ :=
    exists_fillTerms hcovered hnodup hbound fun t => mem_terms_of_argument hs
  exact ⟨⟨callee, _, .str r⟩, htarget, hcallee, entries, nodes, hentries, hnodes, rfl⟩

/-- **A body can be filled in**, unless a parameter that it calls names nothing. -/
theorem fillBody_cases (closure : List (String × Value)) (out : String) (n : Int)
    {body : List BodyStatement} (hbody : ∀ s ∈ body, s ∈ d.body) :
    (∃ statements, fillBody d.file d.surroundings.globals (d.actuals b closure out n) body =
        .ok statements) ∨
      ∃ v, d.CallsUnnamed b v ∧
        fillBody d.file d.surroundings.globals (d.actuals b closure out n) body =
          .error (Problem.calleeNotText v).failure := by
  induction body with
  | nil => exact .inl ⟨[], rfl⟩
  | cons s rest ih =>
    obtain ⟨hs, hrest⟩ := List.forall_mem_cons.1 hbody
    obtain ⟨r, htarget⟩ : ∃ r, (d.actuals b closure out n).get s.target = .ok (.str r) :=
      get_local hnodup (List.mem_map_of_mem hs)
    rcases fillCallee_cases hcovered hbound hs with ⟨callee, hcallee⟩ | ⟨v, hv, herror⟩
    · obtain ⟨call, hfilled⟩ := filled_of_fillCallee hcovered hnodup hbound hs hcallee
      rcases ih hrest with ⟨others, hothers⟩ | ⟨v, hv, herror⟩
      · exact .inl ⟨_, fillBody_cons_of_filled hfilled hothers⟩
      · refine .inr ⟨v, hv, ?_⟩
        obtain ⟨entries, nodes, hentries, hnodes, -⟩ := hfilled.args
        rw [fillBody, htarget, ok_bind, fillCall, hfilled.callee, ok_bind, hentries, ok_bind,
          hnodes, ok_bind, herror]
        rfl
    · refine .inr ⟨v, hv, ?_⟩
      rw [fillBody, htarget, ok_bind, fillCall, herror]
      rfl

end Filling

end Definition

/-! ### What a template becomes -/

/-- What a statement of a template becomes: a line mark stays, and the call of an assignment is
closed, has a name as its callee and is bound to a register. -/
inductive Node.Closes : Node → Node → Prop where
  | line (number : Int) (file : SourceFile) : Closes (.line number file) (.line number file)
  | assign {target value : Node} {register callee : String} {args : List Node}
      (closed : (Node.call (.str callee) args).holes = []) :
      Closes (.assign target value) (.assign (.symbol (.str register)) (.call (.str callee) args))

namespace Definition

variable {d : Definition} {b : Binding} {closure : List (String × Value)} {out : String} {n : Int}

/-- A statement that is filled in is closed. -/
theorem closes_of_filled (hnodup : d.locals.Nodup) {s : BodyStatement} (hs : s ∈ d.body)
    {call : Pending} (h : Filled d (d.actuals b closure out n) s call) :
    Node.Closes (.assign (.placeholder s.target) (d.callNode s.call))
      (.assign (.symbol call.output) (.call call.callee call.args)) := by
  obtain ⟨r, htarget⟩ : ∃ r, (d.actuals b closure out n).get s.target = .ok (.str r) :=
    get_local hnodup (List.mem_map_of_mem hs)
  obtain ⟨callee, hcallee, -⟩ := h.callee_eq_str
  rw [Except.ok.inj (h.target.symm.trans htarget), hcallee]
  refine .assign ?_
  have hargs := h.ordinaryArguments
  rw [Node.holes, List.filterMap_eq_nil_iff]
  intro leaf hleaf
  rcases List.mem_cons.1 hleaf with rfl | hleaf
  · rfl
  · exact (hargs.nodes leaf (hargs.mem_argumentNodes hleaf)).hole?_eq_none

/-- **A body that is filled in is closed**, statement by statement. -/
theorem closes_of_fillBody (hnodup : d.locals.Nodup) {body : List BodyStatement}
    (hbody : ∀ s ∈ body, s ∈ d.body) {statements : List Node}
    (h : fillBody d.file d.surroundings.globals (d.actuals b closure out n) body =
      .ok statements) : List.Forall₂ Node.Closes (body.flatMap d.statementNodes) statements := by
  induction body generalizing statements with
  | nil =>
    cases pure_eq_ok.1 h
    exact .nil
  | cons s rest ih =>
    obtain ⟨hs, hrest⟩ := List.forall_mem_cons.1 hbody
    obtain ⟨call, others, hfilled, hothers, rfl⟩ := fillBody_cons_eq_ok h
    exact .cons (.line ..) (.cons (closes_of_filled hnodup hs hfilled) (ih hrest hothers))

/-- The statement at a position becomes a line mark and the assignment of a call. -/
theorem filled_of_getElem? {a : Actuals} {body : List BodyStatement} {statements : List Node}
    (h : fillBody d.file d.surroundings.globals a body = .ok statements) {i : Nat}
    {s : BodyStatement} (hs : body[i]? = some s) :
    ∃ call, Filled d a s call ∧ statements[2 * i]? = some (.line s.line d.file) ∧
      statements[2 * i + 1]? =
        some (.assign (.symbol call.output) (.call call.callee call.args)) := by
  induction body generalizing statements i with
  | nil => simp at hs
  | cons first rest ih =>
    obtain ⟨call, others, hfilled, hothers, rfl⟩ := fillBody_cons_eq_ok h
    cases i with
    | zero =>
      obtain rfl : first = s := by simpa using hs
      exact ⟨call, hfilled, rfl, rfl⟩
    | succ i =>
      obtain ⟨call, hfilled, hline, hassign⟩ := ih hothers (by simpa using hs)
      exact ⟨call, hfilled, hline, hassign⟩

theorem length_of_fillBody {a : Actuals} {body : List BodyStatement} {statements : List Node}
    (h : fillBody d.file d.surroundings.globals a body = .ok statements) :
    statements.length = 2 * body.length := by
  induction body generalizing statements with
  | nil =>
    cases pure_eq_ok.1 h
    rfl
  | cons s rest ih =>
    obtain ⟨call, others, -, hothers, rfl⟩ := fillBody_cons_eq_ok h
    have hlength := ih hothers
    simp only [List.length_cons]
    omega

/-- The local that names the result stands for the output. -/
theorem get_output (hnodup : d.locals.Nodup) :
    (d.actuals b closure out n).get d.output = .ok (.str out) := by
  have hmem : (d.output, Value.str out) ∈ d.locals.zip (d.registers out n) := by
    rw [locals_eq, registers, List.zip_append (by simp)]
    exact List.mem_append_right _ (List.mem_singleton_self _)
  exact (List.forall₂_iff_zip.1 (get_locals hnodup)).2 hmem

/-- The last statement binds the output. -/
theorem getLast?_of_fillBody (hnodup : d.locals.Nodup) {statements : List Node}
    (h : fillBody d.file d.surroundings.globals (d.actuals b closure out n) d.body =
      .ok statements) :
    ∃ callee args, statements.getLast? =
      some (.assign (.symbol (.str out)) (.call callee args)) := by
  have hlast : d.body[d.inner.length]? = some d.last := by simp [body]
  obtain ⟨call, hfilled, -, hassign⟩ := filled_of_getElem? h hlast
  have hlength := length_of_fillBody h
  have houtput : call.output = .str out :=
    Except.ok.inj (hfilled.target.symm.trans (get_output hnodup))
  refine ⟨call.callee, call.args, ?_⟩
  rw [List.getLast?_eq_getElem?, hlength, ← houtput, ← hassign]
  congr 1
  simp [body]
  omega

/-- All that can come of entering a layer. -/
inductive Closing (d : Definition) (b : Binding) (out : String) (n : Int) :
    Except Failure Node → Prop where
  /-- The template is closed, and the last register is the output. -/
  | closed {before after args : List Node} {callee : Value} (template : d.template = .block before)
      (closes : List.Forall₂ Node.Closes before after)
      (last : after.getLast? = some (.assign (.symbol (.str out)) (.call callee args))) :
      Closing d b out n (.ok (.block after))
  /-- A parameter that is called names nothing, and a malformed call is reported. -/
  | unnamed {v : Value} {dg : Diagnostic} (calls : d.CallsUnnamed b v) (shown : v.writable = true)
      (told : dg = (Problem.calleeNotText v).diagnostic)
      (kind : dg.problem.kind = .malformedCall) : Closing d b out n (.error (.diagnostic dg))
  /-- It names nothing, and it is too long to be reported. -/
  | unshown {v : Value} (calls : d.CallsUnnamed b v) (long : v.writable = false) :
      Closing d b out n (.error (.fault .digitLimit))
  /-- The number for an inner local is too long to be part of a name. -/
  | unmintable {k : Int} (lower : n ≤ k) (upper : k < n + d.inner.length)
      (long : intWritable k = false) : Closing d b out n (.error (.fault .digitLimit))

/-- **Entering a layer closes its template**, or it fails for one of three reasons. -/
theorem closing_enter (haccepted : d.Accepted) (hbound : d.signature.BoundBy b) :
    d.Closing b out n (d.enter b closure out n) := by
  have hcovered := haccepted.covered
  have hnodup := haccepted.wellFormed.nodup_locals
  rw [enter]
  cases hfirst : firstUnwritable d.inner.length n with
  | some k =>
    obtain ⟨hle, hlt, hlong⟩ := firstUnwritable_eq_some hfirst
    exact .unmintable hle hlt hlong
  | none =>
    rw [if_neg (by simp), instantiate]
    rcases fillBody_cases hcovered hnodup hbound closure out n fun s hs => hs with
      ⟨statements, hfill⟩ | ⟨v, hv, herror⟩
    · obtain ⟨callee, args, hlast⟩ := getLast?_of_fillBody hnodup hfill
      rw [hfill]
      exact .closed rfl (closes_of_fillBody hnodup (fun s hs => hs) hfill) hlast
    · rw [herror, error_bind, Problem.failure, Diagnostic.failure]
      split
      · rename_i hshown
        exact .unnamed hv hshown rfl rfl
      · rename_i hlong
        exact .unshown hv (Bool.eq_false_iff.2 hlong)

/-- **A call closes the template.** When the formals of an accepted layer are bound, its inputs to
texts, every hole of the template is found among the actuals.  Then the call yields the template
with every statement closed and the output as the last register, unless a parameter that is called
is bound to no text.  That is reported as a malformed call if the value can be written.  It fails
with a fault if it cannot, or if a register cannot be named. -/
theorem generate_closes (haccepted : d.Accepted) {args : List Value} {output : Value}
    {keywords : List (String × Value)} (hbind : d.signature.bind args keywords = .ok b)
    (hinputs : ∀ x ∈ d.signature.inputs, ∃ v s, b.get? x = some v ∧ v.bare = .str s)
    (hout : output.bare = .str out) (closure : List (String × Value)) (n : Int) :
    (∀ name ∈ d.template.holes, ∃ v, (d.actuals b closure out n).get name = .ok v) ∧
      d.Closing b out n (d.generate closure args output keywords n).1 := by
  have hbound : d.signature.BoundBy b := Signature.map_fst_of_bind hbind
  constructor
  · intro name hname
    exact get_isOk haccepted.wellFormed.nodup_locals hbound
      (haccepted.covered.mem_names_of_hole hname)
  · rw [generate_of_bindCall (bindCall_of_texts hbind hinputs hout)]
    exact closing_enter haccepted hbound

/-! ### An activation that names nothing -/

/-- A call of the layer `wf`, bound with an activation. -/
def boundActivation (activation : Value) : Binding := ⟨[("x", .str "a"), ("f", activation)], []⟩

theorem generate_wf (activation : Value) :
    (Standard.wf.generate [] [.str "a"] (.str "b") [("f", activation)] 7).1 =
      Standard.wf.instantiate (boundActivation activation) [] "b" 7 := by
  have hbind : Standard.wf.bindCall [.str "a"] (.str "b") [("f", activation)] =
      .ok (boundActivation activation, "b") := rfl
  have hfirst : firstUnwritable Standard.wf.inner.length 7 = none := by decide +kernel
  rw [generate_of_bindCall hbind, enter, hfirst]
  rfl

/-- **The layer `wf` with two activations.** The name of an activation closes the template.  A
number of 5001 digits does not, and the malformed call cannot be reported. -/
theorem wf_closes_unless_unnamed :
    (∃ after, (Standard.wf.generate [] [.str "a"] (.str "b") [("f", .str "tanh")] 7).1 =
        .ok (.block after) ∧
      Standard.wf.Closing (boundActivation (.str "tanh")) "b" 7 (.ok (.block after))) ∧
    (Standard.wf.generate [] [.str "a"] (.str "b") [("f", .int (10 ^ 5000))] 7).1 =
        .error (.fault .digitLimit) ∧
      Standard.wf.Closing (boundActivation (.int (10 ^ 5000))) "b" 7
        (.error (.fault .digitLimit)) := by
  have hinputs (v : Value) : ∀ x ∈ Standard.wf.signature.inputs,
      ∃ w s, (boundActivation v).get? x = some w ∧ w.bare = .str s := by
    intro x hx
    obtain rfl : x = "x" := List.mem_singleton.1 hx
    exact ⟨.str "a", "a", rfl, rfl⟩
  have hclosing (v : Value) : Standard.wf.Closing (boundActivation v) "b" 7
      (Standard.wf.generate [] [.str "a"] (.str "b") [("f", v)] 7).1 := by
    have hbind : Standard.wf.signature.bind [.str "a"] [("f", v)] = .ok (boundActivation v) := rfl
    have hout : (Value.str "b").bare = .str "b" := rfl
    exact (generate_closes Standard.accepted_wf hbind (hinputs v) hout [] 7).2
  constructor
  · have hname := hclosing (.str "tanh")
    rw [generate_wf] at hname ⊢
    exact ⟨_, rfl, hname⟩
  · have hnumber := hclosing (.int (10 ^ 5000))
    have hlong : (Value.int (10 ^ 5000)).writable = false := by decide +kernel
    have hrefused (k : Int) : Standard.wf.instantiate (boundActivation (.int k)) [] "b" 7 =
        .error (Problem.calleeNotText (.int k)).failure := rfl
    have hfault (v : Value) (h : v.writable = false) :
        (Problem.calleeNotText v).failure = .fault .digitLimit := if_neg (Bool.eq_false_iff.1 h)
    rw [generate_wf, hrefused, hfault _ hlong] at hnumber ⊢
    exact ⟨rfl, hnumber⟩

end Definition

end Laminar
