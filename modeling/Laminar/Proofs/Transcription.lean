import Mathlib
import Laminar.Proofs.Instance
import Laminar.Proofs.Language

/-!
# A body as it is written

A layer is read from the text of a function, and later theory often needs the way back: which
expression of the text stands behind a term of the body, and what the names in it can be.

* `BodyNames.ReadsTerm`, and one relation for each of the other parts of a call: what a part is
  written as and what it is read as.  A literal may have become an object since; nothing else
  changes when a layer is registered.
* `FunctionSource.Defines f d`: the function defines the layer.  `Definition.Transcribes` is what
  that amounts to, part by part, and `FunctionSource.Defines.transcribes` the theorem.
* `Definition.Covered`: every name in a body is bound when the layer is entered.  It follows from
  the transcription, since a call admits only names that the function has (`Accepted.covered`).
-/

namespace Laminar

open Source (Expr)

/-! ### Parts of a call -/

namespace BodyNames

variable (b : BodyNames)

/-- What an expression is read as. -/
inductive ReadsTerm : Expr → Term → Prop where
  | symbol {x : String} (h : x ∈ b.symbols) : ReadsTerm (.name x) (.symbol x)
  | parameter {p : String} (fresh : p ∉ b.symbols)
      (h : p ∈ b.parameters ∨ b.collector = some p) : ReadsTerm (.name p) (.parameter p)
  /-- The constant itself, as whatever object. -/
  | literal {l : Source.Literal} {v : Value} (h : v.bare = .ofLiteral l) :
      ReadsTerm (.literal l) (.literal v)
  | deferred {e : Expr} (h : b.Defers e) (free : ∀ x ∈ e.names, x ∉ b.symbols) :
      ReadsTerm e (.deferred e.text e)

/-- What a callee is read as. -/
inductive ReadsCallee : Expr → CalleeTerm → Prop where
  | fixed {name : String} (h : name ∉ b.parameters) : ReadsCallee (.name name) (.fixed name)
  | parameter {p : String} (h : p ∈ b.parameters) : ReadsCallee (.name p) (.parameter p)

/-- What a keyword is read as. -/
inductive ReadsKeyword : Source.Keyword → KeywordTerm → Prop where
  | named {name : String} {line : Nat} {e : Expr} {t : Term} (h : b.ReadsTerm e t) :
      ReadsKeyword (.named name line e) (.named name t)
  | forward {own : String} (h : b.collector = some own) :
      ReadsKeyword (.forward (.name own)) .forward

/-- What an assignment of a call is read as. -/
structure ReadsStatement (a : CallAssignment) (s : BodyStatement) : Prop where
  line : s.line = a.line
  target : s.target = a.target
  callee : b.ReadsCallee a.callee s.call.callee
  keywords : List.Forall₂ b.ReadsKeyword a.keywords s.call.keywords
  args : List.Forall₂ (fun x t => b.ReadsTerm x.value t) a.args s.call.args

variable {b}

theorem readsTerm_of_readDeferred {line : Nat} {e : Expr} {t : Term} (hdefers : b.Defers e)
    (h : b.readDeferred line e = .ok t) : b.ReadsTerm e t := by
  obtain ⟨text, htext, h⟩ := bind_eq_ok.1 h
  have htext' : e.text = text := by
    rw [Expr.written] at htext
    split at htext
    · exact pure_eq_ok.1 htext
    · exact absurd htext throw_ne_ok
  split at h
  · rename_i hnone _
    cases pure_eq_ok.1 h
    rw [← htext']
    exact .deferred hdefers (mentioned_eq_nil_iff.1 hnone)
  · exact absurd h throw_ne_ok
  · exact absurd h throw_ne_ok

theorem readsTerm_of_readTerm {line : Nat} {e : Expr} {t : Term} (h : b.readTerm line e = .ok t) :
    b.ReadsTerm e t := by
  cases e
  case name id =>
    rw [readTerm] at h
    by_cases hsymbol : id ∈ b.symbols
    · rw [if_pos (List.contains_iff_mem.2 hsymbol)] at h
      cases pure_eq_ok.1 h
      exact .symbol hsymbol
    · rw [if_neg (by simpa using hsymbol)] at h
      split at h
      · rename_i hbound
        cases pure_eq_ok.1 h
        exact .parameter hsymbol (by simpa using hbound)
      · rename_i hbound
        have hdefers : b.Defers (.name id) := ⟨hsymbol, by simpa using hbound⟩
        exact readsTerm_of_readDeferred hdefers h
  case literal value =>
    cases pure_eq_ok.1 h
    exact .literal (by cases value <;> rfl)
  all_goals exact readsTerm_of_readDeferred trivial h

theorem readsCallee_of_readCallee {line : Nat} {e : Expr} {t : CalleeTerm}
    (h : b.readCallee line e = .ok t) : b.ReadsCallee e t := by
  unfold readCallee at h
  split at h
  · split at h
    · rename_i hparameter
      cases pure_eq_ok.1 h
      exact .parameter (List.contains_iff_mem.1 hparameter)
    · rename_i hparameter
      split at h
      · exact absurd h throw_ne_ok
      · cases pure_eq_ok.1 h
        exact .fixed (by simpa using hparameter)
  · obtain ⟨text, -, h⟩ := bind_eq_ok.1 h
    exact absurd h throw_ne_ok

theorem readsKeywords_of_readKeywords {line : Nat} {keywords : List Source.Keyword}
    {read : List KeywordTerm} (h : b.readKeywords line keywords = .ok read) :
    List.Forall₂ b.ReadsKeyword keywords read := by
  induction keywords generalizing read with
  | nil =>
    cases pure_eq_ok.1 h
    exact .nil
  | cons k rest ih =>
    cases k with
    | named name valueLine value =>
      simp only [readKeywords, bind_eq_ok, pure_eq_ok] at h
      obtain ⟨term, hterm, others, hothers, rfl⟩ := h
      exact .cons (.named (readsTerm_of_readTerm hterm)) (ih hothers)
    | forward value =>
      -- What is not the collector itself is foreign and refused.
      have hadmits := ((judged_readKeywords (b := b) line _).success.1 (by rw [h]; rfl)).1
      obtain ⟨own, hown, rfl⟩ := (List.forall_mem_cons.1 hadmits).1
      rw [readKeywords, hown] at h
      simp only [if_true, bind_eq_ok, pure_eq_ok] at h
      obtain ⟨others, hothers, rfl⟩ := h
      exact .cons (.forward hown) (ih hothers)

theorem readsArguments_of_readArguments {line : Nat} {args : List Source.Argument}
    {read : List Term} (h : b.readArguments line args = .ok read) :
    List.Forall₂ (fun x t => b.ReadsTerm x.value t) args read := by
  induction args generalizing read with
  | nil =>
    cases pure_eq_ok.1 h
    exact .nil
  | cons a rest ih =>
    unfold readArguments at h
    split at h
    · rename_i heq
      cases heq
    · obtain ⟨text, -, h⟩ := bind_eq_ok.1 h
      exact absurd h throw_ne_ok
    · rename_i heq
      cases heq
      simp only [bind_eq_ok, pure_eq_ok] at h
      obtain ⟨term, hterm, others, hothers, rfl⟩ := h
      exact .cons (readsTerm_of_readTerm hterm) (ih hothers)

/-- **What the calls of a body are read as.** -/
theorem readsStatements_of_readBody {assignments : List CallAssignment}
    {statements : List BodyStatement} (h : b.readBody assignments = .ok statements) :
    List.Forall₂ b.ReadsStatement assignments statements := by
  induction assignments generalizing statements with
  | nil =>
    cases pure_eq_ok.1 h
    exact .nil
  | cons a rest ih =>
    simp only [readBody, readStatement, bind_eq_ok, pure_eq_ok] at h
    obtain ⟨s, ⟨callee, hcallee, keywords, hkeywords, args, hargs, rfl⟩, others, hothers, rfl⟩ := h
    refine .cons ⟨rfl, rfl, ?_, ?_, ?_⟩ (ih hothers)
    · exact readsCallee_of_readCallee hcallee
    · exact readsKeywords_of_readKeywords hkeywords
    · exact readsArguments_of_readArguments hargs

/-! ### Literals as objects -/

/-- A constant that becomes an object is still the same constant. -/
theorem bare_labelled_of_bare {l : Source.Literal} {v : Value} (h : v.bare = .ofLiteral l)
    (lasting : Bool) (n : Nat) : (v.labelled lasting n).1.bare = .ofLiteral l := by
  have plain : ((Value.ofLiteral l).labelled lasting n).1.bare = .ofLiteral l := by
    cases l
    all_goals
      simp only [Value.ofLiteral, Value.labelled]
      split <;> rfl
  have hform : (∃ id, v = .kept id (.ofLiteral l)) ∨ v = .ofLiteral l := by
    rw [← h]
    cases v
    case kept id w => exact .inl ⟨id, rfl⟩
    all_goals exact .inr rfl
  rcases hform with ⟨id, rfl⟩ | rfl
  · cases id
    case new => exact plain
    all_goals rfl
  · exact plain

theorem readsTerm_labelTerm {e : Expr} {t : Term} (h : b.ReadsTerm e t) (n : Nat) :
    b.ReadsTerm e (Definition.labelTerm n t).1 := by
  cases h with
  | literal h => exact .literal (bare_labelled_of_bare h true n)
  | symbol h => exact .symbol h
  | parameter fresh h => exact .parameter fresh h
  | deferred h free => exact .deferred h free

theorem readsTerms_labelTerms {args : List Source.Argument} {ts : List Term}
    (h : List.Forall₂ (fun x t => b.ReadsTerm x.value t) args ts) (n : Nat) :
    List.Forall₂ (fun x t => b.ReadsTerm x.value t) args (Definition.labelTerms n ts).1 := by
  induction h generalizing n with
  | nil => exact .nil
  | cons first _ ih => exact .cons (readsTerm_labelTerm first n) (ih _)

theorem readsKeywords_labelKeywords {keywords : List Source.Keyword} {ks : List KeywordTerm}
    (h : List.Forall₂ b.ReadsKeyword keywords ks) (n : Nat) :
    List.Forall₂ b.ReadsKeyword keywords (Definition.labelKeywords n ks).1 := by
  induction h generalizing n with
  | nil => exact .nil
  | cons first _ ih =>
    cases first with
    | named hterm => exact .cons (.named (readsTerm_labelTerm hterm n)) (ih _)
    | forward hown => exact .cons (.forward hown) (ih _)

theorem ReadsStatement.labelStatement {a : CallAssignment} {s : BodyStatement}
    (h : b.ReadsStatement a s) (n : Nat) :
    b.ReadsStatement a (Definition.labelStatement n s).1 where
  line := h.line
  target := h.target
  callee := h.callee
  keywords := readsKeywords_labelKeywords h.keywords n
  args := readsTerms_labelTerms h.args _

theorem readsStatements_labelStatements {assignments : List CallAssignment}
    {body : List BodyStatement} (h : List.Forall₂ b.ReadsStatement assignments body) (n : Nat) :
    List.Forall₂ b.ReadsStatement assignments (Definition.labelStatements n body).1 := by
  induction h generalizing n with
  | nil => exact .nil
  | cons first _ ih => exact .cons (first.labelStatement n) (ih _)

end BodyNames

/-! ### Definitions -/

/-- A function defines the layer that it is read as, also after its literals have become objects. -/
inductive FunctionSource.Defines (f : FunctionSource) : Definition → Prop where
  | read {layer : String} {around : Surroundings} {file : SourceFile} {d : Definition}
      (h : Definition.read layer f around file = .ok d) : Defines f d
  | labelled {d : Definition} (n : Nat) (h : Defines f d) : Defines f (d.labelled n).1

/-- The names that the body of a layer can use. -/
def Definition.bodyNames (d : Definition) : BodyNames where
  layer := d.name
  symbols := d.symbolNames
  parameters := d.signature.parameterNames
  collector := d.signature.collector

/-- **A layer as a transcript of a function**: the function is in the language of layers, and
signature and calls of the layer are those of the function. -/
structure Definition.Transcribes (d : Definition) (f : FunctionSource) : Prop where
  inLanguage : f.InLanguage
  signature : d.signature = f.signature
  body : List.Forall₂ d.bodyNames.ReadsStatement f.assignments d.body

/-- What a function defines is accepted. -/
theorem FunctionSource.Defines.accepted {f : FunctionSource} {d : Definition} (h : f.Defines d) :
    d.Accepted := by
  induction h with
  | read h => exact .read h
  | labelled n _ ih => exact .labelled n ih

theorem Definition.exists_defines_of_accepted {d : Definition} (h : d.Accepted) :
    ∃ f : FunctionSource, f.Defines d := by
  induction h with
  | read h => exact ⟨_, .read h⟩
  | labelled n _ ih =>
    obtain ⟨f, hf⟩ := ih
    exact ⟨f, .labelled n hf⟩

theorem Definition.transcribes_of_read {layer : String} {f : FunctionSource}
    {around : Surroundings} {file : SourceFile} {d : Definition}
    (h : Definition.read layer f around file = .ok d) : d.Transcribes f := by
  have hin := ((decided_read layer f around file).success.1 (by rw [h]; rfl)).1
  simp only [Definition.read, bind_eq_ok] at h
  obtain ⟨⟨⟩, -, signature, hsignature, h⟩ := h
  rw [readSignature_of_noRest layer hin.noRest] at hsignature
  obtain rfl : f.signature = signature := Except.ok.inj hsignature
  obtain ⟨assignments, statements, last, hassignments, -, hread, hlast, rfl⟩ := readBody_eq_ok h
  rw [readAssignments_of_inShape layer hin.shaped] at hassignments
  obtain rfl : f.assignments = assignments := Except.ok.inj hassignments
  have hbody : statements.dropLast ++ [last] = statements := List.dropLast_append_getLast? _ hlast
  have hstatements := BodyNames.readsStatements_of_readBody hread
  rw [← (BodyNames.readBody_eq_ok hread).1, ← hbody] at hstatements
  exact ⟨hin, rfl, hstatements⟩

theorem Definition.labelStatements_concat (n : Nat) (body : List BodyStatement)
    (last : BodyStatement) :
    (labelStatements n (body ++ [last])).1 =
      (labelStatements n body).1 ++ [(labelStatement (labelStatements n body).2 last).1] := by
  induction body generalizing n with
  | nil => rfl
  | cons s rest ih => exact congrArg ((labelStatement n s).1 :: ·) (ih _)

theorem Definition.Transcribes.labelled {d : Definition} {f : FunctionSource}
    (h : d.Transcribes f) (n : Nat) : (d.labelled n).1.Transcribes f where
  inLanguage := h.inLanguage
  signature := h.signature
  body := by
    have hnames : (d.labelled n).1.bodyNames = d.bodyNames := by
      rw [bodyNames, symbolNames, locals_labelled]
      rfl
    have hbody := BodyNames.readsStatements_labelStatements h.body n
    rw [Definition.body, labelStatements_concat] at hbody
    rw [hnames]
    exact hbody

/-- **A layer is a transcript of the function that defines it.** -/
theorem FunctionSource.Defines.transcribes {f : FunctionSource} {d : Definition}
    (h : f.Defines d) : d.Transcribes f := by
  induction h with
  | read h => exact Definition.transcribes_of_read h
  | labelled n _ ih => exact ih.labelled n

/-! ### Names that are bound -/

/-- The names in a body are names of the layer: a symbol stands for an input or a local, a parameter
for a parameter or the collector, a callee that is no fixed name is a parameter, and only a layer
that collects keywords hands them on. -/
structure Definition.Covered (d : Definition) : Prop where
  symbol : ∀ x, .symbol x ∈ d.terms → x ∈ d.symbolNames
  parameter : ∀ p, .parameter p ∈ d.terms →
    p ∉ d.symbolNames ∧ (p ∈ d.signature.parameterNames ∨ d.signature.collector = some p)
  callee : ∀ s ∈ d.body, ∀ p, s.call.callee = .parameter p → p ∈ d.signature.parameterNames
  forward : ∀ s ∈ d.body, .forward ∈ s.call.keywords → d.signature.collector.isSome
  /-- No local is named like a formal or like the collector. -/
  fresh : ∀ x ∈ d.locals, x ∉ d.signature.names

namespace BodyNames.ReadsStatement

variable {b : BodyNames} {a : CallAssignment} {s : BodyStatement}

/-- Behind every term of a call stands an expression. -/
theorem exists_readsTerm (h : b.ReadsStatement a s) {t : Term} (ht : t ∈ s.call.terms) :
    ∃ e, b.ReadsTerm e t := by
  rcases List.mem_append.1 ht with ht | ht
  · obtain ⟨k, hk, hterm⟩ := List.mem_filterMap.1 ht
    obtain ⟨keyword, -, hread⟩ := exists_of_forall₂ h.keywords.flip hk
    cases hread with
    | named hread =>
      cases hterm
      exact ⟨_, hread⟩
    | forward => cases hterm
  · obtain ⟨x, -, hread⟩ := exists_of_forall₂ h.args.flip ht
    exact ⟨_, hread⟩

end BodyNames.ReadsStatement

namespace Definition

variable {d : Definition}

namespace Transcribes

variable {f : FunctionSource}

theorem locals_eq_targets (h : d.Transcribes f) : d.locals = f.assignments.map (·.target) := by
  have htargets := h.body.imp fun _ _ hs => hs.target
  rw [locals, ← List.forall₂_eq_eq_eq, List.forall₂_map_left_iff, List.forall₂_map_right_iff]
  exact htargets.flip

/-- An assignment is read as the statement at its place. -/
theorem exists_statement (h : d.Transcribes f) {i : Nat} {a : CallAssignment}
    (ha : f.assignments[i]? = some a) :
    ∃ s, d.body[i]? = some s ∧ d.bodyNames.ReadsStatement a s := by
  obtain ⟨hi, rfl⟩ := List.getElem?_eq_some_iff.1 ha
  have hi' : i < d.body.length := h.body.length_eq ▸ hi
  exact ⟨d.body[i], List.getElem?_eq_getElem hi', h.body.get hi hi'⟩

/-- A transcript names nothing that its function does not have. -/
theorem covered (h : d.Transcribes f) : d.Covered := by
  have behind {t : Term} (ht : t ∈ d.terms) : ∃ e, d.bodyNames.ReadsTerm e t := by
    obtain ⟨s, hs, ht⟩ := mem_terms.1 ht
    obtain ⟨a, -, hread⟩ := exists_of_forall₂ h.body.flip hs
    exact hread.exists_readsTerm ht
  refine ⟨fun x hx => ?_, fun p hp => ?_, fun s hs p hp => ?_, fun s hs hforward => ?_,
    fun x hx => ?_⟩
  · obtain ⟨e, hread⟩ := behind hx
    cases hread with
    | symbol hmem => exact hmem
  · obtain ⟨e, hread⟩ := behind hp
    cases hread with
    | parameter fresh hbound => exact ⟨fresh, hbound⟩
  · obtain ⟨a, -, hread⟩ := exists_of_forall₂ h.body.flip hs
    have hcallee := hread.callee
    rw [hp] at hcallee
    generalize a.callee = e at hcallee
    cases hcallee with
    | parameter hmem => exact hmem
  · obtain ⟨a, -, hread⟩ := exists_of_forall₂ h.body.flip hs
    obtain ⟨k, -, hkeyword⟩ := exists_of_forall₂ hread.keywords.flip hforward
    cases hkeyword with
    | forward hown => exact Option.isSome_of_eq_some hown
  · rw [h.locals_eq_targets] at hx
    obtain ⟨a, ha, rfl⟩ := List.mem_map.1 hx
    rw [h.signature]
    exact h.inLanguage.targets.2 a ha

end Transcribes

/-- A formal is no local. -/
theorem Covered.not_local (h : d.Covered) {name : String}
    (hname : name ∈ d.signature.inputs ∨ name ∈ d.signature.parameterNames) :
    name ∉ d.locals :=
  fun hlocal => h.fresh name hlocal (List.mem_append_left _ (List.mem_append.2 hname))

/-- The values of the keywords of a call are terms of the layer. -/
theorem mem_terms_of_keyword {s : BodyStatement} (hs : s ∈ d.body) {t : Term}
    (ht : t ∈ s.call.keywords.filterMap KeywordTerm.term?) : t ∈ d.terms :=
  mem_terms.2 ⟨s, hs, List.mem_append_left _ ht⟩

/-- So are its positional arguments. -/
theorem mem_terms_of_argument {s : BodyStatement} (hs : s ∈ d.body) {t : Term}
    (ht : t ∈ s.call.args) : t ∈ d.terms :=
  mem_terms.2 ⟨s, hs, List.mem_append_right _ ht⟩

/-- **The names in the body of an accepted layer are its own.** -/
theorem Accepted.covered (h : d.Accepted) : d.Covered := by
  obtain ⟨f, hf⟩ := exists_defines_of_accepted h
  exact hf.transcribes.covered

end Definition

/-- A binding gives every formal of a signature a value, in order. -/
def Signature.BoundBy (s : Signature) (b : Binding) : Prop :=
  b.values.map Prod.fst = s.formals.map (·.name)

namespace Signature

variable {s : Signature} {b : Binding}

theorem mem_formals {name : String} :
    name ∈ s.formals.map (·.name) ↔ name ∈ s.inputs ∨ name ∈ s.parameterNames := by
  simp only [inputs, parameterNames, parameters, List.mem_map, List.mem_filter]
  constructor
  · rintro ⟨f, hf, rfl⟩
    cases hinput : f.isInput with
    | true => exact .inl ⟨f, ⟨hf, hinput⟩, rfl⟩
    | false => exact .inr ⟨f, ⟨hf, by simp [hinput]⟩, rfl⟩
  · rintro (⟨f, ⟨hf, -⟩, rfl⟩ | ⟨f, ⟨hf, -⟩, rfl⟩)
    · exact ⟨f, hf, rfl⟩
    · exact ⟨f, hf, rfl⟩

theorem BoundBy.get?_isSome_iff (h : s.BoundBy b) {name : String} :
    (b.get? name).isSome ↔ name ∈ s.inputs ∨ name ∈ s.parameterNames := by
  rw [← mem_formals, ← h, Binding.get?, List.lookup_isSome_iff, List.mem_map]
  refine exists_congr fun p => and_congr_right fun _ => ?_
  rw [beq_iff_eq, eq_comm]

/-- Every formal has a value. -/
theorem BoundBy.exists_get? (h : s.BoundBy b) {name : String}
    (hname : name ∈ s.inputs ∨ name ∈ s.parameterNames) : ∃ v, b.get? name = some v :=
  Option.isSome_iff_exists.1 (h.get?_isSome_iff.2 hname)

/-- Nothing else has one. -/
theorem BoundBy.get?_eq_none (h : s.BoundBy b) {name : String} (hinput : name ∉ s.inputs)
    (hparameter : name ∉ s.parameterNames) : b.get? name = none := by
  rw [← Option.not_isSome_iff_eq_none, h.get?_isSome_iff, not_or]
  exact ⟨hinput, hparameter⟩

end Signature

namespace Definition

variable {d : Definition} {b : Binding} {closure : List (String × Value)} {out : String} {n : Int}

/-- A name that is no local is looked up among the formals, then it may be the collector. -/
theorem lookup_of_not_local {name : String} (h : name ∉ d.locals) :
    (d.actuals b closure out n).values.lookup name =
      (b.get? name).or ((d.collectorEntry b).lookup name) := by
  have hregisters : (d.locals.zip (d.registers out n)).lookup name = none := by
    rw [List.lookup_eq_none_iff]
    rintro ⟨x, r⟩ hmem
    rw [bne_iff_ne]
    rintro rfl
    exact h (List.of_mem_zip hmem).1
  rw [values_actuals, List.lookup_append, List.lookup_append, hregisters, Option.none_or,
    Binding.get?]

/-- A formal stands for the value bound to it. -/
theorem get_formal {name : String} {v : Value} (h : name ∉ d.locals)
    (hbound : b.get? name = some v) : (d.actuals b closure out n).get name = .ok v := by
  rw [Actuals.get, lookup_of_not_local h, hbound]
  rfl

/-- The collector stands for what was collected. -/
theorem get_collector {name : String} (h : name ∉ d.locals) (hunbound : b.get? name = none)
    (hcollector : d.signature.collector = some name) :
    (d.actuals b closure out n).get name = .ok (collectedValue b) := by
  rw [Actuals.get, lookup_of_not_local h, hunbound, collectorEntry, hcollector, Option.none_or,
    List.lookup_cons_self]
  rfl

end Definition

end Laminar
