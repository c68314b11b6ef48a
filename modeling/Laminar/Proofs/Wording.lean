import Mathlib
import Laminar.Expansion.Call
import Laminar.Proofs.Computation

/-!
# Failures that can be told

A generator that fails is blamed: the fault becomes a diagnostic that names the callee and tells
the fault.  That works only if the fault has a text, and one fault may have none, the one about a
missing key, because a whole number can be too long to be written.  This module shows that no
generator of a primitive or of a layer ever raises it over such a key.

* `FailsOnly P r`: if `r` fails at all, then with a failure that satisfies `P`.  The rules for
  sequences, for rewordings and for loops are stated once, for any `P`.
* `Failure.Told` is what the failures of generators satisfy: a diagnostic about the arguments of
  the call, without context yet, or a fault that has a text.
* `Generator.told_invoke`: generators of primitives and layers fail only with such failures.
-/

namespace Laminar

/-! ### Failing in certain ways only -/

/-- If a computation fails, its failure satisfies a predicate. -/
def FailsOnly {ε α : Type} (P : ε → Prop) (r : Except ε α) : Prop := ∀ e, r = .error e → P e

section FailsOnly

variable {ε ε' α β : Type} {P : ε → Prop}

theorem failsOnly_pure (a : α) : FailsOnly P (pure a : Except ε α) :=
  fun _ h => absurd h pure_ne_error

theorem failsOnly_throw {e : ε} (he : P e) : FailsOnly P (throw e : Except ε α) := by
  intro e' h
  rw [throw_eq_error] at h
  exact h ▸ he

theorem failsOnly_bind {x : Except ε α} {f : α → Except ε β} (hx : FailsOnly P x)
    (hf : ∀ a, FailsOnly P (f a)) : FailsOnly P (x >>= f) := by
  intro e h
  rcases bind_eq_error.1 h with h | ⟨a, -, h⟩
  · exact hx e h
  · exact hf a e h

theorem failsOnly_map {x : Except ε α} {f : α → β} (hx : FailsOnly P x) :
    FailsOnly P (x.map f) :=
  fun e h => hx e (map_eq_error.1 h)

/-- Rewording takes failures of one kind to failures of another. -/
theorem failsOnly_mapError {Q : ε' → Prop} {x : Except ε α} {f : ε → ε'} (hx : FailsOnly P x)
    (hf : ∀ e, P e → Q (f e)) : FailsOnly Q (x.mapError f) := by
  intro e h
  obtain ⟨e₀, hfailed, rfl⟩ := mapError_eq_error.1 h
  exact hf e₀ (hx e₀ hfailed)

/-- A check in front of a computation. -/
theorem failsOnly_guard {c : Prop} [Decidable c] {e : ε} {rest : Except ε α} (he : P e)
    (hrest : FailsOnly P rest) :
    FailsOnly P (if c then (throw e : Except ε PUnit) >>= fun _ => rest else rest) := by
  split
  · exact failsOnly_bind (failsOnly_throw he) fun _ => hrest
  · exact hrest

theorem failsOnly_mapM {f : α → Except ε β} (hf : ∀ a, FailsOnly P (f a)) (as : List α) :
    FailsOnly P (as.mapM f) := by
  induction as with
  | nil => exact failsOnly_pure _
  | cons a as ih =>
    rw [List.mapM_cons]
    exact failsOnly_bind (hf a) fun b => failsOnly_bind ih fun bs => failsOnly_pure _

end FailsOnly

/-! ### Faults with a text -/

/-- If a computation fails, its fault has a text. -/
abbrev Worded {α : Type} (r : Except Fault α) : Prop := FailsOnly (fun f => f.writable = true) r

/-- A fault that has a text has one also as it arises. -/
theorem Fault.writable_settled {f : Fault} (h : f.writable = true) :
    f.settled.writable = true := by
  have either : f.settled = f ∨ f.settled = .digitLimit := ite_eq_or_eq _ _ _
  rcases either with same | limit
  · rw [same]
    exact h
  · rw [limit]
    rfl

section Binding

theorem worded_keywordTexts (keywords : List (Value × Value)) : Worded (keywordTexts keywords) := by
  induction keywords with
  | nil => exact failsOnly_pure _
  | cons k rest ih =>
    obtain ⟨key, v⟩ := k
    unfold keywordTexts
    split
    · exact failsOnly_bind ih fun _ => failsOnly_pure _
    · exact failsOnly_throw rfl

theorem worded_fillSlot (function name : String) (v : Value) (slots : List Slot) :
    Worded (fillSlot function name v slots) := by
  induction slots with
  | nil => exact failsOnly_pure _
  | cons s rest ih =>
    obtain ⟨formal, value⟩ := s
    unfold fillSlot
    split
    · cases value with
      | none => exact failsOnly_pure _
      | some w => exact failsOnly_throw rfl
    · exact failsOnly_bind ih fun _ => failsOnly_pure _

theorem worded_bindKeywords (c : Constructor) (keywords : List (String × Value))
    (slots : List Slot) (options : List (String × Value)) :
    Worded (c.bindKeywords keywords slots options) := by
  induction keywords generalizing slots options with
  | nil => exact failsOnly_pure _
  | cons k rest ih =>
    obtain ⟨name, v⟩ := k
    unfold Constructor.bindKeywords
    refine failsOnly_bind (worded_fillSlot _ _ _ _) fun filled => ?_
    cases filled with
    | some after => exact ih after options
    | none =>
      dsimp only
      split
      · exact ih slots _
      · exact failsOnly_throw rfl

/-- A constructor refuses a call in words. -/
theorem worded_bind (c : Constructor) (args : List Value) (keywords : List (String × Value)) :
    Worded (c.bind args keywords) := by
  unfold Constructor.bind
  refine failsOnly_bind (worded_bindKeywords c keywords _ _) fun bound => ?_
  exact failsOnly_guard rfl (failsOnly_guard rfl (failsOnly_pure _))

theorem worded_bindParameter (args : List Value) (keywords : List (String × Value)) :
    Worded (bindParameter args keywords) :=
  failsOnly_bind (worded_bind _ _ _) fun _ => failsOnly_pure _

theorem worded_bindFromLeft (keywords : List (String × Value)) (formals : List LayerFormal)
    (args : List Value) : Worded (bindFromLeft keywords formals args) := by
  induction formals generalizing args with
  | nil =>
    cases args with
    | nil => exact failsOnly_pure _
    | cons v vs => exact failsOnly_throw rfl
  | cons f fs ih =>
    cases args with
    | nil => exact failsOnly_pure _
    | cons v vs =>
      unfold bindFromLeft
      split
      · exact failsOnly_throw rfl
      · split
        · exact failsOnly_throw rfl
        · exact failsOnly_bind (ih vs) fun _ => failsOnly_pure _

theorem worded_bindByName (keywords : List (String × Value)) (formals : List LayerFormal) :
    Worded (bindByName keywords formals) := by
  induction formals with
  | nil => exact failsOnly_pure _
  | cons f fs ih =>
    have later (v : Value) : Worded (do return (f.name, v) :: (← bindByName keywords fs)) :=
      failsOnly_bind ih fun _ => failsOnly_pure _
    unfold bindByName
    split
    · split
      · exact failsOnly_throw rfl
      · exact later _
    · split
      · exact later _
      · exact failsOnly_throw rfl

/-- A signature refuses a call in words. -/
theorem worded_signatureBind (s : Signature) (args : List Value)
    (keywords : List (String × Value)) : Worded (s.bind args keywords) := by
  unfold Signature.bind
  refine failsOnly_bind (worded_bindFromLeft _ _ _) fun bound => ?_
  refine failsOnly_bind (worded_bindByName _ _) fun named => ?_
  dsimp only
  split
  · exact failsOnly_throw rfl
  · exact failsOnly_pure _

end Binding

section Arrays

theorem worded_toFloat (v : Value) : Worded v.toFloat := by
  have number (n : Number) : Worded n.toFloat := by
    unfold Number.toFloat
    split
    · exact failsOnly_pure _
    · split
      · exact failsOnly_pure _
      · exact failsOnly_throw rfl
    · exact failsOnly_throw rfl
  unfold Value.toFloat
  dsimp only
  split
  · exact failsOnly_throw rfl
  · exact number _
  · split
    · exact failsOnly_pure _
    · exact failsOnly_throw rfl
  · refine failsOnly_throw ?_
    split <;> rfl

theorem worded_toDirectElement (v : Value) : Worded v.toDirectElement := by
  unfold Value.toDirectElement
  split
  · exact failsOnly_pure _
  · unfold Value.toElement
    split
    · exact failsOnly_pure _
    · exact failsOnly_bind (worded_toFloat _) fun _ => failsOnly_pure _

theorem worded_arrayShape (v : Value) : Worded v.arrayShape := by
  unfold Value.arrayShape
  dsimp only
  split
  · exact failsOnly_throw rfl
  · split
    · exact failsOnly_pure _
    · exact failsOnly_throw rfl

/-- A value that is no array is refused in words. -/
theorem worded_ofValue (v : Value) : Worded (Tensor.ofValue v) :=
  failsOnly_bind (worded_arrayShape v) fun _ =>
    failsOnly_bind (failsOnly_mapM worded_toDirectElement _) fun _ => failsOnly_pure _

end Arrays

section Order

mutual

theorem worded_ordered (c : Comparison) (v w : Value) : Worded (v.ordered c w) := by
  cases v with
  | kept object v => exact worded_ordered c v w
  | list a =>
    unfold Value.ordered
    split
    · exact worded_orderedList c a _
    · exact failsOnly_throw rfl
  | tuple a =>
    unfold Value.ordered
    split
    · exact worded_orderedList c a _
    · exact failsOnly_throw rfl
  | _ =>
    unfold Value.ordered
    split
    · exact failsOnly_pure _
    · exact failsOnly_pure _
    · exact failsOnly_pure _
    · split
      · split
        · exact failsOnly_throw rfl
        · exact failsOnly_pure _
      · exact failsOnly_throw rfl

theorem worded_orderedList (c : Comparison) (vs ws : List Value) : Worded (orderedList c vs ws) := by
  match vs, ws with
  | v :: vs, w :: ws =>
    unfold orderedList
    split
    · exact worded_orderedList c vs ws
    · exact worded_ordered c v w
  | [], ws => exact failsOnly_pure _
  | v :: vs, [] => exact failsOnly_pure _

end

theorem worded_operand (v : Value) : Worded v.operand := by
  unfold Value.operand
  split
  · exact failsOnly_pure _
  · exact failsOnly_pure _
  · split
    · refine failsOnly_bind (worded_arrayShape _) fun shape => ?_
      dsimp only
      split <;> exact failsOnly_pure _
    · exact failsOnly_pure _

theorem worded_zipOperands {f : Value → Value → Except Fault Value} (hf : ∀ v w, Worded (f v w))
    (a b : Operand) : Worded (zipOperands f a b) := by
  unfold zipOperands
  split
  · exact failsOnly_throw rfl
  · refine failsOnly_bind (failsOnly_mapM ?_ _) fun _ => failsOnly_pure _
    rintro ⟨v, w⟩
    exact hf v w

theorem worded_arrayCompare {f : Value → Value → Except Fault Bool}
    {texts : ItemKind → ItemKind → Except Fault Bool} (hf : ∀ v w, Worded (f v w))
    (htexts : ∀ a b, Worded (texts a b)) (v w : Value) : Worded (arrayCompare f texts v w) := by
  unfold arrayCompare
  refine failsOnly_bind (worded_operand v) fun a => failsOnly_bind (worded_operand w) fun b => ?_
  dsimp only
  split
  · exact failsOnly_bind (worded_zipOperands (fun v w => failsOnly_map (hf v w)) a b)
      fun _ => failsOnly_pure _
  · exact failsOnly_bind
      (worded_zipOperands (fun v w => failsOnly_map (hf v.plain w.plain)) a b)
      fun _ => failsOnly_pure _
  · refine failsOnly_bind (htexts _ _) fun _ => ?_
    exact failsOnly_bind (worded_zipOperands (fun _ _ => failsOnly_pure _) a b)
      fun _ => failsOnly_pure _

theorem worded_orderedValue (c : Comparison) (v w : Value) : Worded (v.orderedValue c w) := by
  unfold Value.orderedValue
  split
  · unfold arrayOrder
    dsimp only
    split
    · exact worded_arrayCompare (worded_ordered _) (fun _ _ => failsOnly_throw rfl) w v
    · exact worded_arrayCompare (worded_ordered _) (fun _ _ => failsOnly_throw rfl) v w
  · have hordered := worded_ordered c v w
    split
    · exact failsOnly_pure _
    · split
      · refine failsOnly_throw ?_
        unfold refuseOrder
        split
        · split <;> rfl
        · split <;> rfl
        · rfl
      · exact failsOnly_map hordered
    · rename_i f _ hf
      exact failsOnly_throw (hordered f hf)

theorem worded_precedes (c : Comparison) (v w : Value) : Worded (v.precedes c w) := by
  refine failsOnly_bind (worded_orderedValue c v w) fun answer => ?_
  unfold Value.condition
  split
  · exact failsOnly_throw rfl
  · exact failsOnly_pure _
  · exact failsOnly_throw rfl
  · exact failsOnly_pure _

/-- A rate that is none is refused in words. -/
theorem worded_dropout (rate : Value) : Worded (Op.dropout rate) := by
  unfold Op.dropout
  refine failsOnly_bind (worded_precedes _ _ _) fun low => ?_
  split
  · refine failsOnly_bind (worded_precedes _ _ _) fun high => ?_
    split
    · exact failsOnly_pure _
    · exact failsOnly_throw rfl
  · exact failsOnly_throw rfl

end Order

/-! ### Failures of generators -/

/-- What generators fail with: a diagnostic about the arguments of the call, without context yet,
or a fault that has a text. -/
def Failure.Told : Failure → Prop
  | .diagnostic d =>
    d.problem.kind = .malformedCall ∧ d.callee = none ∧ d.layer = none ∧ d.line = none
  | .fault f => f.writable = true
  | .endless => False

/-- A problem of the arguments of a call. -/
abbrev Problem.AboutCall (problem : Problem) : Prop := problem.kind = .malformedCall

theorem Problem.AboutCall.told {problem : Problem} (h : problem.AboutCall) :
    problem.failure.Told := by
  unfold Problem.failure Diagnostic.failure
  split
  · exact ⟨h, rfl, rfl, rfl⟩
  · rfl

section Told

variable {α : Type}

theorem told_liftFault {x : Except Fault α} (h : Worded x) :
    FailsOnly Failure.Told (liftFault x) :=
  failsOnly_mapError h fun _ => Fault.writable_settled

theorem told_problem {x : Except Problem α} (h : FailsOnly Problem.AboutCall x) :
    FailsOnly Failure.Told (x.mapError Problem.failure) :=
  failsOnly_mapError h fun _ => Problem.AboutCall.told

theorem aboutCall_checkSymbol (label : String) (v : Value) :
    FailsOnly Problem.AboutCall (checkSymbol label v) := by
  unfold checkSymbol
  split
  · exact failsOnly_pure _
  · exact failsOnly_throw rfl

theorem aboutCall_checkOperands (operator : String) (index : Nat) (operands : List Value) :
    FailsOnly Problem.AboutCall (checkOperands operator index operands) := by
  induction operands generalizing index with
  | nil => exact failsOnly_pure _
  | cons v vs ih => exact failsOnly_bind (aboutCall_checkSymbol _ v) fun _ => ih (index + 1)

theorem aboutCall_checked (op : Op) (operands : List Value) (result : Value) :
    FailsOnly Problem.AboutCall (Instruction.checked op operands result) :=
  failsOnly_bind (aboutCall_checkOperands _ _ _) fun _ =>
    failsOnly_bind (aboutCall_checkSymbol _ _) fun _ => failsOnly_pure _

end Told

namespace Primitive

theorem aboutCall_dimension (v : Value) : FailsOnly Problem.AboutCall (dimension v) := by
  unfold dimension
  split
  · split
    · exact failsOnly_throw rfl
    · exact failsOnly_pure _
  · exact failsOnly_throw rfl

theorem told_parameter (args : List Value) (keywords : List (String × Value)) :
    FailsOnly Failure.Told (parameter args keywords) := by
  unfold parameter
  split
  · exact failsOnly_throw (Problem.AboutCall.told rfl)
  · exact failsOnly_bind (told_problem (failsOnly_mapM aboutCall_dimension _)) fun _ =>
      failsOnly_bind (told_liftFault (worded_bindParameter _ _)) fun _ =>
        told_problem (aboutCall_checked _ _ _)

theorem told_plainInstruction (op : Op) (registers : List Value) :
    FailsOnly Failure.Told (plainInstruction op registers) :=
  told_problem (aboutCall_checked _ _ _)

/-- **A primitive refuses a call in words.** -/
theorem told_instruction (p : Primitive) (args : List Value) (keywords : List (String × Value)) :
    FailsOnly Failure.Told (p.instruction args keywords) := by
  unfold instruction
  split
  · exact told_parameter _ _
  · refine failsOnly_bind (told_liftFault (worded_bind _ _ _)) fun bound => ?_
    split
    · exact failsOnly_throw (Problem.AboutCall.told rfl)
    · exact failsOnly_bind (told_liftFault (worded_ofValue _)) fun _ => told_plainInstruction _ _
    · exact failsOnly_bind (told_liftFault (worded_dropout _)) fun _ => told_plainInstruction _ _
    · exact told_plainInstruction _ _

end Primitive

namespace Definition

section Filling

variable (globals : ScopeId) (a : Actuals)

theorem told_get (name : String) : FailsOnly Failure.Told (a.get name) := by
  unfold Actuals.get
  split
  · exact failsOnly_pure _
  · exact failsOnly_throw rfl

theorem told_fillTerm (t : Term) : FailsOnly Failure.Told (fillTerm globals a t) := by
  cases t with
  | symbol name => exact failsOnly_bind (told_get a name) fun _ => failsOnly_pure _
  | parameter name => exact failsOnly_bind (told_get a name) fun _ => failsOnly_pure _
  | literal value => exact failsOnly_pure _
  | deferred text expr => exact failsOnly_pure _

theorem told_fillCallee (t : CalleeTerm) : FailsOnly Failure.Told (fillCallee a t) := by
  cases t with
  | fixed name => exact failsOnly_pure _
  | parameter name =>
    refine failsOnly_bind (told_get a name) fun v => ?_
    split
    · exact failsOnly_pure _
    · exact failsOnly_throw (Problem.AboutCall.told rfl)

theorem told_fillKeywords (keywords : List KeywordTerm) :
    FailsOnly Failure.Told (fillKeywords globals a keywords) := by
  induction keywords with
  | nil => exact failsOnly_pure _
  | cons k rest ih =>
    cases k with
    | named name value =>
      exact failsOnly_bind (told_fillTerm globals a value) fun _ =>
        failsOnly_bind ih fun _ => failsOnly_pure _
    | forward => exact failsOnly_bind ih fun _ => failsOnly_pure _

theorem told_fillTerms (terms : List Term) :
    FailsOnly Failure.Told (fillTerms globals a terms) := by
  induction terms with
  | nil => exact failsOnly_pure _
  | cons t rest ih =>
    exact failsOnly_bind (told_fillTerm globals a t) fun _ =>
      failsOnly_bind ih fun _ => failsOnly_pure _

theorem told_fillBody (file : SourceFile) (body : List BodyStatement) :
    FailsOnly Failure.Told (fillBody file globals a body) := by
  induction body with
  | nil => exact failsOnly_pure _
  | cons s rest ih =>
    have call : FailsOnly Failure.Told (fillCall globals a s.call) :=
      failsOnly_bind (told_fillCallee a _) fun _ =>
        failsOnly_bind (told_fillKeywords globals a _) fun _ =>
          failsOnly_bind (told_fillTerms globals a _) fun _ => failsOnly_pure _
    exact failsOnly_bind (told_get a s.target) fun _ => failsOnly_bind call fun _ =>
      failsOnly_bind ih fun _ => failsOnly_pure _

end Filling

theorem told_checkInputs (layer : String) (b : Binding) (inputs : List String) :
    FailsOnly Failure.Told (checkInputs layer b inputs) := by
  induction inputs with
  | nil => exact failsOnly_pure _
  | cons input rest ih =>
    unfold checkInputs
    split
    · exact failsOnly_throw rfl
    · exact failsOnly_bind (told_problem (aboutCall_checkSymbol _ _)) fun _ => ih

/-- **A layer refuses a call in words.** -/
theorem told_generate (d : Definition) (closure : List (String × Value)) (args : List Value)
    (output : Value) (keywords : List (String × Value)) (n : Int) :
    FailsOnly Failure.Told (d.generate closure args output keywords n).1 := by
  have bound : FailsOnly Failure.Told (d.bindCall args output keywords) :=
    failsOnly_bind (told_liftFault (worded_signatureBind _ _ _)) fun _ =>
      failsOnly_bind (told_checkInputs _ _ _) fun _ =>
        failsOnly_bind (told_problem (aboutCall_checkSymbol _ _)) fun _ => failsOnly_pure _
  unfold generate
  split
  · rename_i e he
    intro e' h
    cases h
    exact bound e he
  · split
    · exact failsOnly_throw rfl
    · exact failsOnly_bind (told_fillBody _ _ _ _) fun _ => failsOnly_pure _

end Definition

/-- **Generators of primitives and of layers fail in words.** -/
theorem Generator.told_invoke {g : Generator}
    (hg : (∃ p, g.body = .primitive p) ∨ ∃ d, g.body = .composite d) (scopes : Scopes)
    (args : List Value) (output : Value) (keywords : List (Value × Value)) (n : Int) :
    FailsOnly Failure.Told (g.invoke scopes args output keywords n).1 := by
  have texts := worded_keywordTexts keywords
  rcases hg with ⟨p, hp⟩ | ⟨d, hd⟩
  · simp only [Generator.invoke, hp]
    split
    · rename_i f hf
      exact failsOnly_throw (texts f hf)
    · exact failsOnly_map (p.told_instruction _ _)
  · simp only [Generator.invoke, hd]
    split
    · rename_i f hf
      exact failsOnly_throw (texts f hf)
    · exact failsOnly_map (d.told_generate _ _ _ _ _)

end Laminar
