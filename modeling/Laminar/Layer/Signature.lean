import Laminar.Fault

/-!
# Signatures of layers

A layer has formals in order and may collect further keywords under a name.  Formals without a
default that can be given by position are its *inputs*; the others are its *parameters*.

**Binding.** Positional values are bound from the left to the formals that take them.  A formal that
is still unbound takes its keyword, or else its default.  Keywords left over are collected.  A
keyword that is named like an input bound by position only is left over, not a repetition.

* `Signature.bind` binds a call, `Binding.get?` looks a formal up.
-/

namespace Laminar

/-- How a formal of a layer may be given. -/
inductive FormalKind where
  /-- By position only. -/
  | positional
  /-- By position or by name. -/
  | standard
  /-- By name only. -/
  | named
  deriving DecidableEq, Repr

/-- A formal of a layer. -/
structure LayerFormal where
  name : String
  kind : FormalKind
  default : Option Value := none

/-- Is a formal an input? -/
def LayerFormal.isInput (f : LayerFormal) : Bool := f.kind != .named && f.default.isNone

/-- The formals of a layer, and the name under which it collects further keywords. -/
structure Signature where
  formals : List LayerFormal
  collector : Option String := none

namespace Signature

/-- The names of the inputs, in order. -/
def inputs (s : Signature) : List String := (s.formals.filter (·.isInput)).map (·.name)

/-- The parameters, in order. -/
def parameters (s : Signature) : List LayerFormal := s.formals.filter (!·.isInput)

/-- The names of the parameters, in order. -/
def parameterNames (s : Signature) : List String := s.parameters.map (·.name)

/-- The names of all formals and of the collector. -/
def names (s : Signature) : List String := s.inputs ++ s.parameterNames ++ s.collector.toList

end Signature

/-- The values of the formals of a layer, in order, and the keywords it collected. -/
structure Binding where
  values : List (String × Value)
  collected : List (String × Value)

/-- The value of a formal. -/
def Binding.get? (b : Binding) (name : String) : Option Value := b.values.lookup name

/-- Is a keyword given? -/
def hasKeyword (keywords : List (String × Value)) (name : String) : Bool :=
  keywords.any (·.1 == name)

/-- Bind positional values from the left; the formals that are left follow. -/
def bindFromLeft (keywords : List (String × Value)) :
    List LayerFormal → List Value → Except Fault (List (String × Value) × List LayerFormal)
  | formals, [] => pure ([], formals)
  | [], _ :: _ => throw .tooManyPositional
  | f :: fs, v :: vs =>
    if f.kind = .named then throw .tooManyPositional
    else if f.kind ≠ .positional ∧ hasKeyword keywords f.name then throw (.boundTwice f.name)
    else do
      let (bound, left) ← bindFromLeft keywords fs vs
      return ((f.name, v) :: bound, left)

/-- Bind the formals that got no positional value. -/
def bindByName (keywords : List (String × Value)) :
    List LayerFormal → Except Fault (List (String × Value))
  | [] => pure []
  | f :: fs =>
    match keywords.lookup f.name with
    | some v =>
      if f.kind = .positional then throw (.positionalOnly f.name)
      else do return (f.name, v) :: (← bindByName keywords fs)
    | none =>
      match f.default with
      | some v => do return (f.name, v) :: (← bindByName keywords fs)
      | none => throw (.missingArgument f.name)

/-- Bind a call. -/
def Signature.bind (s : Signature) (args : List Value) (keywords : List (String × Value)) :
    Except Fault Binding := do
  let (bound, left) ← bindFromLeft keywords s.formals args
  let named ← bindByName keywords left
  let collected := keywords.filter fun k => !(left.any (·.name == k.1))
  match s.collector, collected with
  | none, k :: _ => throw (.unexpectedArgument k.1)
  | _, collected => return { values := bound ++ named, collected }

/-! ### What binding yields -/

/-- Positional values are bound to a front part of the formals. -/
theorem bindFromLeft_names {keywords : List (String × Value)} {formals : List LayerFormal}
    {args : List Value} {bound : List (String × Value)} {left : List LayerFormal}
    (h : bindFromLeft keywords formals args = .ok (bound, left)) :
    bound.map Prod.fst ++ left.map (·.name) = formals.map (·.name) := by
  induction formals generalizing args bound left with
  | nil =>
    cases args with
    | nil =>
      simp only [bindFromLeft, pure, Except.pure, Except.ok.injEq, Prod.mk.injEq] at h
      simp [← h.1, ← h.2]
    | cons v vs => simp [bindFromLeft, throw, throwThe, MonadExceptOf.throw] at h
  | cons f fs ih =>
    cases args with
    | nil =>
      simp only [bindFromLeft, pure, Except.pure, Except.ok.injEq, Prod.mk.injEq] at h
      simp [← h.1, ← h.2]
    | cons v vs =>
      simp only [bindFromLeft] at h
      split at h
      · simp [throw, throwThe, MonadExceptOf.throw] at h
      · split at h
        · simp [throw, throwThe, MonadExceptOf.throw] at h
        · cases hr : bindFromLeft keywords fs vs with
          | error e => simp [hr, bind, Except.bind] at h
          | ok r =>
            simp only [hr, bind, Except.bind, pure, Except.pure, Except.ok.injEq,
              Prod.mk.injEq] at h
            have := ih hr
            simp [← h.1, ← h.2, this]

/-- Every remaining formal is bound, in order. -/
theorem bindByName_names {keywords : List (String × Value)} {formals : List LayerFormal}
    {bound : List (String × Value)} (h : bindByName keywords formals = .ok bound) :
    bound.map Prod.fst = formals.map (·.name) := by
  induction formals generalizing bound with
  | nil =>
    simp only [bindByName, pure, Except.pure, Except.ok.injEq] at h
    simp [← h]
  | cons f fs ih =>
    simp only [bindByName] at h
    cases hr : bindByName keywords fs with
    | error e =>
      simp only [hr, bind, Except.bind] at h
      split at h <;> split at h <;> simp [throw, throwThe, MonadExceptOf.throw] at h
    | ok r =>
      have hr' := ih hr
      simp only [hr, bind, Except.bind, pure, Except.pure] at h
      split at h <;> split at h <;>
        simp [throw, throwThe, MonadExceptOf.throw] at h <;> simp [← h, hr']

end Laminar
