import Laminar.Value.Equality

/-!
# Arguments of a constructor

How the values of a call are bound to the formals of a constructor.  Positional values fill the
formals from the left.  Then each keyword, in the order it is given, must name a formal that is
still free, or is collected if the constructor collects keywords.  Only then are surplus positional
values and missing ones reported.

* `Constructor` describes the formals, `Constructor.bind` binds a call.
-/

namespace Laminar

/-- A formal of a constructor. -/
structure Formal where
  name : String
  default : Option Value := none

/-- The formals of a constructor.  Positional values beyond them are refused; unknown keywords are
collected or refused. -/
structure Constructor where
  name : String
  formals : List Formal
  collects : Bool := false

/-- The values of the formals, and the keywords collected. -/
structure Bound where
  values : List Value
  options : List (String × Value)

/-- Keywords by name.  Only a text can name a keyword. -/
def keywordTexts : List (Value × Value) → Except Fault (List (String × Value))
  | [] => pure []
  | (key, v) :: rest =>
    match key.bare with
    | .str name => do return (name, v) :: (← keywordTexts rest)
    | _ => throw .keywordsNotText

/-- A formal with the value bound to it so far. -/
abbrev Slot := Formal × Option Value

/-- Bind a keyword to the formal it names; `none` if no formal has that name. -/
def fillSlot (function name : String) (v : Value) :
    List Slot → Except Fault (Option (List Slot))
  | [] => pure none
  | (formal, value) :: rest =>
    if formal.name = name then
      match value with
      | some _ => throw (.repeatedArgument function name)
      | none => pure (some ((formal, some v) :: rest))
    else do return (← fillSlot function name v rest).map ((formal, value) :: ·)

/-- Bind keywords in order. -/
def Constructor.bindKeywords (c : Constructor) :
    List (String × Value) → List Slot → List (String × Value) →
      Except Fault (List Slot × List (String × Value))
  | [], slots, options => pure (slots, options)
  | (name, v) :: rest, slots, options => do
    match ← fillSlot c.name name v slots with
    | some slots => c.bindKeywords rest slots options
    | none =>
      if c.collects then c.bindKeywords rest slots (options ++ [(name, v)])
      else throw (.unexpectedKeyword c.name name)

/-- The formals with positional values bound from the left. -/
def bindPositional : List Formal → List Value → List Slot
  | [], _ => []
  | f :: fs, [] => (f, none) :: bindPositional fs []
  | f :: fs, v :: vs => (f, some v) :: bindPositional fs vs

/-- The value of a slot: what is bound to it, or its default. -/
def Slot.value? (s : Slot) : Option Value := s.2 <|> s.1.default

/-- Bind a call. -/
def Constructor.bind (c : Constructor) (args : List Value) (keywords : List (String × Value)) :
    Except Fault Bound := do
  let (slots, options) ← c.bindKeywords keywords (bindPositional c.formals args) []
  let required := (c.formals.filter (·.default.isNone)).length
  if args.length > c.formals.length then
    throw (.tooManyArguments c.name required c.formals.length args.length)
  let missing := (slots.filter fun s => (Slot.value? s).isNone).map (·.1.name)
  if !missing.isEmpty then throw (.missingArguments c.name missing)
  return { values := slots.filterMap Slot.value?, options }

/-! ### What binding does -/

/-- Binding by position leaves the formals in order. -/
@[simp]
theorem map_fst_bindPositional (formals : List Formal) (args : List Value) :
    (bindPositional formals args).map Prod.fst = formals := by
  induction formals generalizing args with
  | nil => rfl
  | cons f fs ih => cases args <;> simp [bindPositional, ih]

end Laminar
