import Laminar.Call.Fill
import Laminar.Value.Operators

/-!
# Calling values

The few built-in functions that expressions of layer source may call, the look-up of a dictionary,
the initializer classes and initializers.  All other built-in names are defined but cannot be
called: a call of one fails as not implemented.

**Samples.** An initializer that is called may make a source of samples, also as the key by which
`max` or `min` compares.  So calls are given the sources, and count those that are made.

**Arguments.** Each function has its own rule for the number and the names of its arguments; the
rules differ in their wording too, so every function checks its arguments itself.

* `callBuiltin` calls a built-in function by its name.
* `Value.call` calls any value.
-/

namespace Laminar

/-! ### Checking arguments -/

/-- A function of exactly one positional value. -/
def callSingle (name : String) (args : List Value) (keywords : List (String × Value))
    (f : Value → Except Fault Value) : Except Fault Value :=
  if keywords.isEmpty then
    match args with
    | [v] => f v
    | args => throw (.exactArity name args.length)
  else throw (.noKeywords name)

/-- Keywords of which each must be one of some names; they are checked in order. -/
def knownKeywords (function : String) (names : List String) :
    List (Value × Value) → Except Fault (List (String × Value))
  | [] => pure []
  | (key, v) :: rest =>
    match key.bare with
    | .str k =>
      if names.contains k then do return (k, v) :: (← knownKeywords function names rest)
      else throw (.invalidKeyword function k)
    | _ => throw .keywordsNotText

/-- Arguments that may be given by position or by name: one value per name, if it is given.  A name
that is empty is given by position only. -/
def bindNamed (function : String) (names : List String) (args : List Value)
    (keywords : List (Value × Value)) : Except Fault (List (Option Value)) := do
  let given := args.length + keywords.length
  if names.length < given then throw (.countedArity function names.length given)
  let slot (i : Nat) (name : String) : Except Fault (Option Value) :=
    match args[i]?, lookupKey (.str name) keywords with
    | some _, some _ => throw (.givenByNameAndPosition function name (i + 1))
    | some v, none => pure (some v)
    | none, found => pure found
  let slots ← names.zipIdx.mapM fun (name, i) => slot i name
  let _ ← knownKeywords function names keywords
  return slots

/-! ### Conversions -/

/-- The whole number that a text in a base stands for; `v` is the value that holds the text. -/
def wholeOfText (base : Nat) (v : Value) (s : String) : Except Fault Int :=
  match Decimal.excessDigits? base s with
  | some count => throw (.digitsGiven count)
  | none => match Decimal.readInt? base s with
    | some n => pure n
    | none => throw (.intText base v)

/-- A value as a whole number, cut off towards zero. -/
def Value.toWhole (v : Value) : Except Fault Int :=
  let v := v.scalar
  match v.number?, v.numberText? with
  | some (.int n), _ => pure n
  | some (.float x), _ => match Binary.decode x with
    | .nan => throw .nanToInt
    | .infinite _ => throw (.overflow .infiniteToInt)
    | .finite d => pure d.truncate
  | none, some s => wholeOfText 10 v s
  | _, _ => throw (if v.isArray then .notSingle else .intArgument v.operandType)

/-- A value as a whole number in its own right. -/
def Value.asIndex (v : Value) : Except Fault Int :=
  match v.index? with
  | some n => pure n
  | none => throw (refuseIndex v (.notWhole v.operandType))

/-- A text in a base as a whole number. -/
def wholeInBase (v base : Value) : Except Fault Int := do
  let b ← base.asIndex
  if b < 0 ∨ b = 1 ∨ 36 < b then throw .intBase
  match v.numberText? with
  | some s => wholeOfText b.toNat v s
  | none => throw .intBaseWithoutText

/-- What a conversion makes of a value; a value that is of the right type already is itself. -/
def convertUnless (isConverted : Value → Bool) (convert : Value → Except Fault Value) (v : Value) :
    Except Fault Value :=
  if isConverted v.bare then pure v else convert v

/-- Is a value a whole number in its own right? -/
def Value.isInt : Value → Bool
  | .int _ => true
  | _ => false

/-- Is a value a float in its own right? -/
def Value.isFloat : Value → Bool
  | .float _ => true
  | _ => false

/-- The built-in conversion `int`. -/
def callInt (args : List Value) (keywords : List (Value × Value)) : Except Fault Value := do
  match ← bindNamed "int" ["", "base"] args keywords with
  | [none, none] => return .int 0
  | [some v, none] => convertUnless Value.isInt (fun v => do return .int (← v.toWhole)) v
  | [some v, some base] => return .int (← wholeInBase v base)
  | _ => throw .intTextMissing

/-- The built-in conversion `float`. -/
def callFloat (args : List Value) (keywords : List (String × Value)) : Except Fault Value :=
  if keywords.isEmpty then
    match args with
    | [] => pure (.float 0.0)
    | [v] => convertUnless Value.isFloat (fun v => do return .float (← v.toFloat)) v
    | args => throw (.mostArity "float" 1 args.length)
  else throw (.noKeywords "float")

/-- An argument that must be a text. -/
def checkTextArgument (function name : String) (v : Option Value) : Except Fault Unit :=
  match v.map Value.bare with
  | none | some (.str _) => pure ()
  | some .null => throw (.argumentType function name "str" "None")
  | some v => throw (.argumentType function name "str" v.operandType)

/-- The built-in conversion `str`.  Only a byte text can be decoded. -/
def callText (args : List Value) (keywords : List (Value × Value)) : Except Fault Value := do
  match ← bindNamed "str" ["object", "encoding", "errors"] args keywords with
  | [none, none, none] => return .str ""
  | [some v, none, none] => v.toText
  | [v, encoding, errors] =>
    checkTextArgument "str" "encoding" encoding
    checkTextArgument "str" "errors" errors
    match v.map Value.bare with
    | none => return .str ""
    | some (.str _) => throw .decodedText
    | some (.bytes b) =>
      match String.fromUTF8? (ByteArray.mk b.toArray) with
      | some s => return .str s
      | none => throw .notImplemented
    | some v => throw (.decodedValue v.operandType)
  | _ => return .str ""

/-! ### Other functions -/

/-- The built-in function `range`. -/
def callRange (args : List Value) : Except Fault Value := do
  match args with
  | [] => throw (.leastArity "range" 0)
  | [stop] => return .range 0 (← stop.asIndex) 1
  | [start, stop] => return .range (← start.asIndex) (← stop.asIndex) 1
  | [start, stop, step] =>
    let start ← start.asIndex
    let stop ← stop.asIndex
    let step ← step.asIndex
    if step = 0 then throw (.zeroStep "range")
    return .range start stop step
  | args => throw (.mostArity "range" 3 args.length)

/-- The size of a number.  A whole number that is not negative is itself. -/
def plainMagnitude (v : Value) : Except Fault Value :=
  match v.bare, v.number? with
  | .fixed n, _ => n.magnitude.map .fixed
  | .int n, _ => pure (if n < 0 then .int (-n) else v)
  | _, some n => n.magnitude.map Number.toValue
  | v, none => throw (.absArgument v.operandType)

/-- The size of a number, or of every number in an array. -/
def Value.magnitude (v : Value) : Except Fault Value :=
  match v.bare with
  | .array level shape items => arrayUnary plainMagnitude Fixed.magnitude level shape items
  | _ => plainMagnitude v

/-- Look a key up in a dictionary, with a value for a key that is not there. -/
def callGetter (dict : Value) (args : List Value) (keywords : List (String × Value)) :
    Except Fault Value := do
  if !keywords.isEmpty then throw (.noKeywords "dict.get")
  let entries := match dict.bare with
    | .dict entries => entries
    | _ => []
  let find (key absent : Value) : Except Fault Value := do
    key.checkHashable
    return (lookupKey key entries).getD absent
  match args with
  | [] => throw (.leastArity "get" 0)
  | [key] => find key .null
  | [key, absent] => find key absent
  | args => throw (.mostArity "get" 2 args.length)

/-! ### Extremes -/

/-- The largest or smallest of some items, where `best` with its key is the best so far: a later one
replaces it only if it is strictly better. -/
def extreme (c : Comparison) (key : Value → Drawing Value) (best bestKey : Value) :
    List Value → Drawing Value
  | [] => pure best
  | v :: vs => do
    let k ← key v
    if ← k.precedes c bestKey then extreme c key v k vs else extreme c key best bestKey vs

/-- The largest or smallest of items, with the result for none. -/
def extremeOf (name : String) (c : Comparison) (key : Value → Drawing Value)
    (absent : Option Value) : List Value → Drawing Value
  | [] => match absent with
    | some d => pure d
    | none => throw (.emptyArgument name)
  | v :: vs => do extreme c key v (← key v) vs

/-- The sign by which a function chooses, if it is one that chooses. -/
def extremeSign? : String → Option Comparison
  | "max" => some .gt
  | "min" => some .lt
  | _ => none

/-! ### Calls -/

/-- Call a built-in function that calls no other. -/
def callPlain (name : String) (args : List Value) (keywords : List (String × Value)) :
    Except Fault Value :=
  match name with
  | "len" => callSingle name args keywords fun v => do return .int (← v.length)
  | "int" => callInt args (keywords.map fun k => (.str k.1, k.2))
  | "str" => callText args (keywords.map fun k => (.str k.1, k.2))
  | "abs" => callSingle name args keywords Value.magnitude
  | "float" => callFloat args keywords
  | "range" => if keywords.isEmpty then callRange args else throw (.noKeywords name)
  | _ => throw .notImplemented

/-- Call a value that calls no other. -/
def Value.callPlain (samples : Samples) (callee : Value) (args : List Value)
    (keywords : List (String × Value)) : Drawing Value :=
  match callee.bare with
  | .initClass c => do return .initializer (← Initializer.construct c args keywords)
  | .builtin name => Laminar.callPlain name args keywords
  | .getter d => callGetter d args keywords
  | .initializer i => i.call samples args keywords
  | .layer .. => throw .notImplemented
  | v => throw (.notCallable v.operandType)

/-- What items are compared by: themselves, or what a function makes of them. -/
def sortKey (samples : Samples) (key : Option Value) (v : Value) : Drawing Value :=
  match key.map Value.bare with
  | none | some .null => pure v
  | some (.builtin name) =>
    match extremeSign? name with
    | some c => do extremeOf name c pure none (← v.iterate)
    | none => Laminar.callPlain name [v] []
  | some f => f.callPlain samples [v] []

/-- The built-in functions `max` and `min`. -/
def callExtreme (samples : Samples) (name : String) (c : Comparison) (args : List Value)
    (keywords : List (Value × Value)) : Drawing Value := do
  if args.isEmpty then throw (.leastArity name 0)
  if 2 < keywords.length then throw (.countedKeywords name 2 keywords.length)
  let named ← knownKeywords name ["key", "default"] keywords
  let key := sortKey samples (named.lookup "key")
  let absent := named.lookup "default"
  match args with
  | [v] => extremeOf name c key absent (← v.iterate)
  | args =>
    if absent.isSome then throw (.defaultWithSeveral name)
    extremeOf name c key none args

/-- Call a built-in function. -/
def callBuiltin (samples : Samples) (name : String) (args : List Value)
    (keywords : List (Value × Value)) : Drawing Value :=
  match extremeSign? name, name with
  | some c, _ => callExtreme samples name c args keywords
  | none, "int" => callInt args keywords
  | none, "str" => callText args keywords
  | none, _ => do callPlain name args (← keywordTexts keywords)

/-- Call a value. -/
def Value.call (samples : Samples) (callee : Value) (args : List Value)
    (keywords : List (Value × Value)) : Drawing Value := do
  match callee.bare with
  | .initClass _ | .getter _ | .initializer _ =>
    callee.callPlain samples args (← keywordTexts keywords)
  | .builtin name => callBuiltin samples name args keywords
  | .layer .. => throw .notImplemented
  | v => throw (.notCallable v.operandType)

end Laminar
