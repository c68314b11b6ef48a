import Laminar.Call.Construct
import Laminar.Tensor.Sampling
import Laminar.Value.Attribute

/-!
# Calling an initializer

An expression may call an initializer with a shape, and with a source of samples; it yields the
array of that shape.  No value of layer source is a source of samples, so one that is given and
counts as true is refused.  Without one a new source is made.  The sources that are made are given
from outside, and nothing is known about them.

* `Drawing` is a computation that may make sources of samples, and counts them.
* `Initializer.call` is the call.
-/

namespace Laminar

/-- An array as a value. -/
def Tensor.toValue (t : Tensor) : Value :=
  .array (some .single) t.shape (t.data.map fun x => .fixed (.single x.toFloat))

/-- Is the sign of a number minus? -/
def isSignedMinus (x : Float) : Bool := !x.isNaN && x.toBits >>> 63 == 1

/-- A draw must have a spread that is not negative. -/
def Draw.check (d : Draw) : Except Fault Unit :=
  match d.distribution with
  | .normal => if isSignedMinus d.second then throw (.raised .badValue "scale < 0") else pure ()
  | .uniform =>
    let range := d.second - d.first
    if !range.isFinite then throw (.raised .overflow "high - low range exceeds valid bounds")
    else if isSignedMinus range then throw (.raised .badValue "high - low < 0")
    else pure ()

/-- A computation that may make sources of samples; the state is how many there have been.  Those
that it made stay made, also if it fails. -/
abbrev Drawing (α : Type) := ExceptT Fault (StateM Nat) α

/-- A new source of samples, unless something is given in its place that counts as true. -/
def Samples.unlessGiven (samples : Samples) (given : Value) : Drawing (Option SampleSource) := do
  if ← given.condition then return none
  modifyGet fun made => (some (samples made), made + 1)

/-- The source that a draw uses.  What is given in the place of one can draw nothing. -/
def sourceFor (d : Distribution) (given : Value) : Option SampleSource → Except Fault SampleSource
  | some source => pure source
  | none => do
    let _ ← given.attribute d.name
    throw .notImplemented

/-- The array that a draw fills.  A draw without a shape is a single float, of which no array is
made. -/
def Draw.call (d : Draw) (source : SampleSource) (shape : Value) : Except Fault Value := do
  d.check
  match shape.bare with
  | .null => throw (.noAttribute "float" "astype")
  | _ => return (d.fill source (← readShape 8 shape)).toValue

/-- Call an initializer. -/
def Initializer.call (samples : Samples) (i : Initializer) (args : List Value)
    (keywords : List (String × Value)) : Drawing Value := do
  let bound ← Constructor.bind
    { name := i.cls.name ++ ".__call__"
      formals := [⟨"self", none⟩, ⟨"shape", none⟩, ⟨"rng", some .null⟩] }
    (.initializer i :: args) keywords
  let shape := bound.values.getD 1 .null
  let given := bound.values.getD 2 .null
  match i with
  | .base => throw .notImplemented
  | .constant value => return (← Tensor.filled (← readShape 4 shape) value).toValue
  | .gaussian mean std =>
    let source ← sourceFor .normal given (← samples.unlessGiven given)
    Draw.call ⟨.normal, ← mean.toFloat, ← std.toFloat⟩ source shape
  | .uniform low high =>
    let source ← sourceFor .uniform given (← samples.unlessGiven given)
    Draw.call ⟨.uniform, ← low.toFloat, ← high.toFloat⟩ source shape
  | .xavier =>
    let made ← samples.unlessGiven given
    let dims ← shape.iterate
    let bound ← balancedBound dims
    let source ← sourceFor .uniform given made
    Draw.call ⟨.uniform, -bound, bound⟩ source (.tuple dims)

end Laminar
