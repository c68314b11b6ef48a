import Laminar.Tensor.Convert
import Laminar.Value.Operators

/-!
# Filling weights

An initializer fills an array of a shape.  Random ones draw from a source of samples, and what a
source yields is not known: it is a function of the draw and of the place of the sample, which may
be any.  A call that is given no source makes a new one, so there is a sequence of sources, of which
each is used once.

One kind of source is known: it has a list of unit samples that is used over and over.  A normal
draw with a mean and a deviation yields `mean + deviation * u`, a uniform draw between two bounds
yields `low + (high - low) * u`.

* `SampleSource` is a source of samples, `Samples` are the sources that are made one after the
  other.
* `Initializer.fill` gives the array that is filled from unit samples, and the draws that were asked
  for.
-/

namespace Laminar

/-- How samples are distributed. -/
inductive Distribution where
  | normal | uniform
  deriving DecidableEq, Repr

/-- The name of a distribution. -/
def Distribution.name : Distribution → String
  | .normal => "normal"
  | .uniform => "uniform"

/-- A request for samples. -/
structure Draw where
  distribution : Distribution
  first : Float
  second : Float

/-- The sample that a draw makes of a unit sample. -/
def Draw.sample (d : Draw) (u : Float) : Float :=
  match d.distribution with
  | .normal => d.first + d.second * u
  | .uniform => d.first + (d.second - d.first) * u

/-- A source of samples: what it yields to a draw, sample by sample. -/
abbrev SampleSource := Draw → Nat → Float

/-- The sources of samples that are made one after the other. -/
abbrev Samples := Nat → SampleSource

/-- Sources that yield zeros. -/
def Samples.zeros : Samples := fun _ _ _ => 0.0

/-- The source that reads a list of unit samples over and over. -/
def SampleSource.ofUnits (units : List Float) : SampleSource :=
  fun d i => d.sample (units.getD (i % units.length) 0.0)

/-- The array of a shape that a draw fills from a source. -/
def Draw.fill (d : Draw) (source : SampleSource) (shape : List Nat) : Tensor :=
  { shape, data := (List.range (elementCount shape)).map fun i => (source d i).toFloat32 }

/-- A value as a factor of a product of dimensions. -/
def Value.toDimension (v : Value) : Except Fault Int :=
  match v.index? with
  | some n => pure n
  | none => throw (.notWhole v.operandType)

/-- The product of dimensions. -/
def product (dims : List Int) : Int := dims.foldl (· * ·) 1

/-- The sum of the fan-in and the fan-out of a weight matrix of a shape.  One axis counts as both.
The first dimension need not be a whole number. -/
def fanSum : List Value → Except Fault Value
  | [] => pure (.int 2)
  | [n] => do return .int (2 * (← n.toDimension))
  | out :: rest => do Value.binary .add (.int (product (← rest.mapM Value.toDimension))) out

/-- The bound of the uniform draw that suits a weight matrix of a shape: the square root of six over
the sum of its fan-in and fan-out. -/
def balancedBound (dims : List Value) : Except Fault Float := do
  let fans ← fanSum dims
  let most ← Value.ordered .gt (.int 1) fans
  return Float.sqrt (6.0 / (← (if most then Value.int 1 else fans).toFloat))

/-- The array that an initializer makes, with the draws it asked for. -/
def Initializer.fill (i : Initializer) (units : List Float) (shape : Value) :
    Except Fault (Tensor × List Draw) := do
  let drawn (d : Draw) : Except Fault (Tensor × List Draw) := do
    return (d.fill (.ofUnits units) (← readShape 8 shape), [d])
  match i with
  | .base => throw .notImplemented
  | .gaussian mean std => drawn ⟨.normal, ← mean.toFloat, ← std.toFloat⟩
  | .uniform low high => drawn ⟨.uniform, ← low.toFloat, ← high.toFloat⟩
  | .constant value =>
    let dims ← readShape 4 shape
    return (← Tensor.filled dims value, [])
  | .xavier =>
    let bound ← balancedBound (← shape.iterate)
    drawn ⟨.uniform, -bound, bound⟩

end Laminar
