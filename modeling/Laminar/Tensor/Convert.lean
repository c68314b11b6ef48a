import Laminar.Decimal.Reader
import Laminar.Tensor.Basic
import Laminar.Value.Arithmetic

/-!
# Arrays from values

Nested lists and tuples are read as an array.  The shape of a list is its length followed by the
longest shape that all its items begin with; when an item goes on beyond that, the nesting is
ragged.

**Elements** are converted one by one to 64-bit floats and rounded to single precision: texts are
parsed, and nothing is not-a-number.  A whole number of fixed width is rounded only once.

**Kinds.** An array that fills another shape is first read as an array of its own, whose elements
are all of one kind, the least that holds every element.  Then a text among numbers makes texts of
them all, and whole numbers are rounded only once.

* `Tensor.ofValue` reads an array of the shape that the value has.
* `Tensor.filled` fills an array of a given shape, repeating the value along missing or unit axes.
* `readShape` reads a shape.
-/

namespace Laminar

/-! ### Elements -/

/-- The text that a value gives to be read as a number. -/
def Value.numberText? (v : Value) : Option String :=
  match v.bare with
  | .str s => some s
  | .bytes b => some (String.ofList (b.map fun x => Char.ofNat x.toNat))
  | _ => none

/-- The only item of an array without axes; any other value is itself. -/
def Value.scalar (v : Value) : Value :=
  match v.bare with
  | .array _ [] [item] => item
  | _ => v

/-- A value as a float. -/
def Value.toFloat (v : Value) : Except Fault Float :=
  let v := v.scalar
  match v.number?, v.numberText? with
  | some (.complex _), _ => throw (.floatArgument v.operandType)
  | some n, _ => n.toFloat
  | none, some s => match Decimal.readFloat? s with
    | some x => pure x
    | none => throw (.floatText v)
  | none, none => throw (if v.isArray then .notSingle else .floatArgument v.operandType)

/-- A value as an element of an array. -/
def Value.toElement (v : Value) : Except Fault Float32 :=
  match v.bare with
  | .null => pure Binary.nan.toFloat32
  | v => do return (← v.toFloat).toFloat32

/-- A value as an element of an array that is read from it. -/
def Value.toDirectElement (v : Value) : Except Fault Float32 :=
  match v.bare with
  | .fixed (.int n) => pure (Binary.singleOfInt n)
  | v => v.toElement

/-! ### Kinds -/

/-- The kinds of elements of an array that has not been converted yet. -/
inductive ElementKind where
  | bool | int | wide | float | text | any
  deriving DecidableEq, Repr

/-- The kind of a value as an element. -/
def Value.elementKind (v : Value) : ElementKind :=
  match v.bare with
  | .bool _ | .fixed (.bool _) => .bool
  | .int n =>
    if Fixed.fits n then .int else if 0 ≤ n && n < Int.pow 2 64 then .wide else .any
  | .fixed (.int _) => .int
  | .float _ | .fixed (.single _) | .fixed (.float _) => .float
  | .str _ => .text
  | _ => .any

/-- The least kind that holds the elements of two. -/
def ElementKind.join : ElementKind → ElementKind → ElementKind
  | .any, _ | _, .any => .any
  | .text, _ | _, .text => .text
  | .float, _ | _, .float => .float
  | .wide, .int | .int, .wide => .float
  | .wide, _ | _, .wide => .wide
  | .int, _ | _, .int => .int
  | .bool, .bool => .bool

/-- The kind that holds all elements. -/
def commonKind : List Value → ElementKind
  | [] => .float
  | v :: vs => vs.foldl (fun k w => k.join w.elementKind) v.elementKind

/-- A text as the element of a text array: zero characters at its end are lost. -/
def textElement (v : Value) : String :=
  String.ofList ((v.display.toList.reverse.dropWhile (· == '\x00')).reverse)

/-- An element of a kind in single precision. -/
def ElementKind.convert (k : ElementKind) (v : Value) : Except Fault Float32 :=
  match k, v.number? with
  | .bool, some (.int n) | .int, some (.int n) | .wide, some (.int n) => pure (Binary.singleOfInt n)
  | .text, _ =>
    match Decimal.readFloat? (textElement v) with
    | some x => pure x.toFloat32
    | none => throw (.fixedFloatText (textElement v))
  | _, _ => v.toElement

/-! ### Shapes -/

/-- The items of a value that is a sequence in the eyes of an array. -/
def arrayItems? (v : Value) : Option (List Value) :=
  match v.bare with
  | .list items => some items
  | .tuple items => some items
  | .range start stop step => some ((rangeItems start stop step).map .int)
  | .array level shape items => some (arrayParts level shape items)
  | _ => none

/-- The longest list that two lists begin with. -/
def commonFront : List Nat → List Nat → List Nat
  | a :: as, b :: bs => if a = b then a :: commonFront as bs else []
  | _, _ => []

/-- What is known of the shape of some values: the shape they agree on, and whether all of them end
there. -/
structure Extent where
  shape : List Nat
  regular : Bool
  deriving DecidableEq, Repr

/-- What two values agree on. -/
def Extent.meet (a b : Extent) : Extent :=
  let shape := commonFront a.shape b.shape
  { shape, regular := a.regular && b.regular && shape == a.shape && shape == b.shape }

mutual

/-- The shape of a value. -/
def Value.extent : Value → Extent
  | .list items => listExtent items
  | .tuple items => listExtent items
  | .range start stop step => ⟨[rangeLength start stop step], true⟩
  | .array _ shape _ => ⟨shape, true⟩
  | .kept _ v => v.extent
  | _ => ⟨[], true⟩
termination_by structural v => v

/-- The shape of a list of values. -/
def listExtent : List Value → Extent
  | [] => ⟨[0], true⟩
  | v :: vs =>
    let inner := itemsExtent v.extent vs
    { inner with shape := (vs.length + 1) :: inner.shape }
termination_by structural vs => vs

/-- The shape that further values agree on with what is known so far. -/
def itemsExtent (known : Extent) : List Value → Extent
  | [] => known
  | v :: vs => itemsExtent (known.meet v.extent) vs
termination_by structural vs => vs

end

/-- The most axes that an array can have. -/
def maxAxes : Nat := 64

/-- The shape of a value, which must not be ragged or nested too deeply. -/
def Value.arrayShape (v : Value) : Except Fault (List Nat) :=
  let e := v.extent
  if maxAxes < e.shape.length then throw .nestedTooDeep
  else if e.regular then pure e.shape
  else throw (.ragged e.shape)

/-- The leaves of a value down to a depth, in row-major order. -/
def leaves : Nat → Value → List Value
  | 0, v => [v]
  | depth + 1, v => match arrayItems? v with
    | some items => items.flatMap (leaves depth)
    | none => [v]

/-- The array that a value stands for. -/
def Tensor.ofValue (v : Value) : Except Fault Tensor := do
  let shape ← v.arrayShape
  return { shape, data := ← (leaves shape.length v).mapM Value.toDirectElement }

/-! ### Filling a shape -/

/-- A dimension: a whole number, but no truth value. -/
def Value.dimension (v : Value) : Except Fault Int :=
  match v.bare, v.index? with
  | .bool _, _ | .fixed (.bool _), _ => throw .dimensionNotWhole
  | _, some n => if Fixed.fits n then pure n else throw .dimensionTooLarge
  | v, none => throw (.notWhole v.operandType)

/-- The items of a value that is a sequence in the eyes of a shape. -/
def shapeItems? (v : Value) : Option (List Value) :=
  match v.bare with
  | .dict _ | .set _ | .node _ => none
  | v => v.items?

/-- The dimensions that a value gives as a shape: one whole number or a sequence of them. -/
def Value.dimensions (v : Value) : Except Fault (List Int) :=
  match shapeItems? v with
  | some items =>
    if maxAxes < items.length then throw (.tooManyDimensions items.length)
    else items.mapM Value.dimension
  | none => match v.dimension with
    | .ok n => pure [n]
    | .error .dimensionTooLarge => throw .dimensionTooLarge
    | .error _ => throw (.notShape v)

/-- The most bytes that an array may need. -/
def maxBytes : Nat := Nat.pow 2 63 - 1

/-- A shape without negative dimensions whose elements, `bytes` each, fit in memory; axes of length
zero do not count. -/
def checkDimensions (bytes : Nat) : List Int → Except Fault (List Nat)
  | [] => pure []
  | d :: rest => do
    if d < 0 then throw .negativeDimension
    let total := if d = 0 then bytes else bytes * d.toNat
    if maxBytes < total then throw .arrayTooBig
    return d.toNat :: (← checkDimensions total rest)

/-- The shape that a value gives for elements of a number of bytes. -/
def readShape (bytes : Nat) (v : Value) : Except Fault (List Nat) := do
  checkDimensions bytes (← v.dimensions)

/-- Drop leading unit axes of a shape as long as it has more axes than `axes`. -/
def dropUnitAxes (axes : Nat) : List Nat → List Nat
  | 1 :: rest => if axes ≤ rest.length then dropUnitAxes axes rest else 1 :: rest
  | shape => shape

/-- Can an array of a shape be repeated to fill another? Axes are compared from the last. -/
def fills (source target : List Nat) : Bool :=
  source.length ≤ target.length &&
    (source.reverse.zip target.reverse).all fun (s, t) => s == t || s == 1

/-- Repeat the elements of an array of shape `source`, given with as many axes as `target`. -/
def spread {α : Type} : (source target : List Nat) → List α → List α
  | s :: source, t :: target, data =>
    let block := elementCount source
    let rows := (List.range s).map fun i =>
      spread source target ((data.drop (i * block)).take block)
    if s = t then rows.flatten else (List.replicate t rows.flatten).flatten
  | _, _, data => data

/-- The array of a shape that a value fills. -/
def Tensor.filled (shape : List Nat) (v : Value) : Except Fault Tensor := do
  let given ← v.arrayShape
  let source := dropUnitAxes shape.length given
  if !fills source shape then throw (.broadcast source shape)
  if elementCount shape = 0 then return { shape, data := [] }
  let elements := leaves given.length v
  -- a single number is no array of its own
  let kind := if given.isEmpty && v.elementKind != .text then .any else commonKind elements
  let data ← elements.mapM fun e => match e.bare with
    | .fixed (.int _) => if given.isEmpty then e.toDirectElement else kind.convert e
    | e => kind.convert e
  let padded := List.replicate (shape.length - source.length) 1 ++ source
  return { shape, data := spread padded shape data }

end Laminar
