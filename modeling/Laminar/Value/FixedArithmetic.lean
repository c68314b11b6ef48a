import Laminar.Value.Arithmetic

/-!
# Arithmetic of numbers of fixed width

A number of fixed width meets another number at the higher of their levels, and the result has fixed
width again.  A whole number of any size must fit 64 bits to take part as a whole number.

**No exceptions.** Division by zero yields infinity, not-a-number or, between whole numbers, zero;
results out of range wrap around.  Only a whole power with a negative exponent is refused.

* `fixedBinary` and `fixedUnary` apply an operator.
* `Value.loopType` names the kind of an operand in a message about an operator that has no rule.
-/

namespace Laminar

open Source (BinaryOp UnaryOp)

/-- The level of a number that is to meet one of fixed width. -/
def Value.level (v : Value) : Fixed.Level :=
  match v.bare with
  | .bool _ => .bool
  | .float _ => .float
  | .complex _ => .complex
  | .fixed n => n.level
  | _ => .int

/-- The name of an operator in messages about its rules. -/
def loopName : BinaryOp → String
  | .add => "add"
  | .sub => "subtract"
  | .mul => "multiply"
  | .div => "divide"
  | .floorDiv => "floor_divide"
  | .mod => "remainder"
  | .pow => "power"
  | .matMul => "matmul"
  | .shiftLeft => "left_shift"
  | .shiftRight => "right_shift"
  | .bitOr => "bitwise_or"
  | .bitXor => "bitwise_xor"
  | .bitAnd => "bitwise_and"

/-- The name of a level in messages about rules of operators. -/
def Fixed.Level.loopType : Fixed.Level → String
  | .bool => "BoolDType"
  | .int => "Int64DType"
  | .single => "Float32DType"
  | .float => "Float64DType"
  | .complex => "Complex128DType"

/-- The kind of an operand in a message about an operator that has no rule for it. -/
def Value.loopType (v : Value) : String :=
  match v.bare with
  | .str _ => "StrDType"
  | .bytes _ => "BytesDType"
  | .int _ => "_PyLongDType"
  | .float _ => "_PyFloatDType"
  | .complex _ => "_PyComplexDType"
  | v => v.level.loopType

/-! ### Operands -/

/-- A number as a whole number of 64 bits. -/
def Value.toFixedInt (v : Value) : Except Fault Int :=
  match v.number? with
  | some (.int n) => if Fixed.fits n then pure n else throw (.overflow .toFixed)
  | _ => pure 0

/-- A number as a float. -/
def Value.toFixedFloat (v : Value) : Except Fault Float :=
  match v.number? with
  | some n => n.toFloat
  | none => pure 0.0

/-- A number in single precision. -/
def Value.toFixedSingle (v : Value) : Except Fault Float :=
  match v.number? with
  | some (.int n) => pure (Binary.singleOfInt n).toFloat
  | _ => v.toFixedFloat.map Binary.roundSingle

/-- A number as a complex number. -/
def Value.toFixedComplex (v : Value) : Except Fault Complex :=
  match v.number? with
  | some n => n.toComplex
  | none => pure ⟨0.0, 0.0⟩

/-- A number at a level that holds it. -/
def Value.toFixed (level : Fixed.Level) (v : Value) : Except Fault Fixed :=
  match level with
  | .bool => pure (.bool v.truth)
  | .int => v.toFixedInt.map .int
  | .single => v.toFixedSingle.map .single
  | .float => v.toFixedFloat.map .float
  | .complex => v.toFixedComplex.map .complex

/-! ### Operators by level -/

/-- An operator on truth values. -/
def fixedBools (op : BinaryOp) (a b : Bool) : Option (Except Fault Fixed) :=
  match op with
  | .add | .bitOr => some (pure (.bool (a || b)))
  | .mul | .bitAnd => some (pure (.bool (a && b)))
  | .bitXor => some (pure (.bool (a != b)))
  | .sub => some (throw .fixedDifference)
  | _ => none

/-- An operator on whole numbers of 64 bits. -/
def fixedInts (op : BinaryOp) (a b : Int) : Option (Except Fault Fixed) :=
  let whole (n : Int) : Option (Except Fault Fixed) := some (pure (.int (Fixed.wrap n)))
  match op with
  | .add => whole (a + b)
  | .sub => whole (a - b)
  | .mul => whole (a * b)
  | .div => some do
    let x ← Number.toFloat (.int a)
    let y ← Number.toFloat (.int b)
    return .float (x / y)
  | .floorDiv => whole (if b = 0 then 0 else a.fdiv b)
  | .mod => whole (if b = 0 then 0 else a.fmod b)
  | .pow =>
    if b < 0 then some (throw .fixedPower) else whole (Fixed.powWrapped 64 1 a b.toNat)
  | .shiftLeft => whole (if 0 ≤ b ∧ b < 64 then a * Int.pow 2 b.toNat else 0)
  | .shiftRight =>
    whole (if 0 ≤ b ∧ b < 64 then a / Int.pow 2 b.toNat else if a < 0 then -1 else 0)
  | .matMul => none
  | op => (wholeBits op a b).map (·.map .int)

/-- An operator on floats. -/
def fixedFloats (op : BinaryOp) (x y : Float) : Option (Except Fault Fixed) :=
  let float (x : Float) : Option (Except Fault Fixed) := some (pure (.float x))
  match op with
  | .add => float (x + y)
  | .sub => float (x - y)
  | .mul => float (x * y)
  | .div => float (x / y)
  | .floorDiv => float (if y == 0.0 then x / y else Binary.floatFloorDiv x y)
  | .mod => float (if y == 0.0 then Binary.nan else Binary.floatModulo x y)
  | .pow => float (Float.pow x y)
  | _ => none

/-- An operator on floats of single precision. -/
def fixedSingles (op : BinaryOp) (x y : Float) : Option (Except Fault Fixed) :=
  (fixedFloats op x y).map (·.map fun
    | .float r => .single (Binary.roundSingle r)
    | r => r)

/-- An operator on complex numbers. -/
def fixedComplexes (op : BinaryOp) (z w : Complex) : Option (Except Fault Fixed) :=
  (complexBinary op z w).map fun r =>
    match r with
    | .ok r => pure (.complex r)
    | .error _ => pure (.complex ⟨Binary.nan, Binary.nan⟩)

/-- An operator on two numbers of one level. -/
def fixedSameLevel (op : BinaryOp) : Fixed → Fixed → Option (Except Fault Fixed)
  | .bool a, .bool b =>
    (fixedBools op a b).orElse fun _ => fixedInts op (if a then 1 else 0) (if b then 1 else 0)
  | .int a, .int b => fixedInts op a b
  | .single x, .single y => fixedSingles op x y
  | .float x, .float y => fixedFloats op x y
  | .complex z, .complex w => fixedComplexes op z w
  | _, _ => none

/-- An operator on two numbers that meet at a level. -/
def fixedAtLevel (op : BinaryOp) (level : Fixed.Level) (v w : Value) : Except Fault Fixed := do
  let a ← v.toFixed level
  let b ← w.toFixed level
  (fixedSameLevel op a b).getD (throw (.noSafeLoop (loopName op)))

/-- The level of the results of an operator on numbers of a level. -/
def resultLevel (op : BinaryOp) (level : Fixed.Level) : Fixed.Level :=
  match op, level with
  | .div, .bool | .div, .int => .float
  | .add, level | .mul, level | .bitOr, level | .bitXor, level | .bitAnd, level => level
  | _, .bool => .int
  | _, level => level

/-- The level at which a plain number of a level meets numbers of another level: in single precision
floats are singles. -/
def Fixed.Level.yielding (level other : Fixed.Level) : Fixed.Level :=
  match other, level with
  | .single, .int | .single, .float => .single
  | _, level => level

/-- The level at which two numbers meet. -/
def meetLevel (v w : Value) : Fixed.Level :=
  let a := if v.isFixed then v.level else v.level.yielding w.level
  let b := if w.isFixed then w.level else w.level.yielding v.level
  a.join b

/-- An operator on two numbers of which one has fixed width. -/
def fixedBinary (op : BinaryOp) (v w : Value) : Except Fault Fixed :=
  if op = .matMul then throw (.operands (operandSign op) v.operandType w.operandType)
  else fixedAtLevel op (meetLevel v w) v w

/-- An operator on one number of fixed width. -/
def fixedUnary (op : UnaryOp) (n : Fixed) : Except Fault Fixed :=
  match op, n with
  | .neg, .bool _ => throw .fixedOpposite
  | .neg, .int n => pure (.int (Fixed.wrap (-n)))
  | .neg, .single x => pure (.single (-x))
  | .neg, .float x => pure (.float (-x))
  | .neg, .complex z => pure (.complex z.neg)
  | .pos, .bool _ => throw (.noLoop "positive" ["BoolDType"])
  | .invert, .bool b => pure (.bool !b)
  | .invert, .int n => pure (.int (-n - 1))
  | .invert, _ => throw (.noSafeLoop "invert")
  | _, n => pure n

/-- The size of a number of fixed width. -/
def Fixed.magnitude : Fixed → Except Fault Fixed
  | .bool b => pure (.bool b)
  | .int n => pure (.int (Fixed.wrap n.natAbs))
  | .single x => pure (.single x.abs)
  | .float x => pure (.float x.abs)
  | .complex z => pure (.float (z.length?.getD (Float.ofBits 0x7ff0000000000000)))

/-! ### Operands of other kinds -/

/-- The plain number that a number of fixed width becomes where anything can be an operand. -/
def Value.plain (v : Value) : Value :=
  match v.bare with
  | .fixed (.bool b) => .bool b
  | .fixed (.int n) => .int n
  | .fixed (.single x) | .fixed (.float x) => .float x
  | .fixed (.complex z) => .complex z
  | _ => v

/-- The name of the type that a value has where anything can be an operand. -/
def Value.plainType (v : Value) : String := v.plain.operandType

/-- Is a value a text of characters or bytes? -/
def Value.isText (v : Value) : Bool :=
  match v.bare with
  | .str _ | .bytes _ => true
  | _ => false

/-- Has an operator one rule for each kind of operands, so that a message names the kinds? -/
def isUniform : BinaryOp → Bool
  | .add | .sub | .mul => true
  | _ => false

/-- Refuse an operator on a number of fixed width and a value that is no number. -/
def refuseFixed (op : BinaryOp) (v w : Value) : Fault :=
  if op = .matMul then .operands (operandSign op) v.operandType w.operandType
  else if v.isText || w.isText then
    if isUniform op then .noLoop (loopName op) [v.loopType, w.loopType]
    else .noSafeLoop (loopName op)
  else .operands (operandSign op) v.plainType w.plainType

end Laminar
