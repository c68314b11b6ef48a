import Laminar.Numeric.Quotient
import Laminar.Source.Expr
import Laminar.Value.Sequence

/-!
# Arithmetic of numbers

Whole numbers are unbounded; a truth value counts as zero or one.  A whole number and a float meet
as floats, and either meets a complex number as one.  `/` of whole numbers is the correctly rounded
quotient, `//` and `%` round down, and a negative power of a whole number is a float.  A power of a
negative number that is no real number is complex.

* `Number.binary` applies an operator to two numbers, `Number.negated` and `Number.magnitude` change
  one.
* `wholeBits` are the operators on the bits of whole numbers.
-/

namespace Laminar

open Source (BinaryOp)

/-- How an operator is named in a message about its operands. -/
def operandSign : BinaryOp → String
  | .add => "+"
  | .sub => "-"
  | .mul => "*"
  | .div => "/"
  | .floorDiv => "//"
  | .mod => "%"
  | .pow => "** or pow()"
  | .matMul => "@"
  | .shiftLeft => "<<"
  | .shiftRight => ">>"
  | .bitOr => "|"
  | .bitXor => "^"
  | .bitAnd => "&"

/-- A number as a float. -/
def Number.toFloat : Number → Except Fault Float
  | .float x => pure x
  | .int n => match Binary.ofInt n with
    | some x => pure x
    | none => throw (.overflow .toFloat)
  | .complex _ => throw (.floatArgument "complex")

/-- A number as a complex number. -/
def Number.toComplex : Number → Except Fault Complex
  | .complex z => pure z
  | n => do return .ofFloat (← n.toFloat)

/-! ### Operators by kind of number -/

/-- An operator on complex numbers; `none` if it has none. -/
def complexBinary (op : BinaryOp) (z w : Complex) : Option (Except Fault Complex) :=
  match op with
  | .add => some (pure (z.add w))
  | .sub => some (pure (z.sub w))
  | .mul => some (pure (z.mul w))
  | .div => some (match z.div? w with
    | some r => pure r
    | none => throw (.dividedByZero .complexQuotient))
  | .pow => some (match z.pow w with
    | .ok r => pure r
    | .error .undefined => throw (.dividedByZero .complexPower)
    | .error .tooLarge => throw (.overflow .complexPower))
  | _ => none

/-- A power of floats. -/
def floatPower (x y : Float) : Except Fault Number :=
  let result := Float.pow x y
  match Binary.decode x, Binary.decode y with
  | .finite d, .finite e =>
    if x == 0.0 && y < 0.0 then throw (.dividedByZero .power)
    else if d.negative && x != 0.0 && !e.isWhole then
      ((complexBinary .pow (.ofFloat x) (.ofFloat y)).getD (pure ⟨0.0, 0.0⟩)).map .complex
    else match Binary.decode result with
      | .infinite _ => throw (.overflow .power)
      | _ => pure (.float result)
  | _, _ => pure (.float result)

/-- An operator on floats; `none` if it has none. -/
def floatBinary (op : BinaryOp) (x y : Float) : Option (Except Fault Number) :=
  match op with
  | .add => some (pure (.float (x + y)))
  | .sub => some (pure (.float (x - y)))
  | .mul => some (pure (.float (x * y)))
  | .div =>
    some (if y == 0.0 then throw (.dividedByZero .floatQuotient) else pure (.float (x / y)))
  | .floorDiv =>
    some (if y == 0.0 then throw (.dividedByZero .floatFloor)
      else pure (.float (Binary.floatFloorDiv x y)))
  | .mod =>
    some (if y == 0.0 then throw (.dividedByZero .floatRemainder)
      else pure (.float (Binary.floatModulo x y)))
  | .pow => some (floatPower x y)
  | _ => none

/-- The bits of whole numbers, taken one by one from the last; a negative number has ones without
end.  The fuel bounds the bits. -/
def bitwise (f : Bool → Bool → Bool) : (fuel : Nat) → Int → Int → Int
  | 0, a, b => if f (a < 0) (b < 0) then -1 else 0
  | fuel + 1, a, b =>
    let bit := if f (a % 2 = 1) (b % 2 = 1) then 1 else 0
    bit + 2 * bitwise f fuel (a / 2) (b / 2)

/-- The most bits that a shift may add. -/
def maxShift : Int := Int.pow 2 32

/-- An operator on the bits of whole numbers; `none` if it is none. -/
def wholeBits (op : BinaryOp) (a b : Int) : Option (Except Fault Int) :=
  let bits := max a.natAbs.log2 b.natAbs.log2 + 1
  match op with
  | .bitAnd => some (pure (bitwise (· && ·) bits a b))
  | .bitOr => some (pure (bitwise (· || ·) bits a b))
  | .bitXor => some (pure (bitwise (· != ·) bits a b))
  | .shiftLeft =>
    some (if b < 0 then throw .negativeShift
      else if a = 0 then pure 0
      else if maxShift < b then throw .outOfMemory
      else pure (a * Int.pow 2 b.toNat))
  | .shiftRight =>
    some (if b < 0 then throw .negativeShift
      else if a.natAbs.log2 < b then pure (if a < 0 then -1 else 0)
      else pure (a / Int.pow 2 b.toNat))
  | _ => none

/-- The most bits that a power may have. -/
def maxPowerBits : Nat := Nat.pow 2 36

/-- A power of a whole number.  The powers of zero and of one and its opposite take no multiplying.
-/
def wholePower (a : Int) (n : Nat) : Except Fault Int :=
  if n = 0 ∨ a = 1 then pure 1
  else if a = 0 then pure 0
  else if a = -1 then pure (if n % 2 = 0 then 1 else -1)
  else if maxPowerBits < n * (a.natAbs.log2 + 1) then throw .outOfMemory
  else pure (Int.pow a n)

/-- An operator on whole numbers; `none` if it has none. -/
def wholeBinary (op : BinaryOp) (a b : Int) : Option (Except Fault Number) :=
  match op with
  | .add => some (pure (.int (a + b)))
  | .sub => some (pure (.int (a - b)))
  | .mul => some (pure (.int (a * b)))
  | .div =>
    some (if b = 0 then throw (.dividedByZero .quotient)
      else match Binary.ofRatio ((a < 0) != (b < 0)) a.natAbs b.natAbs with
        | some x => pure (.float x)
        | none => throw (.overflow .quotient))
  | .floorDiv =>
    some (if b = 0 then throw (.dividedByZero .wholeFloor) else pure (.int (a.fdiv b)))
  | .mod =>
    some (if b = 0 then throw (.dividedByZero .wholeRemainder) else pure (.int (a.fmod b)))
  | .pow =>
    some (if 0 ≤ b then (wholePower a b.toNat).map .int
      else do
        let x ← Number.toFloat (.int a)
        let y ← Number.toFloat (.int b)
        floatPower x y)
  | op => (wholeBits op a b).map (·.map .int)

/-! ### Numbers -/

/-- An operator on numbers; `none` if it has none for them. -/
def Number.binary (op : BinaryOp) : Number → Number → Option (Except Fault Number)
  | .int a, .int b => wholeBinary op a b
  | .complex z, m =>
    match m.toComplex with
    | .ok w => (complexBinary op z w).map (·.map .complex)
    | .error f => some (throw f)
  | n, .complex w =>
    match n.toComplex with
    | .ok z => (complexBinary op z w).map (·.map .complex)
    | .error f => some (throw f)
  | n, m =>
    match n.toFloat, m.toFloat with
    | .ok x, .ok y => floatBinary op x y
    | .error f, _ => some (throw f)
    | _, .error f => some (throw f)

/-- The opposite number. -/
def Number.negated : Number → Number
  | .int n => .int (-n)
  | .float x => .float (-x)
  | .complex z => .complex z.neg

/-- The size of a number. -/
def Number.magnitude : Number → Except Fault Number
  | .int n => pure (.int n.natAbs)
  | .float x => pure (.float x.abs)
  | .complex z => match z.length? with
    | some x => pure (.float x)
    | none => throw (.overflow .complexLength)

/-- A number as a value. -/
def Number.toValue : Number → Value
  | .int n => .int n
  | .float x => .float x
  | .complex z => .complex z

end Laminar
