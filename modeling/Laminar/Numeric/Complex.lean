import Laminar.Numeric.Binary

/-!
# Complex numbers

A pair of floats, with the four operations and powers.  Each operation is a fixed sequence of float
operations, so its rounding is fixed too.  A quotient is scaled by the larger part of the divisor.
A small whole exponent multiplies; any other goes through length and angle.

* `Complex.div?` has no result for a divisor of zero, `Complex.pow` says why it has none.
* `Complex.length?` is the distance from zero, rounded once.
-/

namespace Laminar

/-- The number `re + im · i`. -/
structure Complex where
  re : Float
  im : Float
  deriving DecidableEq, Repr

namespace Complex

/-- A real number. -/
def ofFloat (x : Float) : Complex := ⟨x, 0.0⟩

/-- Are both parts zero? -/
def isZero (z : Complex) : Bool := z.re == 0.0 && z.im == 0.0

/-- Equality of both parts. -/
def eq (z w : Complex) : Bool := z.re == w.re && z.im == w.im

/-- The sum. -/
def add (z w : Complex) : Complex := ⟨z.re + w.re, z.im + w.im⟩

/-- The difference. -/
def sub (z w : Complex) : Complex := ⟨z.re - w.re, z.im - w.im⟩

/-- The product. -/
def mul (z w : Complex) : Complex :=
  ⟨z.re * w.re - z.im * w.im, z.re * w.im + z.im * w.re⟩

/-- The opposite number. -/
def neg (z : Complex) : Complex := ⟨-z.re, -z.im⟩

/-- The quotient, unless the divisor is zero. -/
def div? (z w : Complex) : Option Complex :=
  let nan := Float.ofBits 0x7ff8000000000000
  if w.im.abs ≤ w.re.abs then
    if w.re.abs == 0.0 then none
    else
      let ratio := w.im / w.re
      let scale := w.re + w.im * ratio
      some ⟨(z.re + z.im * ratio) / scale, (z.im - z.re * ratio) / scale⟩
  else if w.re.abs ≤ w.im.abs then
    let ratio := w.re / w.im
    let scale := w.re * ratio + w.im
    some ⟨(z.re * ratio + z.im) / scale, (z.im * ratio - z.re) / scale⟩
  else some ⟨nan, nan⟩

/-! ### Length -/

/-- The whole part of a square root, found bit by bit: `root` is at most it, and adding `2 ^ bit` or
more than one such step would be too much. -/
def wholeRoot (n : Nat) : (bits : Nat) → (root : Nat) → Nat
  | 0, root => root
  | bit + 1, root =>
    let next := root + Nat.pow 2 bit
    wholeRoot n bit (if next * next ≤ n then next else root)

/-- The float nearest to the square root of `n · 4 ^ q`.  The root is taken with some bits more than
a float has, and a last bit says whether anything is left. -/
def rootOf (n : Nat) (q : Int) : Option Float :=
  let extra : Nat := 64
  let scaled := n * Nat.pow 4 extra
  let root := wholeRoot scaled (scaled.log2 / 2 + 1) 0
  let sticky := if root * root < scaled then 1 else 0
  Binary.ofDyadic ⟨false, 2 * root + sticky, q - extra - 1⟩

/-- The distance from zero; `none` if it is too large for a float. -/
def length? (z : Complex) : Option Float :=
  let infinity := Float.ofBits 0x7ff0000000000000
  match Binary.decode z.re, Binary.decode z.im with
  | .infinite _, _ | _, .infinite _ => some infinity
  | .nan, _ | _, .nan => some (Float.ofBits 0x7ff8000000000000)
  | .finite a, .finite b =>
    let q := min a.exponent b.exponent
    let m := a.mantissa * Nat.pow 2 (a.exponent - q).toNat
    let n := b.mantissa * Nat.pow 2 (b.exponent - q).toNat
    rootOf (m * m + n * n) q

/-! ### Powers -/

/-- Why a power has no value: it has no direction or divides by zero, or it is too large. -/
inductive PowerFault where
  | undefined
  | tooLarge
  deriving DecidableEq, Repr

/-- A power with a whole exponent, by repeated squaring of `square`.  The fuel bounds the bits of
the exponent. -/
def powWhole : (fuel : Nat) → (result square : Complex) → Nat → Complex
  | 0, result, _, _ => result
  | fuel + 1, result, square, n =>
    if n = 0 then result
    else
      powWhole fuel (if n % 2 = 1 then result.mul square else result) (square.mul square) (n / 2)

/-- A power by length and angle. -/
def powPolar (z w : Complex) : Except PowerFault Complex :=
  if w.isZero then pure ⟨1.0, 0.0⟩
  else if z.isZero then
    if w.im != 0.0 || w.re < 0.0 then throw .undefined else pure ⟨0.0, 0.0⟩
  else
    let length := z.length?.getD (Float.ofBits 0x7ff0000000000000)
    let angle := Float.atan2 z.im z.re
    let size := Float.pow length w.re
    let phase := angle * w.re
    let (size, phase) :=
      if w.im == 0.0 then (size, phase)
      else (size / Float.exp (angle * w.im), phase + w.im * Float.log length)
    -- an infinite angle has no direction
    if phase.isInf then throw .undefined
    else pure ⟨size * Float.cos phase, size * Float.sin phase⟩

/-- The largest whole exponent, up to its sign, that multiplies. -/
def maxWholeExponent : Float := 100.0

/-- A power. -/
def pow (z w : Complex) : Except PowerFault Complex := do
  let whole : Option Int :=
    match Binary.decode w.re with
    | .finite d =>
      if w.im == 0.0 && d.isWhole && w.re.abs ≤ maxWholeExponent then some d.truncate else none
    | _ => none
  let r ← match whole with
    | some n =>
      let p := powWhole 8 ⟨1.0, 0.0⟩ z n.natAbs
      if 0 < n then pure p
      else match div? ⟨1.0, 0.0⟩ p with
        | some r => pure r
        | none => throw .undefined
    | none => powPolar z w
  match Binary.decode r.re, Binary.decode r.im with
  | .infinite _, _ | _, .infinite _ => throw .tooLarge
  | _, _ => return r

end Complex

end Laminar
