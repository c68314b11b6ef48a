import Laminar.Numeric.Complex

/-!
# Numbers of fixed width

Numbers as arrays hold them: truth values, whole numbers of 64 bits, floats of single precision,
floats and complex numbers.  Their arithmetic never fails for want of room: a whole result that does
not fit is taken modulo `2 ^ 64`.

**Levels.** Two numbers of different kinds meet at the least level that holds both; the level of a
whole number and a single is that of floats.

* `Fixed` is the type, `Fixed.level` its level.
* `wrap` brings a whole number into the range of 64 bits.
* `powWrapped` is a power modulo `2 ^ 64`.
-/

namespace Laminar

/-- A number of fixed width. -/
inductive Fixed where
  | bool (b : Bool)
  | int (n : Int)
  /-- A float of single precision. -/
  | single (x : Float)
  | float (x : Float)
  | complex (z : Complex)
  deriving DecidableEq, Repr

namespace Fixed

/-- The levels of numbers. -/
inductive Level where
  | bool | int | single | float | complex
  deriving DecidableEq, Repr

/-- The least level that holds the numbers of two. -/
def Level.join : Level → Level → Level
  | .complex, _ | _, .complex => .complex
  | .float, _ | _, .float => .float
  | .single, .int | .int, .single => .float
  | .single, _ | _, .single => .single
  | .int, _ | _, .int => .int
  | .bool, .bool => .bool

/-- The level of a number. -/
def level : Fixed → Level
  | .bool _ => .bool
  | .int _ => .int
  | .single _ => .single
  | .float _ => .float
  | .complex _ => .complex

/-- A whole number modulo `2 ^ 64`, from `-2 ^ 63` up to below `2 ^ 63`. -/
def wrap (n : Int) : Int := n.bmod (Nat.pow 2 64)

/-- Does a whole number fit 64 bits? -/
def fits (n : Int) : Bool := -(Int.pow 2 63) ≤ n && n < Int.pow 2 63

/-- A power modulo `2 ^ 64`, by squaring.  The fuel bounds the bits of the exponent. -/
def powWrapped : (fuel : Nat) → (result square : Int) → Nat → Int
  | 0, result, _, _ => result
  | fuel + 1, result, square, n =>
    if n = 0 then result
    else
      let result := if n % 2 = 1 then wrap (result * square) else result
      powWrapped fuel result (wrap (square * square)) (n / 2)

end Fixed

end Laminar
