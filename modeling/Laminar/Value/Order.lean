import Laminar.Value.Equality

/-!
# Order of values

Real numbers are ordered by value, exactly whatever their types, except that a number of fixed width
meets a float as a float and a complex number as a complex one; texts by code points, byte texts by
bytes; lists and tuples by their first items that differ; a set is below another if it is part of
it.  Nothing else has an order, and not-a-number is neither below nor above any number.

* `Comparison` is one of the four order signs, `Value.ordered` decides it.
-/

namespace Laminar

/-- The order signs. -/
inductive Comparison where
  | lt | le | gt | ge
  deriving DecidableEq, Repr

/-- How an order sign is written. -/
def Comparison.sign : Comparison → String
  | .lt => "<"
  | .le => "<="
  | .gt => ">"
  | .ge => ">="

/-- Does an outcome satisfy an order sign? -/
def Comparison.holds : Comparison → Ordering → Bool
  | .lt, o => o == .lt
  | .le, o => o != .gt
  | .gt, o => o == .gt
  | .ge, o => o != .lt

/-- The order of two real numbers; `none` if one is not a number. -/
def Number.compare : Number → Number → Option Ordering
  | .int a, .int b => some (Ord.compare a b)
  | .int a, .float y => Binary.compareInt a y
  | .float x, .int b => (Binary.compareInt b x).map Ordering.swap
  | .float x, .float y =>
    if x < y then some .lt else if x == y then some .eq else if y < x then some .gt else none
  | _, _ => none

/-- Is a number complex? Such numbers have no order. -/
def Number.isComplex : Number → Bool
  | .complex _ => true
  | _ => false

/-- A number as a complex one; a whole number out of range counts as infinite. -/
def Number.nearComplex : Number → Complex
  | .int n => ⟨(Binary.ofInt n).getD (Float.ofBits 0x7ff0000000000000), 0.0⟩
  | .float x => ⟨x, 0.0⟩
  | .complex z => z

/-- Does an order sign hold between two complex numbers of fixed width? Their real parts decide,
then the others. -/
def Complex.ordered (c : Comparison) (z w : Complex) : Bool :=
  let strict (z w : Complex) : Bool :=
    (z.re < w.re && !z.im.isNaN && !w.im.isNaN) || (z.re == w.re && z.im < w.im)
  let wide (z w : Complex) : Bool :=
    (z.re < w.re && !z.im.isNaN && !w.im.isNaN) || (z.re == w.re && z.im ≤ w.im)
  match c with
  | .lt => strict z w
  | .le => wide z w
  | .gt => strict w z
  | .ge => wide w z

/-- Does an order sign hold between two numbers that meet? -/
def Number.ordered (c : Comparison) (n m : Number) : Bool :=
  if n.isComplex || m.isComplex then n.nearComplex.ordered c m.nearComplex
  else (n.compare m).elim false c.holds

/-- The order of two texts by code points. -/
def compareText (s t : String) : Ordering := Text.compareCodes (Text.codes s) (Text.codes t)

/-- Does an order sign hold between two sets? -/
def setOrdered (c : Comparison) (a b : List Value) : Bool :=
  let within (a b : List Value) : Bool := a.all fun v => b.any v.same
  match c with
  | .lt => a.length < b.length && within a b
  | .le => a.length ≤ b.length && within a b
  | .gt => b.length < a.length && within b a
  | .ge => b.length ≤ a.length && within b a

mutual

/-- Does an order sign hold between two values? -/
def Value.ordered (c : Comparison) : Value → Value → Except Fault Bool
  | .kept _ v, w => v.ordered c w
  | .list a, w =>
    match w.bare with
    | .list b => orderedList c a b
    | w => throw (.notOrdered c.sign "list" w.operandType)
  | .tuple a, w =>
    match w.bare with
    | .tuple b => orderedList c a b
    | w => throw (.notOrdered c.sign "tuple" w.operandType)
  | v, w =>
    match v, w.bare with
    | .str s, .str t => pure (c.holds (compareText s t))
    | .bytes a, .bytes b =>
      pure (c.holds (Text.compareCodes (a.map (·.toNat)) (b.map (·.toNat))))
    | .set a, .set b => pure (setOrdered c a b)
    | v, w =>
      match v.meet? w with
      | some (n, m) =>
        if (n.isComplex || m.isComplex) && !(v.isFixed || w.isFixed) then
          throw (.notOrdered c.sign v.operandType w.operandType)
        else pure (n.ordered c m)
      | none => throw (.notOrdered c.sign v.operandType w.operandType)
termination_by structural v => v

/-- Does an order sign hold between two lists of items? -/
def orderedList (c : Comparison) : List Value → List Value → Except Fault Bool
  | v :: vs, w :: ws => if v.same w then orderedList c vs ws else v.ordered c w
  | vs, ws => pure (c.holds (Ord.compare vs.length ws.length))
termination_by structural vs => vs

end

end Laminar
