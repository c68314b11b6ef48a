/-!
# Ranges

The whole numbers from a start up to, but not, a stop, in steps.

* `rangeLength`, `rangeItems`, `rangeContains` read a range.
* `rangeKey` is what tells two ranges apart: their numbers, and nothing else.
-/

namespace Laminar

/-- How many numbers a range holds. -/
def rangeLength (start stop step : Int) : Nat :=
  if step > 0 then ((stop - start + step - 1) / step).toNat
  else if step < 0 then ((start - stop - step - 1) / (-step)).toNat
  else 0

/-- The numbers of a range. -/
def rangeItems (start stop step : Int) : List Int :=
  (List.range (rangeLength start stop step)).map fun (i : Nat) => start + step * (i : Int)

/-- Does a range hold a number? -/
def rangeContains (start stop step n : Int) : Bool :=
  (if step > 0 then start ≤ n ∧ n < stop else stop < n ∧ n ≤ start) && (n - start) % step == 0

/-- The length of a range, its start if it holds a number, and its step if it holds two. -/
def rangeKey (start stop step : Int) : Nat × Option Int × Option Int :=
  match rangeLength start stop step with
  | 0 => (0, none, none)
  | 1 => (1, some start, none)
  | n => (n, some start, some step)

end Laminar
