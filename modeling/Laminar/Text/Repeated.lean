/-!
# Repeated texts

A text written several times in a row.  A long repetition is made from its own halves, so that it
takes few steps.

* `repeated` repeats a text.
-/

namespace Laminar.Text

/-- A text `n` times in a row. -/
def repeated (s : String) (n : Nat) : String :=
  if _h : n = 0 then ""
  else
    let half := repeated s (n / 2)
    if n % 2 = 0 then half ++ half else half ++ half ++ s
termination_by n

end Laminar.Text
