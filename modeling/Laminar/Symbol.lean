import Laminar.Value.Writable

/-!
# Minted register names

Every expansion of a layer needs register names of its own for its inner results.  They are minted
from a hint and a running number: the hint `w` and the number 12 give `##w#12`.  The mark in front
keeps minted names apart from every name that can be written in layer source, and the number, which
is never handed out twice, keeps them apart from each other.

A number of too many digits has no text, so there is no name for it.  It is handed out all the same.

* `mint` makes a name, `isMinted` recognises the mark.
* `mintAll` hands out names for several hints in order, `firstUnwritable` finds the number that
  stands in the way.
* `Counters` are the counters that numbers are taken from, and that of the sources of samples.
-/

namespace Laminar

/-- The mark in front of every minted name. -/
def freshMark : String := "##"

/-- The name minted from a hint with a number. -/
def mint (hint : String) (number : Int) : String :=
  freshMark ++ hint ++ "#" ++ toString number

/-- Does a name carry the mark of minted names? -/
def isMinted (name : String) : Bool := freshMark.toList.isPrefixOf name.toList

/-- Names for several hints, numbered on from a counter, with the counter after them. -/
def mintAll : List String → Int → List String × Int
  | [], n => ([], n)
  | hint :: hints, n =>
    let (names, after) := mintAll hints (n + 1)
    (mint hint n :: names, after)

/-- The first of several numbers from `n` on that cannot be written, if there is one. -/
def firstUnwritable : Nat → Int → Option Int
  | 0, _ => none
  | count + 1, n => if intWritable n then firstUnwritable count (n + 1) else some n

/-- What a compilation counts.  The numbers of minted names come from a shared counter, or from one
of one's own if there is one.  The sources of samples are counted too. -/
structure Counters where
  shared : Int := 0
  own : Option Int := none
  /-- How many sources of samples have been made. -/
  sources : Nat := 0
  deriving DecidableEq, Repr

/-- The counter that is used. -/
def Counters.current (c : Counters) : Int := c.own.getD c.shared

/-- Set the counter that is used. -/
def Counters.setCurrent (c : Counters) (n : Int) : Counters :=
  match c.own with
  | some _ => { c with own := some n }
  | none => { c with shared := n }

/-- The counter that is used is the one that was set. -/
@[simp]
theorem Counters.current_setCurrent (c : Counters) (n : Int) : (c.setCurrent n).current = n := by
  obtain ⟨shared, own, sources⟩ := c
  cases own <;> rfl

/-- A minted name carries the mark. -/
@[simp]
theorem isMinted_mint (hint : String) (n : Int) : isMinted (mint hint n) = true := by
  simp [isMinted, mint, freshMark, List.append_assoc]

/-- The counter advances by the number of hints. -/
@[simp]
theorem snd_mintAll (hints : List String) (n : Int) :
    (mintAll hints n).2 = n + hints.length := by
  induction hints generalizing n with
  | nil => simp [mintAll]
  | cons h hs ih => simp only [mintAll, ih, List.length_cons]; omega

/-- The number that stands in the way is one of those asked for, and it cannot be written. -/
theorem firstUnwritable_eq_some {count : Nat} {n k : Int} (h : firstUnwritable count n = some k) :
    n ≤ k ∧ k < n + count ∧ intWritable k = false := by
  induction count generalizing n with
  | zero => cases h
  | succ count ih =>
    unfold firstUnwritable at h
    split at h
    · obtain ⟨hle, hlt, hk⟩ := ih h
      exact ⟨by omega, by omega, hk⟩
    · rename_i hn
      cases h
      exact ⟨Int.le_refl k, by omega, by simpa using hn⟩

/-- No number stands in the way exactly if all can be written. -/
theorem firstUnwritable_eq_none {count : Nat} {n : Int} :
    firstUnwritable count n = none ↔ ∀ k, n ≤ k → k < n + count → intWritable k = true := by
  constructor
  · intro h
    induction count generalizing n with
    | zero => intro k hle hlt; omega
    | succ count ih =>
      unfold firstUnwritable at h
      split at h
      · rename_i hn
        intro k hle hlt
        by_cases hk : k = n
        · exact hk ▸ hn
        · exact ih h k (by omega) (by omega)
      · cases h
  · intro h
    cases hfirst : firstUnwritable count n with
    | none => rfl
    | some k =>
      obtain ⟨hle, hlt, hk⟩ := firstUnwritable_eq_some hfirst
      rw [h k hle hlt] at hk
      cases hk

end Laminar
