import Mathlib
import Laminar.Proofs.Minting
import Laminar.Workspace

/-!
# Fresh names never repeat

A workspace hands out names one call at a time, and the hint of a call may be any text: also one
that holds `#` or digits, or that is itself a name handed out before.  What keeps the names apart is
the number that each call takes.  It is always taken, also by a call that fails because its number
is too long to be written.

* `Workspace.mintEach` is a series of calls.
* `Workspace.run_fresh` says what one call does, `Workspace.run_mintEach` what a series does.
* `Workspace.fresh_never_repeats`: **the names are distinct, each of them tells the hint and the
  number of its call, and the counter has moved by the number of calls.**
-/

namespace Laminar

/-- The hint at a place of a run of mintings gets the number at that distance from the first. -/
theorem getElem?_mintedFrom (hints : List String) (n : Int) (i : Nat) :
    (mintedFrom hints n)[i]? = hints[i]?.map (·, n + i) := by
  induction hints generalizing n i with
  | nil => rfl
  | cons hint hints ih =>
    cases i with
    | zero => simp [mintedFrom]
    | succ i =>
      rw [mintedFrom, List.getElem?_cons_succ, List.getElem?_cons_succ, ih, Nat.cast_succ,
        add_assoc, add_comm (1 : Int)]

namespace Workspace

/-- Mint a name for each of several hints, one call after the other: what every call gives, also one
that fails. -/
def mintEach : List String → StateM Workspace (List (Except Failure String))
  | [] => pure []
  | hint :: hints => do
    let outcome ← (fresh hint).run
    return outcome :: (← mintEach hints)

/-- What a call with a hint gives when the counter stands at a number. -/
def minting (m : String × Int) : Except Failure String :=
  if intWritable m.2 then .ok (mint m.1 m.2) else .error (.fault .digitLimit)

/-- **One call** gives what its hint and the counter say, and moves the counter on whether it fails
or not. -/
theorem run_fresh (hint : String) (w : Workspace) :
    (fresh hint).run w = (minting (hint, w.counters.current),
      { w with counters := w.counters.setCurrent (w.counters.current + 1) }) := by
  rw [fresh, run_bind, run_get]
  simp only [run_bind, run_set, minting]
  cases intWritable w.counters.current with
  | false => rfl
  | true => rfl

/-- A series begins with its first call and goes on from the workspace that the call leaves. -/
theorem run_mintEach_cons {hint : String} {w u : Workspace} {outcome : Except Failure String}
    (h : (fresh hint).run w = (outcome, u)) (hints : List String) :
    (mintEach (hint :: hints)).run w =
      (outcome :: ((mintEach hints).run u).1, ((mintEach hints).run u).2) := by
  have hfirst : StateT.run (fresh hint).run w = (outcome, u) := h
  rw [mintEach, StateT.run_bind, hfirst]
  rfl

/-- **A series of calls** gives what the hints and the numbers from the counter on say, and moves
the counter by one for each call. -/
theorem run_mintEach (hints : List String) (w : Workspace) :
    ((mintEach hints).run w).1 = (mintedFrom hints w.counters.current).map minting ∧
      ((mintEach hints).run w).2.counters.current = w.counters.current + hints.length := by
  induction hints generalizing w with
  | nil => exact ⟨rfl, (add_zero _).symm⟩
  | cons hint hints ih =>
    -- the first call leaves the counter one further, and the others go on from there
    set u : Workspace :=
      { w with counters := w.counters.setCurrent (w.counters.current + 1) } with hu
    have hcurrent : u.counters.current = w.counters.current + 1 := Counters.current_setCurrent _ _
    obtain ⟨houtcomes, hcounter⟩ := ih u
    rw [run_mintEach_cons (run_fresh hint w)]
    constructor
    · rw [houtcomes, hcurrent, mintedFrom, List.map_cons]
    · rw [hcounter, hcurrent, List.length_cons, Nat.cast_succ, add_assoc, add_comm (1 : Int)]

/-- The names among the outcomes of some calls. -/
def namesOf (outcomes : List (Except Failure String)) : List String :=
  outcomes.filterMap Except.toOption

/-- The names that come back are those of the numbers that can be written. -/
theorem namesOf_minting (ms : List (String × Int)) :
    namesOf (ms.map minting) =
      (ms.filter fun m => intWritable m.2).map fun m => mint m.1 m.2 := by
  induction ms with
  | nil => rfl
  | cons m ms ih =>
    rw [namesOf] at ih
    rw [namesOf, List.map_cons, List.filterMap_cons, ih, List.filter_cons, minting]
    cases intWritable m.2 with
    | false => rfl
    | true => rfl

/-- Names with different numbers are different, whatever their hints are. -/
theorem nodup_namesOf_minting {ms : List (String × Int)} (h : (ms.map Prod.snd).Nodup) :
    (namesOf (ms.map minting)).Nodup := by
  rw [namesOf_minting]
  have hnumbers : (((ms.filter fun m => intWritable m.2).map fun m => mint m.1 m.2).map
      mintedNumber) = ((ms.filter fun m => intWritable m.2).map Prod.snd).map some := by
    rw [List.map_map, List.map_map]
    refine List.map_congr_left fun m _ => ?_
    simp only [Function.comp_apply, mintedNumber_mint]
  refine List.Nodup.of_map mintedNumber ?_
  rw [hnumbers]
  exact (h.sublist (List.filter_sublist.map Prod.snd)).map (Option.some_injective Int)

/-- **Fresh names never repeat.**  Take any workspace, so any counter, and any series of calls.  No
name comes back twice; the name of every call tells its hint and its number, which is that of the
first call plus the calls in between; a call has no name exactly if its number cannot be written;
and the counter has moved by the number of calls. -/
theorem fresh_never_repeats (w : Workspace) (hints : List String) :
    let outcomes := ((mintEach hints).run w).1
    (namesOf outcomes).Nodup ∧
      outcomes.length = hints.length ∧
      (∀ (i : Nat) (hint : String), hints[i]? = some hint →
        (intWritable (w.counters.current + i) = true →
          ∃ name, outcomes[i]? = some (.ok name) ∧ mintedHint name = hint ∧
            mintedNumber name = some (w.counters.current + i)) ∧
        (intWritable (w.counters.current + i) = false →
          outcomes[i]? = some (.error (.fault .digitLimit)))) ∧
      ((mintEach hints).run w).2.counters.current = w.counters.current + hints.length := by
  obtain ⟨houtcomes, hcounter⟩ := run_mintEach hints w
  simp only [houtcomes]
  refine ⟨nodup_namesOf_minting (nodup_numbers_mintedFrom hints _), ?_, ?_, hcounter⟩
  · rw [List.length_map, length_mintedFrom]
  · intro i hint hhint
    have hcall : ((mintedFrom hints w.counters.current).map minting)[i]? =
        some (minting (hint, w.counters.current + i)) := by
      rw [List.getElem?_map, getElem?_mintedFrom, hhint]
      rfl
    rw [hcall, minting]
    constructor
    · intro hwritable
      rw [if_pos hwritable]
      exact ⟨_, rfl, mintedHint_mint _ _, mintedNumber_mint _ _⟩
    · intro hwritable
      rw [hwritable, if_neg Bool.false_ne_true]

/-- The last number that can be written goes to a hint that looks like a name, and the call after it
has a number but no name. -/
theorem fresh_never_repeats_last :
    let w : Workspace := { counters := { own := some (Decimal.digitBound - 1) } }
    let hints := ["##w#0", "x#1"]
    let outcomes := ((mintEach hints).run w).1
    (∃ name, outcomes[0]? = some (.ok name) ∧ mintedHint name = "##w#0" ∧
        mintedNumber name = some (w.counters.current + (0 : Nat))) ∧
      outcomes[1]? = some (.error (.fault .digitLimit)) ∧
      ((mintEach hints).run w).2.counters.current = w.counters.current + hints.length := by
  intro w hints outcomes
  obtain ⟨-, -, hcalls, hcounter⟩ := fresh_never_repeats w hints
  have hlast : intWritable (w.counters.current + (0 : Nat)) = true := by decide +kernel
  have hbeyond : intWritable (w.counters.current + (1 : Nat)) = false := by decide +kernel
  exact ⟨(hcalls 0 "##w#0" rfl).1 hlast, (hcalls 1 "x#1" rfl).2 hbeyond, hcounter⟩

end Workspace

end Laminar
