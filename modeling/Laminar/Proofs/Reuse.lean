import Mathlib
import Laminar.Proofs.Comparison

/-!
# One compiler for many requests

A compiler keeps two things between requests: the counters of minted names and of sources of
samples, which are meant to go on, and the frames, which are not.  A frame that stayed behind would
change no program.  It would put a layer and a line that have nothing to do with it into a later
diagnostic.

The requests come one after the other.  None is made while another one is being answered: what runs
in between is the expressions that layers defer, and no value they can get hold of is a compiler.

Frames are pushed and popped around a recursion that can fail anywhere, and a line mark overwrites
the innermost one.  What is preserved, by steps that succeed and by steps that fail, is the stack up
to the line of its innermost frame.

* `Remarked fs fs'`: the stacks are the same up to that line.
* `KeepsFrames m`: however `m` ends, it leaves the frames it found, up to that line.  Every step of
  the compiler does (`stepClosed_keepsFrames`), so the whole of it does (`keepsFrames_resolveCall`).
* `serve` answers a series of requests with one compiler, `serveAfresh` with a new one for each.
* `serve_eq_serveAfresh`: **the answers are the same**, failures and their places included, and no
  frame is ever left behind.
-/

namespace Laminar

/-! ### Frames -/

/-- Two stacks of frames are the same up to the line that is marked in the innermost frame. -/
def Remarked (before after : List Frame) : Prop :=
  after.map Frame.layer = before.map Frame.layer ∧ after.tail = before.tail

namespace Remarked

variable {fs gs hs : List Frame}

theorem refl (fs : List Frame) : Remarked fs fs := ⟨rfl, rfl⟩

theorem trans (h : Remarked fs gs) (h' : Remarked gs hs) : Remarked fs hs :=
  ⟨h'.1.trans h.1, h'.2.trans h.2⟩

/-- Where there is no frame, none appears. -/
theorem eq_nil (h : Remarked [] fs) : fs = [] := List.map_eq_nil_iff.1 h.1

end Remarked

/-- However a compilation ends, it leaves the frames that it found, up to the line of the innermost
one. -/
def KeepsFrames {α : Type} (m : Compile α) : Prop :=
  ∀ s, Remarked s.frames (m.run s).2.frames

section Steps

variable {α β : Type}

/-- What does not touch the state keeps the frames. -/
theorem keepsFrames_of_state {m : Compile α} (h : ∀ s, (m.run s).2 = s) : KeepsFrames m := by
  intro s
  rw [h s]
  exact .refl s.frames

theorem keepsFrames_bind {m : Compile α} {k : α → Compile β} (hm : KeepsFrames m)
    (hk : ∀ a, KeepsFrames (k a)) : KeepsFrames (m >>= k) := by
  intro s
  have hfirst := hm s
  rw [run_bind]
  rcases hrun : m.run s with ⟨e | a, t⟩
  · rw [hrun] at hfirst
    exact hfirst
  · rw [hrun] at hfirst
    exact hfirst.trans (hk a t)

theorem keepsFrames_markLine (line : Int) : KeepsFrames (markLine line) := by
  intro s
  rw [run_markLine, Compiler.marked]
  cases hframes : s.frames with
  | nil =>
    dsimp only
    rw [hframes]
    exact .refl []
  | cons f fs => exact ⟨rfl, rfl⟩

/-- The frame that was pushed is popped, whatever line was marked in it. -/
theorem keepsFrames_withFrame {layer : String} {m : Compile α} (h : KeepsFrames m) :
    KeepsFrames (withFrame layer m) := by
  intro s
  rcases hrun : m.run { s with frames := { layer } :: s.frames } with ⟨result, t⟩
  have htail : t.frames.tail = s.frames := by
    have hbody := (h { s with frames := { layer } :: s.frames }).2
    rw [hrun] at hbody
    exact hbody
  rw [withFrame_of_run hrun]
  dsimp only
  rw [htail]
  exact .refl s.frames

end Steps

/-- Every step of the compiler keeps the frames. -/
theorem stepClosed_keepsFrames : StepClosed fun m _ => KeepsFrames m where
  pure _ := keepsFrames_of_state fun _ => rfl
  bind hm hk := keepsFrames_bind hm hk
  failWith _ := keepsFrames_of_state fun _ => rfl
  markLine := keepsFrames_markLine
  withFrame h := keepsFrames_withFrame h

/-- Compiling a tree keeps the frames if resolving its calls does. -/
theorem keepsFrames_compileNode {resolve : Resolver}
    (h : ∀ callee args output, KeepsFrames (resolve callee args output)) (n : Node) :
    KeepsFrames (compileNode resolve n) :=
  (@StepClosed.compileNode _ resolve resolve stepClosed_keepsFrames h).1 n

/-- So does compiling what a call amounts to. -/
theorem keepsFrames_compileOutcome {resolve : Resolver}
    (h : ∀ callee args output, KeepsFrames (resolve callee args output)) (callee : Value)
    (o : Outcome) : KeepsFrames (compileOutcome resolve callee o) :=
  @StepClosed.compileOutcome _ resolve resolve stepClosed_keepsFrames h callee o

/-- A compiler without frames is a new one with the same counters. -/
theorem Compiler.eq_new {s : Compiler} (h : s.frames = []) : s = { counters := s.counters } := by
  obtain ⟨counters, frames⟩ := s
  obtain rfl : frames = [] := h
  rfl

/-! ### Requests -/

/-- What a compiler can be asked for: to compile a tree, or a call from outside. -/
inductive Request where
  | tree (n : Node)
  | call (name : Value) (inputs : List Value) (output : Value) (params : List (String × Value))

/-- The result of a request, and the compiler after it. -/
abbrev Answer := Except Failure Program × Compiler

section Compiler

variable (lib : Library) (depth : Nat)

/-- Compile what is asked for. -/
def Request.compile : Request → Compile Program
  | .tree n => Laminar.compile lib depth n
  | .call name inputs output params => compileCall lib depth name inputs output params

/-- The answers to a series of requests that one compiler serves. -/
def serve : Compiler → List Request → List Answer
  | _, [] => []
  | s, q :: qs =>
    let answer := (q.compile lib depth).run s
    answer :: serve answer.2 qs

/-- The answers to a series of requests that each get a new compiler, which only takes the counters
over. -/
def serveAfresh : Counters → List Request → List Answer
  | _, [] => []
  | c, q :: qs =>
    let answer := (q.compile lib depth).run { counters := c }
    answer :: serveAfresh answer.2.counters qs

/-- **Resolving a call keeps the frames**, at whatever depth it succeeds or fails. -/
theorem keepsFrames_resolveCall (callee : Value) (args : List Node) (output : Value) :
    KeepsFrames (resolveCall lib depth callee args output) := by
  induction depth generalizing callee args output with
  | zero => exact keepsFrames_of_state fun _ => rfl
  | succ depth ih =>
    intro s
    rw [run_resolveCall]
    rcases expandCall lib callee args output s.counters with ⟨e | o, after⟩
    · exact .refl s.frames
    · exact keepsFrames_compileOutcome ih callee o { s with counters := after }

/-- **A request that finds no frame leaves none.** -/
theorem Request.frames_eq_nil (q : Request) (c : Counters) :
    ((q.compile lib depth).run { counters := c }).2.frames = [] := by
  have hresolve := keepsFrames_resolveCall lib depth
  cases q with
  | tree n =>
    exact (keepsFrames_compileNode hresolve n { counters := c }).eq_nil
  | call name inputs output params =>
    rw [Request.compile, run_compileCall]
    exact (hresolve name (callArguments inputs params) output { counters := c }).eq_nil

/-- **A compiler carries nothing but its counters from one request to the next.** Whatever trees and
calls it is asked for one after the other, and whether or not they compile, it answers each of them
as a new compiler with the same counters would: with the same program or the same failure, and the
same counters afterwards.  One of the counters is that of the sources of samples, so that the two
draw the same samples, whatever they are.  After every request its frames are empty. -/
theorem serve_eq_serveAfresh (c : Counters) (requests : List Request) :
    serve lib depth { counters := c } requests = serveAfresh lib depth c requests ∧
      ∀ answer ∈ serve lib depth { counters := c } requests, answer.2.frames = [] := by
  induction requests generalizing c with
  | nil => exact ⟨rfl, by simp [serve]⟩
  | cons q qs ih =>
    have hempty := q.frames_eq_nil lib depth c
    rw [serve, serveAfresh]
    generalize (q.compile lib depth).run { counters := c } = answer at hempty
    obtain ⟨hsame, hframes⟩ := ih answer.2.counters
    rw [← Compiler.eq_new hempty] at hsame hframes
    exact ⟨congrArg (answer :: ·) hsame, List.forall_mem_cons.2 ⟨hempty, hframes⟩⟩

end Compiler

end Laminar
