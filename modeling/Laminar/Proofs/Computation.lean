import Mathlib
import Laminar.Diagnostic

/-!
# Taking computations apart

Every part of the compiler is written in one of two monads: `Except`, for what either succeeds or
fails, and `ExceptT` over a state, for what also changes a state that survives a failure.  The
theory below asks one question about both: *given that a composite computation succeeded, what did
its parts do?*

* `bind_eq_ok`, `mapError_eq_ok`, `liftFault_eq_ok` answer it for `Except`.
* `run_bind_eq_ok` answers it for a stateful computation, `run_bind` is the equation behind it.
* `bind_eq_error` and `run_bind_eq_error` ask the same of a computation that failed.

The remaining equations say what the state operations do to a state; they hold by unfolding.
-/

namespace Laminar

variable {ε ε' σ α β : Type}

/-! ### Computations that may fail -/

theorem ok_bind (a : α) (k : α → Except ε β) : Except.ok a >>= k = k a := rfl

theorem error_bind (e : ε) (k : α → Except ε β) : Except.error e >>= k = .error e := rfl

/-- A sequence succeeds exactly when both parts do. -/
theorem bind_eq_ok {x : Except ε α} {f : α → Except ε β} {b : β} :
    x >>= f = .ok b ↔ ∃ a, x = .ok a ∧ f a = .ok b := by
  cases x with
  | error e => simp [bind, Except.bind]
  | ok a => simp [bind, Except.bind]

/-- A sequence fails where its first part does, or else where its second part does. -/
theorem bind_eq_error {x : Except ε α} {f : α → Except ε β} {e : ε} :
    x >>= f = .error e ↔ x = .error e ∨ ∃ a, x = .ok a ∧ f a = .error e := by
  cases x with
  | error e => simp [bind, Except.bind]
  | ok a => simp [bind, Except.bind]

@[simp]
theorem pure_eq_ok {a b : α} : (pure a : Except ε α) = .ok b ↔ a = b := by
  simp [pure, Except.pure]

@[simp]
theorem pure_ne_error {a : α} {e : ε} : ¬ (pure a : Except ε α) = .error e := by
  simp [pure, Except.pure]

@[simp]
theorem throw_eq_error {e e' : ε} : (throw e : Except ε α) = .error e' ↔ e = e' := by
  simp [throw, throwThe, MonadExceptOf.throw]

@[simp]
theorem throw_ne_ok {e : ε} {a : α} : ¬ (throw e : Except ε α) = .ok a := by
  simp [throw, throwThe, MonadExceptOf.throw]

/-- Rewording a failure does not touch a success. -/
@[simp]
theorem mapError_eq_ok {f : ε → ε'} {x : Except ε α} {a : α} :
    x.mapError f = .ok a ↔ x = .ok a := by
  cases x <;> simp [Except.mapError]

@[simp]
theorem mapError_eq_error {f : ε → ε'} {x : Except ε α} {e : ε'} :
    x.mapError f = .error e ↔ ∃ e₀, x = .error e₀ ∧ f e₀ = e := by
  cases x <;> simp [Except.mapError]

@[simp]
theorem map_eq_error {f : α → β} {x : Except ε α} {e : ε} :
    x.map f = .error e ↔ x = .error e := by
  cases x <;> simp [Except.map]

@[simp]
theorem map_eq_ok {f : α → β} {x : Except ε α} {b : β} :
    x.map f = .ok b ↔ ∃ a, x = .ok a ∧ f a = b := by
  cases x <;> simp [Except.map]

@[simp]
theorem liftFault_eq_ok {x : Except Fault α} {a : α} : liftFault x = .ok a ↔ x = .ok a := by
  simp [liftFault]

/-! ### Computations with a state -/

/-- A sequence runs its second part from the state that the first part leaves. -/
theorem run_bind (m : ExceptT ε (StateM σ) α) (f : α → ExceptT ε (StateM σ) β) (s : σ) :
    (m >>= f).run s =
      match m.run s with
      | (.ok a, t) => (f a).run t
      | (.error e, t) => (.error e, t) := by
  change (ExceptT.bindCont f (m.run s).1 : StateM σ (Except ε β)) (m.run s).2 = _
  rcases m.run s with ⟨_ | _, t⟩ <;> rfl

/-- A sequence succeeds exactly when both parts do, one after the other. -/
theorem run_bind_eq_ok {m : ExceptT ε (StateM σ) α} {f : α → ExceptT ε (StateM σ) β} {s t : σ}
    {b : β} :
    (m >>= f).run s = (.ok b, t) ↔
      ∃ a u, m.run s = (.ok a, u) ∧ (f a).run u = (.ok b, t) := by
  rw [run_bind]
  rcases m.run s with ⟨e | a, u⟩
  · constructor
    · intro h
      exact absurd (Prod.mk.inj h).1 (by simp)
    · rintro ⟨a, v, h, -⟩
      exact absurd (Prod.mk.inj h).1 (by simp)
  · constructor
    · intro h
      exact ⟨a, u, rfl, h⟩
    · rintro ⟨a', v, h, h'⟩
      cases h
      exact h'

/-- A sequence fails where its first part does, or else where its second part does. -/
theorem run_bind_eq_error {m : ExceptT ε (StateM σ) α} {f : α → ExceptT ε (StateM σ) β} {s t : σ}
    {e : ε} :
    (m >>= f).run s = (.error e, t) ↔
      m.run s = (.error e, t) ∨
        ∃ a u, m.run s = (.ok a, u) ∧ (f a).run u = (.error e, t) := by
  rw [run_bind]
  rcases m.run s with ⟨e' | a, u⟩
  · constructor
    · intro h
      cases h
      exact .inl rfl
    · rintro (h | ⟨a, v, h, -⟩)
      · cases h
        rfl
      · exact absurd (Prod.mk.inj h).1 (by simp)
  · constructor
    · intro h
      exact .inr ⟨a, u, rfl, h⟩
    · rintro (h | ⟨a', v, h, h'⟩)
      · exact absurd (Prod.mk.inj h).1 (by simp)
      · cases h
        exact h'

@[simp]
theorem run_pure_ne_error {a : α} {e : ε} {s t : σ} :
    ¬ (pure a : ExceptT ε (StateM σ) α).run s = (.error e, t) := by
  intro h
  change ((.ok a, s) : Except ε α × σ) = (.error e, t) at h
  simp at h

@[simp]
theorem run_throw_eq_error {e e' : ε} {s t : σ} :
    (throw e : ExceptT ε (StateM σ) α).run s = (.error e', t) ↔ e = e' ∧ s = t := by
  change ((.error e, s) : Except ε α × σ) = (.error e', t) ↔ _
  simp

@[simp]
theorem run_pure_eq_ok {a b : α} {s t : σ} :
    (pure a : ExceptT ε (StateM σ) α).run s = (.ok b, t) ↔ a = b ∧ s = t := by
  change ((.ok a, s) : Except ε α × σ) = (.ok b, t) ↔ _
  simp

@[simp]
theorem run_throw_ne_ok {e : ε} {a : α} {s t : σ} :
    ¬ (throw e : ExceptT ε (StateM σ) α).run s = (.ok a, t) := by
  intro h
  change ((.error e, s) : Except ε α × σ) = (.ok a, t) at h
  simp at h

@[simp]
theorem run_get (s : σ) : (get : ExceptT ε (StateM σ) σ).run s = (.ok s, s) := rfl

@[simp]
theorem run_set (s t : σ) : (set t : ExceptT ε (StateM σ) PUnit).run s = (.ok ⟨⟩, t) := rfl

@[simp]
theorem run_modify (f : σ → σ) (s : σ) :
    (modify f : ExceptT ε (StateM σ) PUnit).run s = (.ok ⟨⟩, f s) := rfl

/-- A result brought in from outside leaves the state alone. -/
@[simp]
theorem run_ofExcept (x : Except ε α) (s : σ) :
    (MonadExcept.ofExcept x : ExceptT ε (StateM σ) α).run s = (x, s) := by
  cases x <;> rfl

/-- A result that is a success is one of something. -/
theorem exists_of_isOk {r : Except ε α × σ} (h : r.1.isOk = true) :
    ∃ a s, r = (.ok a, s) := by
  obtain ⟨_ | a, s⟩ := r
  · cases h
  · exact ⟨a, s, rfl⟩

end Laminar
