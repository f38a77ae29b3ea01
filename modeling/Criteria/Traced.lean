/-!
# Results with a trace

A computation that may fail and that leaves a trace of what it did. The trace up to a failure is
kept.
-/

namespace Criteria

/-! ### Where results come from -/

namespace Except

variable {ε ε' α β : Type} {x : Except ε α}

theorem bind_eq_ok {f : α → Except ε β} {b : β} (h : x.bind f = .ok b) :
    ∃ a, x = .ok a ∧ f a = .ok b := by
  cases x with
  | error e => cases h
  | ok a => exact ⟨a, rfl, h⟩

theorem bind_eq_error {f : α → Except ε β} {e : ε} (h : x.bind f = .error e) :
    x = .error e ∨ ∃ a, x = .ok a ∧ f a = .error e := by
  cases x with
  | error e' =>
    cases h
    exact Or.inl rfl
  | ok a => exact Or.inr ⟨a, rfl, h⟩

theorem map_eq_ok {f : α → β} {b : β} (h : x.map f = .ok b) : ∃ a, x = .ok a ∧ b = f a := by
  cases x with
  | error e => cases h
  | ok a =>
    cases h
    exact ⟨a, rfl, rfl⟩

theorem map_eq_error {f : α → β} {e : ε} (h : x.map f = .error e) : x = .error e := by
  cases x with
  | error e' =>
    cases h
    rfl
  | ok a => cases h

theorem mapError_id (x : Except ε α) : x.mapError id = x := by
  cases x <;> rfl

theorem mapError_eq_ok {f : ε → ε'} {a : α} (h : x.mapError f = .ok a) : x = .ok a := by
  cases x with
  | error e => cases h
  | ok a' =>
    cases h
    rfl

theorem mapError_eq_error {f : ε → ε'} {e' : ε'} (h : x.mapError f = .error e') :
    ∃ e, x = .error e ∧ e' = f e := by
  cases x with
  | error e =>
    cases h
    exact ⟨e, rfl, rfl⟩
  | ok a => cases h

end Except

/-- A result, and what happened on the way to it. -/
structure Traced (ω ε α : Type) where
  result : Except ε α
  trace : List ω

namespace Traced

variable {ω ε α β : Type}

/-- A value, with nothing to report. -/
def pure (a : α) : Traced ω ε α :=
  ⟨.ok a, []⟩

/-- Go on with the value, if there is one. -/
def bind (x : Traced ω ε α) (f : α → Traced ω ε β) : Traced ω ε β :=
  match x.result with
  | .ok a => ⟨(f a).result, x.trace ++ (f a).trace⟩
  | .error e => ⟨.error e, x.trace⟩

instance : Monad (Traced ω ε) where
  pure := pure
  bind := bind

/-- A failure. -/
def fail (e : ε) : Traced ω ε α :=
  ⟨.error e, []⟩

/-- A report. -/
def tell (event : ω) : Traced ω ε Unit :=
  ⟨.ok (), [event]⟩

/-- Several reports, in order. -/
def tellAll (events : List ω) : Traced ω ε Unit :=
  ⟨.ok (), events⟩

/-- A result with nothing to report. -/
def ofExcept (result : Except ε α) : Traced ω ε α :=
  ⟨result, []⟩

/-- The same with another kind of failure. -/
def mapError {ε' : Type} (f : ε → ε') (x : Traced ω ε α) : Traced ω ε' α :=
  ⟨x.result.mapError f, x.trace⟩

/-! ### What a trace holds -/

@[simp] theorem pure_eq (a : α) : (Pure.pure a : Traced ω ε α) = ⟨.ok a, []⟩ := rfl

instance : LawfulMonad (Traced ω ε) :=
  .mk' (Traced ω ε)
    (by
      intro α ⟨result, trace⟩
      cases result <;> simp [Functor.map, bind, pure])
    (by
      intro α β a f
      simp [Bind.bind, bind])
    (by
      intro α β γ ⟨result, trace⟩ f g
      cases result with
      | error e => rfl
      | ok a =>
        simp only [Bind.bind, bind]
        cases h : (f a).result <;> simp)

theorem bind_ok (a : α) (trace : List ω) (f : α → Traced ω ε β) :
    ((⟨.ok a, trace⟩ : Traced ω ε α) >>= f) = ⟨(f a).result, trace ++ (f a).trace⟩ := rfl

theorem bind_error (e : ε) (trace : List ω) (f : α → Traced ω ε β) :
    ((⟨.error e, trace⟩ : Traced ω ε α) >>= f) = ⟨.error e, trace⟩ := rfl

/-- A sequence goes on with the value of the first part, if that has one. -/
theorem result_bind (x : Traced ω ε α) (f : α → Traced ω ε β) :
    (x >>= f).result = x.result.bind fun a => (f a).result := by
  obtain ⟨result, trace⟩ := x
  cases result with
  | error e => rfl
  | ok a => rfl

/-- A sequence has a value where both parts have one. -/
theorem result_bind_eq_ok {x : Traced ω ε α} {f : α → Traced ω ε β} {b : β}
    (h : (x >>= f).result = .ok b) : ∃ a, x.result = .ok a ∧ (f a).result = .ok b := by
  rw [result_bind] at h
  exact Except.bind_eq_ok h

end Traced

end Criteria
