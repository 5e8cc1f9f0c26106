/-!
# Results that may be failures

Steps that may fail are run one after the other, and the first failure is the result.  So a
success is one of every step.
-/

namespace SelfUpdate

variable {α β ε δ : Type}

section Bind

/-- A step in front of others that succeed has succeeded itself. -/
theorem of_bind_eq_ok {first : Except ε α} {next : α → Except ε β} {result : β}
    (done : (first >>= next) = .ok result) :
    ∃ value, first = .ok value ∧ next value = .ok result := by
  cases first with
  | error fault => simp [bind, Except.bind] at done
  | ok value => exact ⟨value, rfl, done⟩

theorem bind_eq_of_ok {first : Except ε α} {next : α → Except ε β} {value : α}
    (done : first = .ok value) : (first >>= next) = next value := by
  rw [done]
  rfl

theorem bind_eq_ok_iff {first : Except ε α} {next : α → Except ε β} {result : β} :
    (first >>= next) = .ok result ↔ ∃ value, first = .ok value ∧ next value = .ok result := by
  constructor
  · exact of_bind_eq_ok
  · rintro ⟨value, succeeded, done⟩
    rw [bind_eq_of_ok succeeded, done]

end Bind

theorem map_eq_ok_iff {first : Except ε α} {change : α → β} {result : β} :
    first.map change = .ok result ↔ ∃ value, first = .ok value ∧ change value = result := by
  cases first <;> simp [Except.map]

theorem map_eq_error_iff {first : Except ε α} {change : α → β} {error : ε} :
    first.map change = .error error ↔ first = .error error := by
  cases first <;> simp [Except.map]

section MapError

variable {explain : ε → δ}

@[simp]
theorem mapError_ok (value : α) : (Except.ok value).mapError explain = .ok value :=
  rfl

@[simp]
theorem mapError_error (error : ε) :
    (Except.error error : Except ε α).mapError explain = .error (explain error) :=
  rfl

theorem mapError_eq_ok {result : Except ε α} {value : α} :
    result.mapError explain = .ok value ↔ result = .ok value := by
  cases result <;> simp

theorem mapError_eq_error_iff {result : Except ε α} {error : δ} :
    result.mapError explain = .error error ↔
      ∃ cause, result = .error cause ∧ explain cause = error := by
  cases result <;> simp

end MapError

end SelfUpdate
