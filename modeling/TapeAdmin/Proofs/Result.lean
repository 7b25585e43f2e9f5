/-!
# Results that may be errors

What is known about the parts of a computation of which the whole has succeeded.
-/

namespace TapeAdmin

variable {ε α β : Type}

/-- A sequence that succeeds does so step by step. -/
theorem exists_of_bind_ok {first : Except ε α} {next : α → Except ε β} {value : β}
    (succeeds : (first >>= next) = .ok value) :
    ∃ between, first = .ok between ∧ next between = .ok value := by
  cases first with
  | error error => cases succeeds
  | ok between => exact ⟨between, rfl, succeeds⟩

/-- What is made of a result exists as soon as the result does. -/
theorem map_eq_ok_iff {result : Except ε α} {convert : α → β} {value : β} :
    result.map convert = .ok value ↔ ∃ held, result = .ok held ∧ convert held = value := by
  cases result with
  | error error => simp [Except.map]
  | ok held => simp [Except.map]

end TapeAdmin
