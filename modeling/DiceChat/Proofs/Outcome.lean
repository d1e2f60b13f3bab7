import Mathlib

/-! Steps that may fail: what a chain of them returns tells what each step returned. -/

namespace DiceChat

variable {ε ε' α β : Type}

/-- A chain of two steps succeeds exactly when both do. -/
theorem bind_eq_ok_iff {first : Except ε α} {next : α → Except ε β} {value : β} :
    first >>= next = .ok value ↔ ∃ middle, first = .ok middle ∧ next middle = .ok value := by
  -- A failed first step ends the chain.
  cases first <;> simp [Bind.bind, Except.bind]

/-- Changing a result cannot make a step fail or succeed. -/
theorem map_eq_ok_iff {step : Except ε α} {change : α → β} {value : β} :
    step.map change = .ok value ↔ ∃ before, step = .ok before ∧ change before = value := by
  cases step <;> simp [Except.map]

/-- Telling an error in another way does not touch a success. -/
theorem mapError_eq_ok_iff {step : Except ε α} {tell : ε → ε'} {value : α} :
    step.mapError tell = .ok value ↔ step = .ok value := by
  cases step <;> simp [Except.mapError]

end DiceChat
