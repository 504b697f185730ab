/-! # Results that may be errors

When a chain of results, a result with another error or a result without its error is a value, and when a result with
another value is an error.
-/

namespace HoldoutLine

variable {ε δ α β : Type} {value : α}

/-- A chain succeeds exactly if its first part does and the rest does from there. -/
theorem bind_eq_ok_iff {first : Except ε β} {others : β → Except ε α} :
    first >>= others = .ok value ↔ ∃ between, first = .ok between ∧ others between = .ok value := by
  cases first with
  | error failure => exact iff_of_false nofun nofun
  | ok between => exact ⟨fun ended => ⟨between, rfl, ended⟩, fun ⟨_, begun, ended⟩ => by cases begun; exact ended⟩

theorem mapError_eq_ok_iff {wrap : ε → δ} {outcome : Except ε α} :
    outcome.mapError wrap = .ok value ↔ outcome = .ok value := by
  cases outcome with
  | error failure => exact iff_of_false nofun nofun
  | ok result =>
    exact ⟨fun ended => congrArg _ (Except.ok.inj ended), fun ended => congrArg _ (Except.ok.inj ended)⟩

theorem map_eq_error_iff {f : α → β} {outcome : Except ε α} {failure : ε} :
    outcome.map f = .error failure ↔ outcome = .error failure := by
  cases outcome <;> simp [Except.map]

theorem toOption_eq_some_iff {outcome : Except ε α} : outcome.toOption = some value ↔ outcome = .ok value := by
  cases outcome <;> simp [Except.toOption]

end HoldoutLine
