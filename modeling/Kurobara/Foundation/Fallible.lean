/-! # Fallible steps

Inversion of sequenced fallible steps: a sequence succeeds exactly when each of
its steps does. Reasons that are reported one by one are none exactly when no
condition holds.
-/

namespace Kurobara.Foundation

variable {Failure Value Next : Type}

theorem bind_eq_ok {first : Except Failure Value} {next : Value → Except Failure Next}
    {result : Next} :
    first.bind next = .ok result ↔ ∃ value, first = .ok value ∧ next value = .ok result := by
  cases first with
  | error failure => simp [Except.bind]
  | ok value => simp [Except.bind]

theorem map_eq_ok {first : Except Failure Value} {function : Value → Next} {result : Next} :
    first.map function = .ok result ↔ ∃ value, first = .ok value ∧ function value = result := by
  cases first with
  | error failure => simp [Except.map]
  | ok value => simp [Except.map]

theorem bind_eq_error {first : Except Failure Value} {next : Value → Except Failure Next}
    {failure : Failure} :
    first.bind next = .error failure ↔ first = .error failure ∨
      ∃ value, first = .ok value ∧ next value = .error failure := by
  cases first with
  | error failure => simp [Except.bind]
  | ok value => simp [Except.bind]

theorem map_eq_error {first : Except Failure Value} {function : Value → Next}
    {failure : Failure} : first.map function = .error failure ↔ first = .error failure := by
  cases first with
  | error failure => simp [Except.map]
  | ok value => simp [Except.map]

/-- A step with a result has it, with the same view of it. -/
theorem eq_ok_of_view {step : Except Failure Value} {view : Value → Next} {seen : Next}
    (viewed : step.toOption.map view = some seen) : ∃ value, step = .ok value ∧
    view value = seen := by
  cases step with
  | error failure => cases viewed
  | ok value => exact ⟨value, rfl, Option.some.inj viewed⟩

/-- A reason is reported when its condition holds. -/
def reportedWhen {Reason : Type} (condition : Bool) (reason : Reason) : List Reason :=
  if condition then [reason] else []

@[simp] theorem reportedWhen_eq_nil {Reason : Type} {condition : Bool} {reason : Reason} :
    reportedWhen condition reason = [] ↔ condition = false := by
  cases condition <;> simp [reportedWhen]

end Kurobara.Foundation
