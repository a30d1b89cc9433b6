/-!
Outcomes of computations that may fail: what a value of the whole says of its steps.
-/

set_option autoImplicit false

namespace ScanMerge

variable {ε δ α β : Type} {outcome : Except ε α}

theorem exists_of_map_eq_ok {change : α → β} {value : β}
    (given : outcome.map change = .ok value) :
    ∃ source, outcome = .ok source ∧ change source = value := by
  cases outcome with
  | ok source => exact ⟨source, rfl, Except.ok.inj given⟩
  | error error => cases given

theorem eq_ok_of_mapError_eq_ok {change : ε → δ} {value : α}
    (given : outcome.mapError change = .ok value) : outcome = .ok value := by
  cases outcome with
  | ok source => exact congrArg Except.ok (Except.ok.inj given)
  | error error => cases given

theorem exists_of_bind_eq_ok {next : α → Except ε β} {value : β}
    (given : (outcome >>= next) = .ok value) :
    ∃ source, outcome = .ok source ∧ next source = .ok value := by
  cases outcome with
  | ok source => exact ⟨source, rfl, given⟩
  | error error => cases given

end ScanMerge
