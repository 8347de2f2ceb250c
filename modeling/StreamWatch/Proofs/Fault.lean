import StreamWatch.Fault

namespace StreamWatch

/-!
# Results that may be faults

A function of a result changes the value and leaves a fault as it is:

* `eq_ok_of_map`, `eq_error_of_map` — what a result was before it was changed;
* `eq_ok_of_bind`, `eq_error_of_bind` — what two steps came to, one after the other;
* `eq_ok_of_toOption` — a value that is left of a result was the result.
-/

/-- A result that was changed was there before. -/
theorem eq_ok_of_map {α β : Type} {result : Except Fault α} {f : α → β} {b : β}
    (h : result.map f = .ok b) : ∃ a, result = .ok a ∧ f a = b := by
  cases result with
  | error fault => cases h
  | ok a => exact ⟨a, rfl, Except.ok.inj h⟩

/-- A fault of a result that was changed was there before. -/
theorem eq_error_of_map {α β : Type} {result : Except Fault α} {f : α → β} {fault : Fault}
    (h : result.map f = .error fault) : result = .error fault := by
  cases result with
  | error fault' => exact congrArg _ (Except.error.inj h)
  | ok a => cases h

/-- Two steps that come to a value both come to one. -/
theorem eq_ok_of_bind {α β : Type} {result : Except Fault α} {f : α → Except Fault β} {b : β}
    (h : (result >>= f) = .ok b) : ∃ a, result = .ok a ∧ f a = .ok b := by
  cases result with
  | error fault => cases h
  | ok a => exact ⟨a, rfl, h⟩

/-- Two steps that come to a fault come to it in the first step or in the second. -/
theorem eq_error_of_bind {α β : Type} {result : Except Fault α} {f : α → Except Fault β}
    {fault : Fault} (h : (result >>= f) = .error fault) :
    result = .error fault ∨ ∃ a, result = .ok a ∧ f a = .error fault := by
  cases result with
  | error fault' => exact .inl (congrArg _ (Except.error.inj h))
  | ok a => exact .inr ⟨a, rfl, h⟩

/-- A value that is left when faults are forgotten was the result. -/
theorem eq_ok_of_toOption {α : Type} {result : Except Fault α} {a : α}
    (h : result.toOption = some a) : result = .ok a := by
  cases result with
  | error fault => cases h
  | ok a' => exact congrArg _ (Option.some.inj h)

end StreamWatch
