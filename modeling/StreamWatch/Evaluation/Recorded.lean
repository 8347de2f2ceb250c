namespace StreamWatch

/-! # Values with a record

A calculation that keeps a record of its steps: `Recorded ω α` is a value together with the
steps, in order, that led to it. -/

/-- A value and the steps that led to it. -/
structure Recorded (ω α : Type) where
  value : α
  steps : List ω

namespace Recorded

variable {ω α β : Type}

instance : Monad (Recorded ω) where
  pure a := ⟨a, []⟩
  bind a f := ⟨(f a.value).value, a.steps ++ (f a.value).steps⟩

/-- A value that one step led to. -/
def ofStep (value : α) (step : ω) : Recorded ω α := ⟨value, [step]⟩

/-- A value that needs no step has no record. -/
@[simp] theorem pure_steps (a : α) : (pure a : Recorded ω α).steps = [] := rfl

/-- A value that needs no step is itself. -/
@[simp] theorem pure_value (a : α) : (pure a : Recorded ω α).value = a := rfl

/-- The steps of what comes first stand first. -/
@[simp] theorem bind_steps (a : Recorded ω α) (f : α → Recorded ω β) :
    (a >>= f).steps = a.steps ++ (f a.value).steps := rfl

/-- The value of a calculation in two parts. -/
@[simp] theorem bind_value (a : Recorded ω α) (f : α → Recorded ω β) :
    (a >>= f).value = (f a.value).value := rfl

end Recorded

end StreamWatch
