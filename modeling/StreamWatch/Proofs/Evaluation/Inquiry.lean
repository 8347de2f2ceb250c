import StreamWatch.Proofs.Evaluation.Agreement

namespace StreamWatch

/-!
# Evaluations that ask for one condition at a time

Other work may go on between the tests of two conditions.  So an evaluation is written here as
what it asks, where every question carries the context that it is about:

* `Inquiry` — a calculation that asks whether conditions hold, one question after the other;
* `asking` — the test of a group that asks for all its conditions, so that `verdicts asking` is
  an evaluation of rules that can be interrupted at every condition;
* `Inquiry.answerNext`, `Inquiry.answer` — one question answered by a registry, and what all
  answers come to;
* `Inquiry.answer_verdicts` — an evaluation of rules that is interrupted comes to the same as one
  that is not;
* `Registry.standard_neverPromises` — the evaluators of all fields answer at once.
-/

/-- A calculation that asks whether conditions hold, each in a context of its own. -/
inductive Inquiry (α : Type) where
  | done (result : α)
  | ask (context : EvaluationContext) (condition : Condition) (next : Bool → Inquiry α)

namespace Inquiry

variable {α β : Type}

/-- Goes on with what an inquiry comes to. -/
def bind : Inquiry α → (α → Inquiry β) → Inquiry β
  | done result, f => f result
  | ask context condition next, f => ask context condition fun holds => (next holds).bind f

instance : Monad Inquiry where
  pure := done
  bind := bind

/-- What an inquiry comes to if a registry answers every question. -/
def answer (registry : Registry) : Inquiry α → α
  | done result => result
  | ask context condition next =>
    (next (Probe.inTime registry context condition).holds).answer registry

/-- An inquiry after a registry has answered its next question, if there is one. -/
def answerNext (registry : Registry) : Inquiry α → Inquiry α
  | done result => done result
  | ask context condition next => next (Probe.inTime registry context condition).holds

/-- An inquiry after a registry has answered some questions. -/
def answerSome (registry : Registry) (inquiry : Inquiry α) : Nat → Inquiry α
  | 0 => inquiry
  | count + 1 => (inquiry.answerNext registry).answerSome registry count

/-- What an inquiry comes to that is done already. -/
@[simp] theorem answer_pure (registry : Registry) (a : α) :
    (pure a : Inquiry α).answer registry = a := rfl

/-- What an inquiry in two parts comes to. -/
@[simp] theorem answer_bind (registry : Registry) (inquiry : Inquiry α) (f : α → Inquiry β) :
    (inquiry >>= f).answer registry = (f (inquiry.answer registry)).answer registry := by
  induction inquiry with
  | done result => rfl
  | ask context condition next ih => exact ih _

/-- An answer to the next question does not change what an inquiry comes to. -/
theorem answer_answerNext (registry : Registry) (inquiry : Inquiry α) :
    (inquiry.answerNext registry).answer registry = inquiry.answer registry := by
  cases inquiry with
  | done result => rfl
  | ask context condition next => rfl

/-- After enough answers an inquiry is done. -/
theorem exists_answerSome_eq_done (registry : Registry) (inquiry : Inquiry α) :
    ∃ count, inquiry.answerSome registry count = done (inquiry.answer registry) := by
  induction inquiry with
  | done result => exact ⟨0, rfl⟩
  | ask context condition next ih =>
    obtain ⟨count, hdone⟩ := ih (Probe.inTime registry context condition).holds
    exact ⟨count + 1, hdone⟩

end Inquiry

/-! ### Rules -/

/-- Asks for some conditions, for all of them, and whether one of them holds. -/
def askAll (c : EvaluationContext) : List Condition → Inquiry Bool
  | [] => pure false
  | condition :: rest => .ask c condition fun holds => do
    let others ← askAll c rest
    return holds || others

/-- Tests a group by asking for all its conditions. A group without conditions holds without a
    question. -/
def asking : GroupTest Inquiry := fun c group =>
  if group.conditions.isEmpty then pure true else askAll c group.conditions

namespace Inquiry

variable (registry : Registry)

/-- Asking for some conditions finds out whether any of them holds. -/
theorem answer_askAll (c : EvaluationContext) (conditions : List Condition) :
    (askAll c conditions).answer registry =
      conditions.any fun condition => (Probe.inTime registry c condition).holds := by
  induction conditions with
  | nil => rfl
  | cons condition rest ih =>
    rw [askAll, answer, answer_bind, ih, answer_pure, List.any_cons]

/-- A group is found to hold by asking if it holds in time. -/
theorem answer_asking (c : EvaluationContext) (group : ConditionGroup) :
    (asking c group).answer registry = (holdsInTime registry c group).value := by
  rw [holdsInTime_value]
  unfold asking
  split
  · simp only [*, answer_pure, Bool.true_or]
  · simp only [*, answer_askAll, Bool.false_or]

/-- The groups that match are found by asking. -/
theorem answer_matchedGroups (c : EvaluationContext) (first : Int) (groups : List ConditionGroup) :
    (matchedGroups (asking c) first groups).answer registry =
      (matchedGroups (holdsInTime registry c) first groups).value := by
  induction groups generalizing first with
  | nil => rfl
  | cons group rest ih =>
    rw [matchedGroups_cons_value, matchedGroups, answer_bind, answer_asking]
    split
    · rw [answer_bind, ih, answer_pure]
    · rfl

/-- The verdict on a rule is found by asking. -/
theorem answer_verdict (c : EvaluationContext) :
    (EvaluationContext.verdict asking c).answer registry =
      (EvaluationContext.verdict (holdsInTime registry) c).value := by
  unfold EvaluationContext.verdict
  cases c.rule.conditions with
  | none => rfl
  | some conditions =>
    simp only [answer_bind, answer_pure, answer_matchedGroups, Recorded.bind_value,
      Recorded.pure_value]

/-- **An evaluation may be interrupted.**  Rules whose conditions are asked for one at a time have
    the verdicts that they have when nothing comes between. -/
theorem answer_verdicts (c : SessionContext) (rules : List Rule) :
    (verdicts asking c rules).answer registry =
      (verdicts (holdsInTime registry) c rules).value := by
  unfold verdicts
  induction applicableRules c.server.id rules with
  | nil => rfl
  | cons rule rest ih =>
    rw [verdictsOf_cons_value, verdictsOf]
    simp only [answer_bind, answer_pure, answer_verdict, ih]

end Inquiry

/-! ### Standard evaluators -/

/-- The evaluators of all fields answer at once, or fail. -/
theorem Registry.standard_neverPromises : Registry.standard.NeverPromises := by
  intro name evaluator hfound c condition delay outcome hreply
  obtain ⟨field, _, rfl⟩ := Option.map_eq_some_iff.mp hfound
  unfold ConditionField.evaluator at hreply
  split at hreply <;> cases hreply

end StreamWatch
