import StreamWatch.Field.Observe
import StreamWatch.Log.Entry

namespace StreamWatch

/-! # Probing a condition

A condition is tested by the evaluator that is registered for its field. An evaluator
answers at once, fails, or promises an answer for later:

* `Reply`: what an evaluator gives back;
* `Registry`: the evaluators by field, among them `Registry.standard`;
* `Probe`: what testing one condition does: whether an evaluator was called, how long the
  answer takes, what is logged, and whether the condition holds. Whatever goes wrong, the
  condition only fails to hold;
* `Probe.atOnce`, `Probe.inTime`: testing without and with waiting for a promised answer.
-/

/-- What an evaluator gives back. -/
inductive Reply where
  | answer (value : Datum)
  | failure (error : String)
  /-- An answer or a failure that comes later, after a pause of some seconds if one is
      given. -/
  | later (delay : Option Number) (outcome : Except String Datum)

/-- Tests a condition in a context. -/
abbrev Evaluator := EvaluationContext → Condition → Reply

/-- The evaluators, by the names of fields. -/
abbrev Registry := String → Option Evaluator

/-- The evaluator of a field. -/
def ConditionField.evaluator (field : ConditionField) : Evaluator := fun context condition =>
  match field.evaluate context.toSessionContext condition with
  | .ok holds => .answer (.bool holds)
  | .error fault => .failure fault.message

/-- The evaluators of all fields. -/
def Registry.standard : Registry := fun name =>
  (ConditionField.ofName? name).map ConditionField.evaluator

/-! ### Notices -/

/-- What is logged when a condition cannot be tested. -/
inductive RuleNotice where
  | noEvaluator (field : String)
  /-- An answer was promised where nobody waits for it. -/
  | promised (field ruleId : String)
  | failed (field operator ruleId sessionId error : String)
  deriving Repr, DecidableEq

namespace RuleNotice

/-- The source of the notices. -/
def source : String := "session_guard.rules"

/-- The log entry of a notice. -/
def entry : RuleNotice → LogEntry
  | noEvaluator field =>
    ⟨.warning, source, "No evaluator found for condition field",
      [("field", .text field)]⟩
  | promised field ruleId =>
    ⟨.warning, source, "Async evaluator called synchronously",
      [("field", .text field), ("rule_id", .text ruleId)]⟩
  | failed field operator ruleId sessionId error =>
    ⟨.error, source, "Error evaluating condition",
      [("field", .text field), ("operator", .text operator), ("rule_id", .text ruleId),
       ("session_id", .text sessionId), ("error", .text error)]⟩

/-- The field that a notice names. -/
def field : RuleNotice → String
  | noEvaluator field | promised field _ | failed field _ _ _ _ => field

/-- Does a notice name the rule that is being evaluated? -/
def namesRule : RuleNotice → Bool
  | noEvaluator _ => false
  | promised _ _ | failed _ _ _ _ _ => true

end RuleNotice

/-! ### Probes -/

/-- What testing one condition does. The notices are given after the wait, if there is one. -/
structure Probe where
  condition : Condition
  called : Bool
  wait : Option Number
  notices : List RuleNotice
  holds : Bool

namespace Probe

/-- The notice that testing a condition failed. -/
def failureNotice (c : EvaluationContext) (condition : Condition) (error : String) : RuleNotice :=
  .failed condition.field condition.operator c.rule.id c.session.id error

/-- A probe that calls no evaluator, because there is none. -/
def uncalled (condition : Condition) : Probe :=
  ⟨condition, false, none, [.noEvaluator condition.field], false⟩

/-- A probe that ends in a value or a failure, after a wait. -/
def ended (c : EvaluationContext) (condition : Condition) (wait : Option Number) :
    Except String Datum → Probe
  | .ok value => ⟨condition, true, wait, [], value.truthy⟩
  | .error error => ⟨condition, true, wait, [failureNotice c condition error], false⟩

/-- Tests a condition without waiting: a promised answer is no answer. -/
def atOnce (registry : Registry) (c : EvaluationContext) (condition : Condition) : Probe :=
  match registry condition.field with
  | none => uncalled condition
  | some evaluator =>
    match evaluator c condition with
    | .answer value => ended c condition none (.ok value)
    | .failure error => ended c condition none (.error error)
    | .later _ _ => ⟨condition, true, none, [.promised condition.field c.rule.id], false⟩

/-- Tests a condition and waits for a promised answer. -/
def inTime (registry : Registry) (c : EvaluationContext) (condition : Condition) : Probe :=
  match registry condition.field with
  | none => uncalled condition
  | some evaluator =>
    match evaluator c condition with
    | .answer value => ended c condition none (.ok value)
    | .failure error => ended c condition none (.error error)
    | .later delay outcome => ended c condition delay outcome

/-- Does a probe come to its end before another one, both being begun at once? -/
def endsBefore (a b : Probe) : Bool :=
  match a.wait, b.wait with
  | none, _ => true
  | some _, none => false
  | some x, some y => x.atMost y || x.atMost (.int 0)

end Probe

/-- The conditions whose evaluators were called, in order. -/
def calledConditions (probes : List Probe) : List Condition :=
  (probes.filter Probe.called).map Probe.condition

/-- The notices of probes that are all begun at once, in the order in which they end. -/
def noticesInTime (probes : List Probe) : List RuleNotice :=
  (probes.mergeSort Probe.endsBefore).flatMap Probe.notices

end StreamWatch
