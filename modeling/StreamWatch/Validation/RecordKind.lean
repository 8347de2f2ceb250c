import StreamWatch.Validation.Context
import StreamWatch.Validation.Lifecycle

namespace StreamWatch

open Validation

/-! # The kinds of records

Every kind of record that is read from what is given, with its reader and its writer. -/

/-- The kinds of records that are read from what is given. -/
inductive RecordKind where
  | session | user | server
  | conditionParams | condition | conditionGroup | ruleConditions
  | action (kind : ActionKind)
  | ruleActions | rule
  | sessionContext | evaluationContext | verdict
  | pauseRecord | stopDuration | stopResult
  | sessionLimits | monitorConfig
  deriving Repr, DecidableEq

namespace RecordKind

/-- What a record of a kind is read as. -/
def Value : RecordKind → Type
  | session => Session
  | user => User
  | server => Server
  | conditionParams => ConditionParams
  | condition => Condition
  | conditionGroup => ConditionGroup
  | ruleConditions => RuleConditions
  | action _ => Action
  | ruleActions => RuleActions
  | rule => Rule
  | sessionContext => SessionContext
  | evaluationContext => EvaluationContext
  | verdict => Verdict
  | pauseRecord => PauseRecord
  | stopDuration => StopDuration
  | stopResult => StopResult
  | sessionLimits => SessionLimits
  | monitorConfig => MonitorConfig

/-- Reads a record of a kind, at a time. -/
def read (clock : Moment) : (kind : RecordKind) → Read kind.Value
  | session => Session.ofGiven
  | user => User.ofGiven
  | server => Server.ofGiven
  | conditionParams => ConditionParams.ofGiven
  | condition => Condition.ofGiven
  | conditionGroup => ConditionGroup.ofGiven
  | ruleConditions => RuleConditions.ofGiven
  | action kind => Action.ofGivenOfKind kind
  | ruleActions => RuleActions.ofGiven
  | rule => Rule.ofGiven
  | sessionContext => SessionContext.ofGiven clock
  | evaluationContext => EvaluationContext.ofGiven clock
  | verdict => Verdict.ofGiven
  | pauseRecord => PauseRecord.ofGiven
  | stopDuration => StopDuration.ofGiven
  | stopResult => StopResult.ofGiven
  | sessionLimits => SessionLimits.ofGiven
  | monitorConfig => MonitorConfig.ofGiven

/-- Writes a record of a kind, with a way to write timestamps. -/
def write (stamp : Moment → Given) : (kind : RecordKind) → kind.Value → Given
  | session => Session.toGiven stamp
  | user => User.toGiven stamp
  | server => Server.toGiven
  | conditionParams => ConditionParams.toGiven
  | condition => Condition.toGiven
  | conditionGroup => ConditionGroup.toGiven
  | ruleConditions => RuleConditions.toGiven
  | action _ => Action.toGiven
  | ruleActions => RuleActions.toGiven
  | rule => Rule.toGiven
  | sessionContext => SessionContext.toGiven stamp
  | evaluationContext => EvaluationContext.toGiven stamp
  | verdict => Verdict.toGiven
  | pauseRecord => PauseRecord.toGiven stamp
  | stopDuration => StopDuration.toGiven
  | stopResult => StopResult.toGiven stamp
  | sessionLimits => SessionLimits.toGiven
  | monitorConfig => MonitorConfig.toGiven

end RecordKind

end StreamWatch
