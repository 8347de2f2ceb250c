import StreamWatch.Limits
import StreamWatch.Rule.Context
import StreamWatch.Validation.Rule
import StreamWatch.Validation.Session

namespace StreamWatch

open Validation

/-! # Contexts, verdicts and settings as they are given

A context that does not say when it is evaluated is evaluated at the time of reading, which
the readers take as an argument. -/

namespace SessionContext

/-- Reads the fields of a context. -/
def fieldsOf (clock : Moment) (r : Parts) : Checked SessionContext :=
  mk <$> required "session" Session.ofGiven r
    <*> required "server_user" User.ofGiven r
    <*> required "server" Server.ofGiven r
    <*> defaulted "active_sessions" [] (list Session.ofGiven) r
    <*> defaulted "recent_sessions" [] (list Session.ofGiven) r
    <*> defaulted "now" clock moment r

/-- Reads a context. -/
def ofGiven (clock : Moment) : Read SessionContext := record (fieldsOf clock)

/-- The fields of a context, with a way to write timestamps. -/
def entries (stamp : Moment → Given) (c : SessionContext) : Parts := [
  ("session", c.session.toGiven stamp),
  ("server_user", c.user.toGiven stamp),
  ("server", c.server.toGiven),
  ("active_sessions", .ofList (Session.toGiven stamp) c.activeSessions),
  ("recent_sessions", .ofList (Session.toGiven stamp) c.recentSessions),
  ("now", stamp c.now)]

/-- Writes a context, with a way to write timestamps. -/
def toGiven (stamp : Moment → Given) (c : SessionContext) : Given :=
  .record (c.entries stamp)

end SessionContext

namespace EvaluationContext

/-- Reads a context with a rule. -/
def ofGiven (clock : Moment) : Read EvaluationContext := record fun r =>
  mk <$> SessionContext.fieldsOf clock r <*> required "rule" Rule.ofGiven r

/-- Writes a context with a rule, with a way to write timestamps. -/
def toGiven (stamp : Moment → Given) (c : EvaluationContext) : Given :=
  .record (c.toSessionContext.entries stamp ++ [("rule", c.rule.toGiven)])

end EvaluationContext

namespace Verdict

/-- Reads a verdict. -/
def ofGiven : Read Verdict := record fun r =>
  mk <$> required "rule_id" text r
    <*> required "rule_name" text r
    <*> required "matched" bool r
    <*> defaulted "matched_groups" [] (list int) r
    <*> defaulted "actions" [] (list Action.ofGiven) r

/-- Writes a verdict. -/
def toGiven (v : Verdict) : Given :=
  .record [
    ("rule_id", .text v.ruleId),
    ("rule_name", .text v.ruleName),
    ("matched", .bool v.matched),
    ("matched_groups", .ofList .int v.matchedGroups),
    ("actions", .ofList Action.toGiven v.actions)]

end Verdict

/-! ### Settings -/

namespace SessionLimits

/-- Reads the thresholds of the session lifecycle. -/
def ofGiven : Read SessionLimits := record fun r =>
  mk <$> defaulted "stale_session_timeout_seconds" standard.staleTimeoutSeconds int r
    <*> defaulted "min_play_time_ms" standard.minPlayTime int r
    <*> defaulted "watch_completion_threshold" standard.watchCompletionThreshold unitFloat r
    <*> defaulted "continued_session_threshold_ms" standard.continuedSessionThreshold int r
    <*> defaulted "max_group_gap_hours" standard.maxGroupGapHours int r

/-- Writes the thresholds of the session lifecycle. -/
def toGiven (l : SessionLimits) : Given :=
  .record [
    ("stale_session_timeout_seconds", .int l.staleTimeoutSeconds),
    ("min_play_time_ms", .int l.minPlayTime),
    ("watch_completion_threshold", .real l.watchCompletionThreshold),
    ("continued_session_threshold_ms", .int l.continuedSessionThreshold),
    ("max_group_gap_hours", .int l.maxGroupGapHours)]

end SessionLimits

namespace MonitorConfig

/-- Reads the settings of a monitor. -/
def ofGiven : Read MonitorConfig := record fun r =>
  mk <$> defaulted "limits" standard.limits SessionLimits.ofGiven r
    <*> defaulted "watch_thresholds" standard.watchThresholds (entriesOf float) r
    <*> defaulted "sweep_interval_seconds" standard.sweepIntervalSeconds float r
    <*> defaulted "recent_history_hours" standard.recentHistoryHours int r
    <*> defaulted "max_recent_sessions" standard.maxRecentSessions int r
    <*> defaulted "circuit_breaker_threshold" standard.breakerThreshold int r
    <*> defaulted "circuit_breaker_cooldown_seconds" standard.breakerCooldownSeconds float r

/-- Writes the settings of a monitor. -/
def toGiven (c : MonitorConfig) : Given :=
  .record [
    ("limits", c.limits.toGiven),
    ("watch_thresholds", .record (c.watchThresholds.map fun e => (e.1, .real e.2))),
    ("sweep_interval_seconds", .real c.sweepIntervalSeconds),
    ("recent_history_hours", .int c.recentHistoryHours),
    ("max_recent_sessions", .int c.maxRecentSessions),
    ("circuit_breaker_threshold", .int c.breakerThreshold),
    ("circuit_breaker_cooldown_seconds", .real c.breakerCooldownSeconds)]

end MonitorConfig

end StreamWatch
