import StreamWatch.Breaker
import StreamWatch.Evaluation.Probe

namespace StreamWatch

/-! # What a monitor logs

A notice of a monitor is about a condition, about its breaker or about the monitor itself:

* `MonitorNotice`: what happens to sessions and to their matches;
* `Notice`: a notice of any kind, with its log entry.
-/

/-- What a monitor logs of itself. The id that a report or a stop gives is kept as it came. -/
inductive MonitorNotice where
  | rulesMatched (sessionId userId : String) (ruleIds : List String)
  | unknownState (sessionId : Datum) (state : String)
  | reportOfUnknown (sessionId : Datum)
  | stopOfUnknown (sessionId : Datum)
  | staleStopped (sessionId : String)
  | dispatchFailed (ruleId sessionId error : String)
  | dispatchInterrupted (requeued : Nat)

/-- The source of the notices of a monitor. -/
def MonitorNotice.source : String := "session_guard.monitor"

/-- The log entry of a notice of a monitor. -/
def MonitorNotice.entry : MonitorNotice → LogEntry
  | rulesMatched sessionId userId ruleIds =>
    ⟨.info, source, "Rules matched",
      [("session_id", .text sessionId), ("server_user_id", .text userId),
       ("rule_ids", .ofList .text ruleIds)]⟩
  | unknownState sessionId state =>
    ⟨.warning, source, "Telemetry with unknown state",
      [("session_id", sessionId), ("state", .text state)]⟩
  | reportOfUnknown sessionId =>
    ⟨.warning, source, "Telemetry for unknown session",
      [("session_id", sessionId)]⟩
  | stopOfUnknown sessionId =>
    ⟨.warning, source, "Stop for unknown session",
      [("session_id", sessionId)]⟩
  | staleStopped sessionId =>
    ⟨.info, source, "Force-stopping stale session",
      [("session_id", .text sessionId)]⟩
  | dispatchFailed ruleId sessionId error =>
    ⟨.error, source, "Result dispatch failed",
      [("rule_id", .text ruleId), ("session_id", .text sessionId), ("error", .text error)]⟩
  | dispatchInterrupted requeued =>
    ⟨.info, source, "Dispatch interrupted, re-queued matches",
      [("requeued", .int requeued)]⟩

/-- The source of the notices of a breaker. -/
def BreakerNotice.source : String := "session_guard.circuit_breaker"

/-- The log entry of a notice of a breaker, in which the cooldown is written as data. -/
def BreakerNotice.entry {τ : Type} (write : τ → Datum) : BreakerNotice τ → LogEntry
  | opened failures cooldown =>
    ⟨.error, source, "Circuit breaker opened",
      [("consecutive_failures", .int failures), ("cooldown_seconds", write cooldown)]⟩
  | reset =>
    ⟨.info, source, "Circuit breaker reset, resuming dispatch", []⟩

/-- A notice of any kind. -/
inductive Notice (τ : Type) where
  | rule (notice : RuleNotice)
  | breaker (notice : BreakerNotice τ)
  | monitor (notice : MonitorNotice)

/-- The log entry of a notice. -/
def Notice.entry {τ : Type} (write : τ → Datum) : Notice τ → LogEntry
  | rule notice => notice.entry
  | breaker notice => notice.entry write
  | monitor notice => notice.entry

end StreamWatch
