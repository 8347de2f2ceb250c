import StreamWatch.Number.Rounding

namespace StreamWatch

/-! # Settings

* `SessionLimits`: the thresholds of the session lifecycle;
* `MonitorConfig`: the settings of a monitor.
-/

/-- The thresholds of the session lifecycle. -/
structure SessionLimits where
  /-- Seconds without a report after which a session is stale. -/
  staleTimeoutSeconds : Int
  /-- Milliseconds below which a session is a short one. -/
  minPlayTime : Int
  /-- The part of an item that has to be played for it to count as watched. -/
  watchCompletionThreshold : Float
  /-- Milliseconds after a stop within which a session is resumed. -/
  continuedSessionThreshold : Int
  /-- Hours after a stop after which a session is never resumed. -/
  maxGroupGapHours : Int

/-- The thresholds where nothing else is set. -/
def SessionLimits.standard : SessionLimits where
  staleTimeoutSeconds := 300
  minPlayTime := 120000
  watchCompletionThreshold := 0.85
  continuedSessionThreshold := 60000
  maxGroupGapHours := 24

/-- The settings of a monitor. -/
structure MonitorConfig where
  limits : SessionLimits
  /-- Watch completion thresholds that differ for a type of media. -/
  watchThresholds : List (String × Float)
  sweepIntervalSeconds : Float
  recentHistoryHours : Int
  maxRecentSessions : Int
  /-- Failures in a row that open the breaker. -/
  breakerThreshold : Int
  breakerCooldownSeconds : Float

/-- The settings where nothing else is set. -/
def MonitorConfig.standard : MonitorConfig where
  limits := .standard
  watchThresholds := []
  sweepIntervalSeconds := 30.0
  recentHistoryHours := 24
  maxRecentSessions := 50
  breakerThreshold := 5
  breakerCooldownSeconds := 60.0

end StreamWatch
