import StreamWatch.Lifecycle
import StreamWatch.Validation.Session

namespace StreamWatch

open Validation

/-! # Reading and writing the results of a session's life

The results of a session's life are written out part by part, and are read back. -/

namespace PauseRecord

/-- Reads the bookkeeping of pauses. -/
def ofGiven : Read PauseRecord := record fun r =>
  mk <$> optional "last_paused_at" moment r
    <*> defaulted "paused_duration_ms" 0 int r

/-- Writes the bookkeeping of pauses, with a way to write timestamps. -/
def toGiven (stamp : Moment → Given) (pauses : PauseRecord) : Given :=
  .record [
    ("last_paused_at", .ofOption stamp pauses.lastPausedAt),
    ("paused_duration_ms", .int pauses.pausedDuration)]

end PauseRecord

namespace StopDuration

/-- Reads the lengths of a stopped session. -/
def ofGiven : Read StopDuration := record fun r =>
  mk <$> required "duration_ms" int r <*> required "final_paused_duration_ms" int r

/-- Writes the lengths of a stopped session. -/
def toGiven (d : StopDuration) : Given :=
  .record [
    ("duration_ms", .int d.duration),
    ("final_paused_duration_ms", .int d.finalPausedDuration)]

end StopDuration

namespace StopResult

/-- Reads the result of a stop. -/
def ofGiven : Read StopResult := record fun r =>
  mk <$> required "session" Session.ofGiven r
    <*> required "duration_ms" int r
    <*> required "watched" bool r
    <*> required "short_session" bool r

/-- Writes the result of a stop, with a way to write timestamps. -/
def toGiven (stamp : Moment → Given) (result : StopResult) : Given :=
  .record [
    ("session", result.session.toGiven stamp),
    ("duration_ms", .int result.duration),
    ("watched", .bool result.watched),
    ("short_session", .bool result.shortSession)]

end StopResult

end StreamWatch
