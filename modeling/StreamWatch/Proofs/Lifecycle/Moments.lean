import StreamWatch.Lifecycle
import StreamWatch.Proofs.Fault

namespace StreamWatch

/-!
# Lives at times that are known

There is no length of time between a time with an offset and one without, and no order of the two.
But what happens to a session first gives every time its offset, so that at times that are known
no such fault is left:

* `Timestamp.passedSince`, `Timestamp.millisecondsSince` — the length of time between the moments
  that two times stand for, and its whole milliseconds;
* `PauseRecord.openFor`, `PauseRecord.advance`, `Session.stopDuration`, `Session.heard` — the rules
  for pauses, time watched and reports, without faults;
* `PauseData.advanceAt_some`, `Session.stopDurationAt_some`, `Session.heardAt_some`,
  `Session.advance_eq`, `Session.stop_eq_map` — each rule is what the function of its name does;
* `isStale_eq`, `Session.continuedAt_eq`, `Session.resumeLink_eq` — hence thresholds and resuming
  can only fail with lengths of time and dates that are out of range, or with what is no number.
-/

/-- The length of time between the moments that two times stand for. -/
def Timestamp.passedSince (t start : Timestamp) : Duration :=
  t.assumeUniversal.since start.assumeUniversal

/-- The whole milliseconds of that length, rounded down. -/
def Timestamp.millisecondsSince (t start : Timestamp) : Int := (t.passedSince start).milliseconds

/-- These milliseconds are the same for the moment that the later time stands for. -/
@[simp] theorem Timestamp.millisecondsSince_assumeUniversal (t start : Timestamp) :
    t.assumeUniversal.toTimestamp.millisecondsSince start = t.millisecondsSince start := rfl

/-- These milliseconds are those between the two instants. -/
theorem Timestamp.millisecondsSince_eq (t start : Timestamp) :
    t.millisecondsSince start = (t.instant - start.instant) / 1000 := rfl

/-- Between moments there always is a length of time. -/
@[simp] theorem elapsed_toTimestamp (start t : Moment) :
    elapsed start t = .ok (t.millisecondsSince start) := by
  unfold elapsed
  rw [Moment.since_toTimestamp]
  rfl

/-! ### Pauses -/

/-- The milliseconds from the start of the open pause to `now`, if a pause is open. -/
def PauseRecord.openFor (pauses : PauseRecord) (now : Timestamp) : Int :=
  match pauses.lastPausedAt with
  | some start => now.millisecondsSince start
  | none => 0

/-- The bookkeeping after a change of state at `now`: a pause opens from playing to paused,
    and closes from paused to playing.  No other change counts. -/
def PauseRecord.advance (pauses : PauseRecord) (previous new : Option PlaybackState)
    (now : Timestamp) : PauseRecord :=
  match previous, new with
  | some .playing, some .paused => { pauses with lastPausedAt := some now.assumeUniversal }
  | some .paused, some .playing => ⟨none, pauses.pausedDuration + pauses.openFor now⟩
  | _, _ => pauses

/-- An open pause has a length at a moment. -/
theorem PauseRecord.openPause_eq (pauses : PauseRecord) (now : Timestamp) :
    openPause (pauses.lastPausedAt.map Moment.toTimestamp) (some now.assumeUniversal) =
      .ok (pauses.openFor now) := by
  unfold openFor
  cases pauses.lastPausedAt with
  | none => rfl
  | some start =>
    show elapsed start now.assumeUniversal = .ok (now.millisecondsSince start)
    rw [elapsed_toTimestamp]
    rfl

/-- At a time that is known the bookkeeping never fails. -/
@[simp] theorem PauseData.advanceAt_some (pauses : PauseRecord)
    (previous new : Option PlaybackState) (now : Timestamp) :
    pauses.data.advanceAt previous new (some now) = .ok (pauses.advance previous new now) := by
  have hlength := pauses.openPause_eq now
  unfold advanceAt PauseRecord.data
  simp only [Moment.map_assumeUniversal_toTimestamp, Option.map_some]
  split
  · rfl
  · simp only [hlength]
    rfl
  · -- No other change counts for the one, and none does for the other.
    rename_i hopens hcloses
    unfold PauseRecord.advance
    split
    · exact (hopens rfl rfl).elim
    · exact (hcloses rfl rfl).elim
    · rfl

/-- The bookkeeping goes by the moment that a time stands for. -/
theorem PauseRecord.advance_assumeUniversal (pauses : PauseRecord)
    (previous new : Option PlaybackState) (now : Timestamp) :
    pauses.advance previous new now.assumeUniversal = pauses.advance previous new now := by
  unfold advance openFor
  simp only [Moment.assumeUniversal_toTimestamp, Timestamp.millisecondsSince_assumeUniversal]

namespace Session

/-! ### Time watched -/

/-- The time watched by a session that stops: the time that has passed without the pauses, of
    which an open one closes.  It is never below zero. -/
def stopDuration (s : Session) (stoppedAt : Timestamp) : StopDuration :=
  let paused := s.pausedDuration + s.pauses.openFor stoppedAt
  ⟨max 0 (stoppedAt.millisecondsSince s.startedAt - paused), paused⟩

/-- At a time that is known the time watched is known. -/
@[simp] theorem stopDurationAt_some (s : Session) (stoppedAt : Timestamp) :
    s.stopDurationAt (some stoppedAt) = .ok (s.stopDuration stoppedAt) := by
  have hlength := s.pauses.openPause_eq stoppedAt
  unfold stopDurationAt stopDuration
  simp only [Option.map_some, elapsed_toTimestamp]
  show (openPause (s.pauses.lastPausedAt.map Moment.toTimestamp) _).bind _ = _
  rw [hlength]
  rfl

/-- The time watched goes by the moment that the time of a stop stands for. -/
theorem stopDuration_assumeUniversal (s : Session) (stoppedAt : Timestamp) :
    s.stopDuration stoppedAt.assumeUniversal = s.stopDuration stoppedAt := by
  unfold stopDuration PauseRecord.openFor
  simp only [Timestamp.millisecondsSince_assumeUniversal]

/-! ### Reports -/

/-- The session after a report of a state. -/
def heard (s : Session) (new : PlaybackState) (now : Timestamp) : Session :=
  s.reported new (some now.assumeUniversal) (s.pauses.advance (some s.state) (some new) now)

/-- At a time that is known a report of a state never fails. -/
@[simp] theorem heardAt_some (s : Session) (new : PlaybackState) (now : Timestamp) :
    s.heardAt new (some now) = .ok (s.heard new now) := by
  -- The time of the report is a moment by the time it comes to the pauses.
  have hadvanced : s.pauses.data.advanceAt (some s.state) (some new)
      (some now.assumeUniversal.toTimestamp) =
        .ok (s.pauses.advance (some s.state) (some new) now) := by
    rw [PauseData.advanceAt_some, PauseRecord.advance_assumeUniversal]
  unfold heardAt heard
  simp only [Option.map_some, hadvanced]
  rfl

/-- A report at a time that is known can only fail with its position. -/
theorem advance_eq (s : Session) (new : PlaybackState) (now : Timestamp) (position : Datum) :
    s.advance new now position = (s.heard new now).movedTo position := by
  unfold advance
  rw [heardAt_some]
  rfl

/-! ### Stops -/

/-- What comes of a stop that leaves a session watched or not. -/
def ending (s : Session) (stoppedAt : Timestamp) (mode : StopMode) (watched : Bool) :
    StopResult :=
  let final := s.stopDuration stoppedAt
  let shortSession := !worthRecording (some (.int final.duration)) (.int mode.limits.minPlayTime)
  let stopped := { s with
    state := .stopped
    stoppedAt := some stoppedAt.assumeUniversal
    duration := some final.duration
    pausedDuration := final.finalPausedDuration
    lastPausedAt := none
    watched := watched
    shortSession := shortSession
    forceStopped := s.forceStopped.orElse mode.forceStopped }
  ⟨stopped, final.duration, watched, shortSession⟩

/-- At a time that is known a session ends as it does. -/
@[simp] theorem stopAt_some (s : Session) (stoppedAt : Timestamp) (mode : StopMode) :
    s.stopAt (some stoppedAt) mode = s.stop stoppedAt mode := rfl

/-- A stop fails only if it cannot be decided whether the session was watched. -/
theorem stop_eq_map (s : Session) (stoppedAt : Timestamp) (mode : StopMode) :
    s.stop stoppedAt mode =
      (s.watchedAfter mode (s.stopDuration stoppedAt).duration).map (s.ending stoppedAt mode) := by
  have hduration : s.stopDurationAt (some stoppedAt.assumeUniversal.toTimestamp) =
      .ok (s.stopDuration stoppedAt) := by
    rw [stopDurationAt_some, stopDuration_assumeUniversal]
  unfold stop stopAt
  simp only [Option.map_some, hduration]
  show (s.watchedAfter mode (s.stopDuration stoppedAt).duration).bind _ = _
  cases s.watchedAfter mode (s.stopDuration stoppedAt).duration with
  | error fault => rfl
  | ok watched => rfl

end Session

/-! ### Thresholds and resuming -/

/-- At a time that is known only a timeout of too many days makes it unknown whether a session is
    stale. -/
theorem isStale_eq (lastHeardAt : Timestamp) (timeoutSeconds : Number) (now : Timestamp) :
    isStale lastHeardAt timeoutSeconds now =
      (Duration.ofSeconds timeoutSeconds).map fun timeout =>
        decide (timeout < now.assumeUniversal.since lastHeardAt.assumeUniversal) := by
  unfold isStale
  rw [Moment.since_toTimestamp]
  show (Duration.ofSeconds timeoutSeconds).bind _ = _
  cases Duration.ofSeconds timeoutSeconds with
  | error fault => rfl
  | ok timeout => rfl

namespace Session

/-- Between moments there always is a length of time to compare with the threshold. -/
theorem continuedAt_eq (previous : Session) (stoppedAt : Moment) (newProgress threshold : Datum)
    (now : Moment) :
    previous.continuedAt stoppedAt newProgress threshold now = (do
      if ← (Datum.int (now.millisecondsSince stoppedAt)).stands .greater threshold then
        return false
      else if previous.watched then return false
      else return !(← newProgress.stands .less (previous.progress.orElse (.int 0)))) := by
  unfold continuedAt
  rw [elapsed_toTimestamp]
  rfl

/-- A session can only fail to be resumed, or not, by dates that are out of range and by what is no
    number. -/
theorem resumeLink_eq (previous : Session) (newProgress : Datum) (threshold : Option Datum)
    (now : Timestamp) (limits : SessionLimits) :
    previous.resumeLink newProgress threshold now limits =
      match previous.stoppedAt with
      | none => .ok none
      | some stoppedAt => do
        let gap ← Duration.ofHours limits.maxGroupGapHours
        let earliest ← now.assumeUniversal.shift (-gap)
        if stoppedAt.isBefore earliest then return none
        else if ← previous.continuedAt stoppedAt newProgress
            (threshold.getD (.int limits.continuedSessionThreshold)) now.assumeUniversal then
          return some previous.chainRoot
        else return none := by
  unfold resumeLink
  cases previous.stoppedAt with
  | none => rfl
  | some stoppedAt =>
    simp only [Moment.isBefore_toTimestamp]
    rfl

end Session

end StreamWatch
