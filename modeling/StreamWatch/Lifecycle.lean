import StreamWatch.Limits
import StreamWatch.Session

namespace StreamWatch

/-! # The life of a session

Reports of a player turn into the facts of a session. Nothing here reads a clock: every
time is an argument, and may come without an offset or be missing.

* `elapsed`: the milliseconds between two times;
* `PauseData.advanceAt`: the bookkeeping of pauses through one change of state;
* `Session.stopDurationAt`: the time watched by a session that stops;
* `isStale`, `worthRecording`, `watchCompleted`: the thresholds of a session's life;
* `Session.resumeLink`: the session that a later one resumes;
* `Session.advanceNamed`, `Session.stopAt`: a session after a report, and after its end;
* `Session.trace`: what becomes of a session through a list of events.
-/

/-! ### Lengths of time -/

/-- There is no time, and its distance from a moment is asked for. -/
def Fault.noTime : Fault := .misuse (.noOperation "-" "NoneType" "datetime.datetime")

/-- The whole milliseconds from `start` to `t`, rounded down. -/
def elapsed (start t : Timestamp) : Except Fault Int := (t.since start).map Duration.milliseconds

/-- The milliseconds of the pause that is open, none if none is. An open one has no length at a
    time that is missing. -/
def openPause (began now : Option Timestamp) : Except Fault Int :=
  match began, now with
  | none, _ => .ok 0
  | some start, some t => elapsed start t
  | some _, none => .error .noTime

/-! ### Pauses -/

/-- What is known of pauses: the start of the open one, if one is open, and the recorded
    milliseconds of the closed ones. -/
structure PauseData where
  lastPausedAt : Option Timestamp
  pausedDuration : Int

/-- The bookkeeping of pauses: the same, once the start is a moment. -/
structure PauseRecord where
  lastPausedAt : Option Moment
  pausedDuration : Int

/-- The bookkeeping of pauses as what is known of them. -/
def PauseRecord.data (pauses : PauseRecord) : PauseData :=
  ⟨pauses.lastPausedAt.map Moment.toTimestamp, pauses.pausedDuration⟩

/-- The bookkeeping after a change of state at a time that may be missing: a pause opens from
    playing to paused, and closes from paused to playing. No other change counts; `none` is a state
    that is not known. -/
def PauseData.advanceAt (pauses : PauseData) (previous new : Option PlaybackState)
    (now : Option Timestamp) : Except Fault PauseRecord :=
  let now := now.map Timestamp.assumeUniversal
  let began := pauses.lastPausedAt.map Timestamp.assumeUniversal
  match previous, new with
  | some .playing, some .paused => .ok ⟨now, pauses.pausedDuration⟩
  | some .paused, some .playing => do
    let length ← openPause (began.map Moment.toTimestamp) (now.map Moment.toTimestamp)
    return ⟨none, pauses.pausedDuration + length⟩
  | _, _ => .ok ⟨began, pauses.pausedDuration⟩

/-- The bookkeeping of pauses of a session. -/
def Session.pauses (s : Session) : PauseRecord := ⟨s.lastPausedAt, s.pausedDuration⟩

/-! ### Time watched -/

/-- The milliseconds watched until a stop, and those spent in pauses. -/
structure StopDuration where
  duration : Int
  finalPausedDuration : Int

/-- The time watched by a session that stops at a time that may be missing: the time that has
    passed without the pauses, of which an open one closes. It is never below zero, whatever the
    clocks say. -/
def Session.stopDurationAt (s : Session) (stoppedAt : Option Timestamp) :
    Except Fault StopDuration :=
  match stoppedAt.map Timestamp.assumeUniversal with
  | some t => do
    let total ← elapsed s.startedAt t
    let length ← openPause (s.lastPausedAt.map Moment.toTimestamp) (some t)
    let paused := s.pausedDuration + length
    return ⟨max 0 (total - paused), paused⟩
  | none => .error .noTime

/-! ### Thresholds -/

/-- Is a session that was last heard of at a time stale at `now`? It is after strictly more
    than the timeout. -/
def isStale (lastHeardAt : Timestamp) (timeoutSeconds : Number) (now : Timestamp) :
    Except Fault Bool := do
  let silence ← Timestamp.since now.assumeUniversal lastHeardAt.assumeUniversal
  return decide ((← Duration.ofSeconds timeoutSeconds) < silence)

/-- Is a session long enough to be recorded? Any is if no time is asked for. -/
def worthRecording (duration : Option Number) (minPlayTime : Number) : Bool :=
  if minPlayTime.nonzero then
    match duration with
    | some length => minPlayTime.atMost length
    | none => false
  else true

/-- The part of an item that was played, as the nearest double. -/
def playedPart (progress total : Number) : Except Fault Float :=
  match progress, total with
  | .int a, .int b =>
    match quotient? a b with
    | some part => .ok part
    | none => .error .quotientTooLarge
  | a, b => do return (← a.double) / (← b.double)

/-- Was at least the threshold of an item played? What is missing or zero counts as not
    known. -/
def watchCompleted (progress total : Option Number) (threshold : Datum) : Except Fault Bool :=
  match progress, total with
  | some a, some b =>
    if a.nonzero && b.nonzero then do (Datum.real (← playedPart a b)).stands .atLeast threshold
    else .ok false
  | _, _ => .ok false

/-! ### Resuming -/

namespace Session

/-- The first session of the chain that a session belongs to. -/
def chainRoot (s : Session) : String :=
  match s.referenceId with
  | some root => if root.isEmpty then s.id else root
  | none => s.id

/-- Does a new session go on where a stopped one ended? It starts within the threshold
    after the stop, at the same position or later, and the item was not watched. -/
def continuedAt (previous : Session) (stoppedAt : Timestamp) (newProgress threshold : Datum)
    (now : Timestamp) : Except Fault Bool := do
  if ← (Datum.int (← elapsed stoppedAt now)).stands .greater threshold then return false
  else if previous.watched then return false
  else return !(← newProgress.stands .less (previous.progress.orElse (.int 0)))

/-- The root of the chain that a new session joins if it resumes `previous`, which has to
    have stopped and not longer ago than the greatest gap, whatever the threshold. -/
def resumeLink (previous : Session) (newProgress : Datum) (threshold : Option Datum)
    (now : Timestamp) (limits : SessionLimits) : Except Fault (Option String) :=
  match previous.stoppedAt with
  | none => .ok none
  | some stoppedAt => do
    let now := now.assumeUniversal
    let gap ← Duration.ofHours limits.maxGroupGapHours
    let earliest ← now.shift (-gap)
    if ← Timestamp.isBefore stoppedAt earliest then return none
    else if ← previous.continuedAt stoppedAt newProgress
        (threshold.getD (.int limits.continuedSessionThreshold)) now then
      return some previous.chainRoot
    else return none

/-! ### Reports -/

/-- The session after a report that was heard at a time and changed the bookkeeping of
    pauses. -/
def reported (s : Session) (new : PlaybackState) (seen : Option Moment)
    (pauses : PauseRecord) : Session :=
  { s with
    state := new
    lastSeenAt := seen
    lastPausedAt := pauses.lastPausedAt
    pausedDuration := pauses.pausedDuration }

/-- The session after a report of a state at a time that may be missing. -/
def heardAt (s : Session) (new : PlaybackState) (now : Option Timestamp) :
    Except Fault Session :=
  let now := now.map Timestamp.assumeUniversal
  (s.pauses.data.advanceAt (some s.state) (some new) (now.map Moment.toTimestamp)).map
    (s.reported new now)

/-- The session after a report of a position, if there is one. -/
def movedTo (s : Session) (position : Datum) : Except Fault Session :=
  match position with
  | .null => .ok s
  | _ => (clampReported s.totalDuration position).map fun p => { s with progress := p }

/-- Without a position in a report it stays as it was. -/
@[simp] theorem movedTo_null (s : Session) : s.movedTo .null = .ok s := rfl

/-- The session after a report: state, pauses, time of the report and position. -/
def advance (s : Session) (new : PlaybackState) (now : Timestamp) (position : Datum) :
    Except Fault Session := do
  (← s.heardAt new (some now)).movedTo position

/-- The session after a report that gives the state by its name, and may give no time. -/
def advanceNamed (s : Session) (name : String) (now : Option Timestamp) (position : Datum) :
    Except Fault Session := do
  let new ← PlaybackState.ofName name
  (← s.heardAt new now).movedTo position

end Session

/-- How a session is stopped. -/
structure StopMode where
  /-- What is said of the stop being forced. -/
  forceStopped : Datum
  /-- Keep the mark of being watched as it is, for a stream that restarts. -/
  preserveWatched : Bool
  limits : SessionLimits
  /-- The completion threshold, if it is not that of the limits. -/
  watchThreshold : Option Datum

/-- A stop where nothing else is asked for. -/
def StopMode.standard : StopMode := ⟨.bool false, false, .standard, none⟩

/-- A stopped session with the facts that its stop decided. -/
structure StopResult where
  session : Session
  duration : Int
  watched : Bool
  shortSession : Bool

namespace Session

/-- Does a stop leave a session watched? The time watched decides, not the reported position,
    and a session that was watched stays so. -/
def watchedAfter (s : Session) (mode : StopMode) (duration : Int) : Except Fault Bool :=
  if mode.preserveWatched || s.watched then .ok s.watched
  else
    let standard := Datum.real mode.limits.watchCompletionThreshold
    watchCompleted (some (.int duration)) (s.totalDuration.map .int)
      (mode.watchThreshold.getD standard)

/-- Ends a session at a time that may be missing, and decides its final facts. -/
def stopAt (s : Session) (stoppedAt : Option Timestamp) (mode : StopMode) :
    Except Fault StopResult := do
  let stoppedAt := stoppedAt.map Timestamp.assumeUniversal
  let final ← s.stopDurationAt (stoppedAt.map Moment.toTimestamp)
  let watched ← s.watchedAfter mode final.duration
  let shortSession := !worthRecording (some (.int final.duration)) (.int mode.limits.minPlayTime)
  let stopped := { s with
    state := .stopped
    stoppedAt := stoppedAt
    duration := some final.duration
    pausedDuration := final.finalPausedDuration
    lastPausedAt := none
    watched := watched
    shortSession := shortSession
    forceStopped := s.forceStopped.orElse mode.forceStopped }
  return ⟨stopped, final.duration, watched, shortSession⟩

/-- Ends a session. -/
def stop (s : Session) (stoppedAt : Timestamp) (mode : StopMode) : Except Fault StopResult :=
  s.stopAt (some stoppedAt) mode

end Session

/-! ### Whole lives -/

/-- Something that happens to a session, maybe at no time that is known. -/
inductive LifeEvent where
  | report (state : String) (now : Option Timestamp) (position : Datum)
  | stop (stoppedAt : Option Timestamp) (mode : StopMode)

namespace Session

/-- The session after an event. -/
def after (s : Session) : LifeEvent → Except Fault Session
  | .report state now position => s.advanceNamed state now position
  | .stop stoppedAt mode => (s.stopAt stoppedAt mode).map StopResult.session

/-- What becomes of a session, event by event. An event with a fault changes nothing. -/
def trace (s : Session) : List LifeEvent → List (Except Fault Session)
  | [] => []
  | event :: rest =>
    let outcome := s.after event
    outcome :: (outcome.toOption.getD s).trace rest

end Session

end StreamWatch
