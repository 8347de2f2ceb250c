import StreamWatch.Proofs.Lifecycle.Moments
import StreamWatch.Unchecked

namespace StreamWatch

/-!
# The life of a session by instants

Timestamps come with all kinds of offsets, and some with none.  What happens to a session goes by
the instants alone, so that it is the same when everything is told in universal time:

* `Timestamp.inUniversal`, `PauseData.inUniversal`, `Session.inUniversal`,
  `StopResult.inUniversal` — the same with all times in universal time;
* `PauseData.advanceAt_inUniversal`, `Session.advanceNamed_inUniversal`,
  `Session.stopAt_inUniversal` — a report and a stop may be told in universal time before or after;
* `isStaleOf_inUniversal` — and so may the times of which one is long ago or not;
* `AgreeInRange` — equal results, unless one of them is a date outside the calendar.  A time that is
  shifted has a clock of its own, which may leave the calendar before another one does;
* `Session.resumeLink_agree` — hence a session resumes another one, or not, by their instants.
-/

/-! ### Times -/

namespace Timestamp

/-- The moment in universal time that is the instant of a timestamp. -/
def inUniversal (t : Timestamp) : Moment := .universal t.instant

variable {t u : Timestamp}

/-- In universal time two times are the same exactly if they are the same instant. -/
theorem inUniversal_eq_iff : t.inUniversal = u.inUniversal ↔ t.instant = u.instant := by
  constructor
  · intro h
    show t.inUniversal.instant = u.inUniversal.instant
    rw [h]
  · intro h
    unfold inUniversal
    rw [h]

end Timestamp

/-! ### Results of shifted times -/

/-- Are two results equal, unless one of them is a date outside the calendar? -/
def AgreeInRange {α : Type} (r r' : Except Fault α) : Prop :=
  r ≠ .error .dateOutOfRange → r' ≠ .error .dateOutOfRange → r = r'

namespace AgreeInRange

variable {α β : Type} {r r' : Except Fault α}

theorem of_eq (h : r = r') : AgreeInRange r r' := fun _ _ => h

/-- What agrees does so after every function. -/
theorem map (h : AgreeInRange r r') (f : α → β) : AgreeInRange (r.map f) (r'.map f) := by
  intro hr hr'
  rw [h (fun hout => hr (hout ▸ rfl)) fun hout => hr' (hout ▸ rfl)]

/-- What follows on the same result agrees, if it does for every value. -/
theorem bind (r : Except Fault α) {f f' : α → Except Fault β}
    (h : ∀ a, AgreeInRange (f a) (f' a)) : AgreeInRange (r.bind f) (r.bind f') := by
  cases r with
  | error fault => exact of_eq rfl
  | ok a => exact h a

/-- What follows on shifts of one instant agrees, if it does for moments of one instant. -/
theorem shift {t t' : Moment} (ht : t.instant = t'.instant) (length : Duration)
    {f f' : Moment → Except Fault α}
    (h : ∀ u u' : Moment, u.instant = u'.instant → AgreeInRange (f u) (f' u')) :
    AgreeInRange ((t.shift length).bind f) ((t'.shift length).bind f') := by
  unfold Moment.shift
  intro hr hr'
  -- A clock that leaves the calendar is all that the two shifts may differ in.
  by_cases hclock : Timestamp.clockInRange (t.localClock + length) = true
  · by_cases hclock' : Timestamp.clockInRange (t'.localClock + length) = true
    · rw [if_pos hclock] at hr ⊢
      rw [if_pos hclock'] at hr' ⊢
      exact h _ _ (congrArg (· + length) ht) hr hr'
    · rw [if_neg hclock'] at hr'
      exact absurd rfl hr'
  · rw [if_neg hclock] at hr
    exact absurd rfl hr

end AgreeInRange

/-! ### Everything in universal time -/

/-- A time that may be missing as one in universal time. -/
def toldInUniversal (time : Option Timestamp) : Option Timestamp :=
  time.map fun t => t.inUniversal

/-- What is known of pauses in universal time. -/
def PauseData.inUniversal (pauses : PauseData) : PauseRecord :=
  ⟨pauses.lastPausedAt.map Timestamp.inUniversal, pauses.pausedDuration⟩

/-- The bookkeeping of pauses in universal time. -/
def PauseRecord.inUniversal (pauses : PauseRecord) : PauseRecord :=
  { pauses with lastPausedAt := pauses.lastPausedAt.map (·.inUniversal) }

/-- A session in universal time. -/
def Session.inUniversal (s : Session) : Session :=
  { s with
    startedAt := s.startedAt.inUniversal
    stoppedAt := s.stoppedAt.map (·.inUniversal)
    lastSeenAt := s.lastSeenAt.map (·.inUniversal)
    lastPausedAt := s.lastPausedAt.map (·.inUniversal) }

/-- The result of a stop in universal time. -/
def StopResult.inUniversal (result : StopResult) : StopResult :=
  { result with session := result.session.inUniversal }

/-- The bookkeeping of pauses is told in universal time by what is known of them. -/
theorem PauseRecord.data_inUniversal (pauses : PauseRecord) :
    pauses.data.inUniversal = pauses.inUniversal := by
  unfold data PauseData.inUniversal
  rw [Option.map_map]
  rfl

/-- A change of state in universal time leaves the bookkeeping in universal time. -/
theorem PauseData.advanceAt_inUniversal (pauses : PauseData)
    (previous new : Option PlaybackState) (now : Option Timestamp) :
    pauses.inUniversal.data.advanceAt previous new (toldInUniversal now) =
      (pauses.advanceAt previous new now).map PauseRecord.inUniversal := by
  obtain ⟨began, total⟩ := pauses
  unfold advanceAt
  split
  · -- A pause opens at the time of the change.
    cases now <;> rfl
  · -- It closes, and was open from one time to another, one of which may be missing.
    cases began <;> cases now <;> rfl
  · cases began <;> rfl

/-- A session is stale in universal time exactly if it is. -/
theorem isStaleOf_inUniversal (lastHeardAt : Option Timestamp) (timeoutSeconds : Datum)
    (now : Timestamp) :
    isStaleOf (toldInUniversal lastHeardAt) timeoutSeconds now.inUniversal =
      isStaleOf lastHeardAt timeoutSeconds now := by
  cases lastHeardAt with
  | none => rfl
  | some heard =>
    show isStaleOf (some heard.inUniversal.toTimestamp) timeoutSeconds _ = _
    unfold isStaleOf
    cases timeoutSeconds.count? with
    | none => rfl
    | some seconds =>
      simp only [isStale_eq]
      rfl

namespace Session

/-- The time watched until a stop is the same in universal time. -/
theorem stopDuration_inUniversal (s : Session) (stoppedAt : Timestamp) :
    s.inUniversal.stopDuration stoppedAt.inUniversal = s.stopDuration stoppedAt := by
  have hopen : s.inUniversal.pauses.openFor stoppedAt.inUniversal = s.pauses.openFor stoppedAt := by
    unfold PauseRecord.openFor pauses inUniversal
    cases s.lastPausedAt <;> rfl
  unfold stopDuration
  rw [hopen]
  rfl

/-- The same at a time that may be missing. -/
theorem stopDurationAt_inUniversal (s : Session) (stoppedAt : Option Timestamp) :
    s.inUniversal.stopDurationAt (toldInUniversal stoppedAt) = s.stopDurationAt stoppedAt := by
  cases stoppedAt with
  | none => rfl
  | some t =>
    show s.inUniversal.stopDurationAt (some t.inUniversal) = _
    rw [stopDurationAt_some, stopDurationAt_some, stopDuration_inUniversal]

/-- Hearing of a state in universal time leaves the session in universal time. -/
theorem heardAt_inUniversal (s : Session) (new : PlaybackState) (now : Option Timestamp) :
    s.inUniversal.heardAt new (toldInUniversal now) = (s.heardAt new now).map inUniversal := by
  -- A report makes its time a moment before the pauses do so once more.
  have hpauses := s.pauses.data.advanceAt_inUniversal (some s.state) (some new)
    ((now.map Timestamp.assumeUniversal).map Moment.toTimestamp)
  have htold : toldInUniversal ((now.map Timestamp.assumeUniversal).map Moment.toTimestamp) =
      ((toldInUniversal now).map Timestamp.assumeUniversal).map Moment.toTimestamp := by
    cases now <;> rfl
  rw [htold, PauseRecord.data_inUniversal] at hpauses
  unfold heardAt
  show (s.pauses.inUniversal.data.advanceAt (some s.state) (some new) _).map _ =
    ((s.pauses.data.advanceAt (some s.state) (some new) _).map _).map _
  rw [hpauses]
  cases s.pauses.data.advanceAt (some s.state) (some new) _ with
  | error fault => rfl
  | ok pauses => cases now <;> rfl

/-- A report in universal time leaves the session in universal time. -/
theorem advanceNamed_inUniversal (s : Session) (name : String) (now : Option Timestamp)
    (position : Datum) :
    s.inUniversal.advanceNamed name (toldInUniversal now) position =
      (s.advanceNamed name now position).map inUniversal := by
  have hmoved : ∀ t : Session, t.inUniversal.movedTo position =
      (t.movedTo position).map inUniversal := by
    intro t
    unfold movedTo
    split
    · rfl
    · show (clampReported t.totalDuration position).map _ = _
      cases clampReported t.totalDuration position <;> rfl
  unfold advanceNamed
  cases PlaybackState.ofName name with
  | error fault => rfl
  | ok new =>
    show (s.inUniversal.heardAt new _).bind (fun heard => heard.movedTo position) =
      ((s.heardAt new now).bind fun heard => heard.movedTo position).map _
    rw [heardAt_inUniversal]
    cases s.heardAt new now with
    | error fault => rfl
    | ok heard => exact hmoved heard

/-- A stop in universal time has its result in universal time. -/
theorem stopAt_inUniversal (s : Session) (stoppedAt : Option Timestamp) (mode : StopMode) :
    s.inUniversal.stopAt (toldInUniversal stoppedAt) mode =
      (s.stopAt stoppedAt mode).map StopResult.inUniversal := by
  cases stoppedAt with
  | none => rfl
  | some t =>
    have hduration := s.stopDuration_inUniversal t
    show s.inUniversal.stopAt (some t.inUniversal) mode = _
    rw [stopAt_some, stopAt_some, stop_eq_map, stop_eq_map, hduration]
    show (s.watchedAfter mode (s.stopDuration t).duration).map _ = _
    cases s.watchedAfter mode (s.stopDuration t).duration with
    | error fault => rfl
    | ok watched =>
      simp only [Except.map, ending, hduration]
      rfl

/-- Whether a session goes on where a stopped one ended is the same in universal time. -/
theorem continuedAt_inUniversal (previous : Session) (stoppedAt : Moment)
    (newProgress threshold : Datum) (now : Moment) :
    previous.inUniversal.continuedAt stoppedAt.inUniversal newProgress threshold now.inUniversal =
      previous.continuedAt stoppedAt newProgress threshold now := by
  rw [continuedAt_eq, continuedAt_eq]
  rfl

variable {previous previous' : Session}

/-- **Resuming** goes by the instants: two sessions that are the same in universal time are resumed
    by the same, at times of one instant. -/
theorem resumeLink_agree (h : previous.inUniversal = previous'.inUniversal) {now now' : Timestamp}
    (hnow : now.inUniversal = now'.inUniversal) (newProgress : Datum) (threshold : Option Datum)
    (limits : SessionLimits) :
    AgreeInRange (previous.resumeLink newProgress threshold now limits)
      (previous'.resumeLink newProgress threshold now' limits) := by
  have hstopped : previous.stoppedAt.map (·.inUniversal) =
      previous'.stoppedAt.map (·.inUniversal) := congrArg Session.stoppedAt h
  have hroot : previous.chainRoot = previous'.chainRoot := by
    show previous.inUniversal.chainRoot = previous'.inUniversal.chainRoot
    rw [h]
  rw [resumeLink_eq, resumeLink_eq]
  cases hfirst : previous.stoppedAt with
  | none =>
    rw [hfirst] at hstopped
    rw [Option.map_eq_none_iff.mp hstopped.symm]
    exact .of_eq rfl
  | some stoppedAt =>
    rw [hfirst] at hstopped
    obtain ⟨stoppedAt', hsecond, hsame⟩ := Option.map_eq_some_iff.mp hstopped.symm
    rw [hsecond]
    apply AgreeInRange.bind
    intro gap
    -- The earliest stop that counts is all that can leave the calendar on one of the two clocks.
    apply AgreeInRange.shift (Timestamp.inUniversal_eq_iff.mp hnow)
    intro u u' hu
    apply AgreeInRange.of_eq
    have hsame : stoppedAt'.inUniversal = stoppedAt.inUniversal := hsame
    have hbefore : stoppedAt.isBefore u = stoppedAt'.isBefore u' := by
      have hinstant := Timestamp.inUniversal_eq_iff.mp hsame
      unfold Moment.isBefore
      rw [hu, hinstant]
    have hcontinued : ∀ threshold,
        previous.continuedAt stoppedAt newProgress threshold now.assumeUniversal =
          previous'.continuedAt stoppedAt' newProgress threshold now'.assumeUniversal := by
      intro threshold
      rw [← continuedAt_inUniversal, ← continuedAt_inUniversal previous', h, ← hsame]
      exact congrArg (previous'.inUniversal.continuedAt _ newProgress threshold ·.toTimestamp) hnow
    rw [hbefore, hroot, hcontinued]

end Session

end StreamWatch
