import StreamWatch.Proofs.Lifecycle.Course

namespace StreamWatch

/-!
# The time watched and the time paused make up the whole

Every pause is rounded down to milliseconds on its own.  What a course records as watched and
as paused still adds up to the milliseconds between start and stop, because the recorded
pauses never pass the time that has gone by:

* `PauseRecord.Within` — the invariant: the closed pauses, whatever the changes of state
  were, lie between the start and the open pause, or now if none is open;
* `PauseRecord.Within.advance`, `Session.follow_within` — one report keeps it, and so does
  a list of reports;
* `PauseRecord.Within.final` — hence the pauses of a stop do not pass the time elapsed.
-/

/-- The start of the open pause, or a time in its place where no pause is open. -/
def PauseRecord.openedBy (pauses : PauseRecord) (now : Timestamp) : Timestamp :=
  (pauses.lastPausedAt.map Moment.toTimestamp).getD now

/-- The pauses that are closed lie between a start and the open pause, and that one begins
    no later than now.  Where no pause is open, now takes its place. -/
structure PauseRecord.Within (pauses : PauseRecord) (start now : Timestamp) : Prop where
  nonneg : 0 ≤ pauses.pausedDuration
  closed : pauses.pausedDuration * 1000 ≤ (pauses.openedBy now).instant - start.instant
  opened : (pauses.openedBy now).instant ≤ now.instant

namespace PauseRecord.Within

variable {pauses : PauseRecord} {start now later : Timestamp}

/-- Time that passes leaves the pauses where they are. -/
theorem mono (h : pauses.Within start now) (hlater : now.instant ≤ later.instant) :
    pauses.Within start later := by
  obtain ⟨hnonneg, hclosed, hopened⟩ := h
  unfold PauseRecord.openedBy at *
  refine ⟨hnonneg, ?_, ?_⟩ <;> unfold PauseRecord.openedBy <;>
    cases hlast : pauses.lastPausedAt <;>
    simp only [hlast, Option.map_none, Option.map_some, Option.getD_none, Option.getD_some] at * <;>
    omega

/-- The milliseconds of the open pause are those of the time since it began. -/
theorem openFor_eq (h : pauses.Within start now) :
    pauses.openFor now = (now.instant - (pauses.openedBy now).instant) / 1000 := by
  have hopened := h.opened
  unfold PauseRecord.openFor PauseRecord.openedBy
  cases hlast : pauses.lastPausedAt with
  | none => simp only [Option.map_none, Option.getD_none, Int.sub_self, Int.zero_ediv]
  | some began => rfl

/-- A change of state keeps the pauses within the time that has gone by. -/
theorem advance (h : pauses.Within start now) (previous new : Option PlaybackState) :
    (pauses.advance previous new now).Within start now := by
  have hopen := h.openFor_eq
  obtain ⟨hnonneg, hclosed, hopened⟩ := h
  unfold PauseRecord.openedBy at hclosed hopened hopen
  unfold PauseRecord.advance
  split
  · -- A pause opens, and takes the place of one that was left open.
    refine ⟨hnonneg, ?_, ?_⟩ <;> simp only [PauseRecord.openedBy, Option.map_some,
      Option.getD_some, Timestamp.assumeUniversal] <;> omega
  · -- The open pause closes, and its own whole milliseconds fit behind the others.
    refine ⟨?_, ?_, ?_⟩ <;>
      simp only [PauseRecord.openedBy, Option.map_none, Option.getD_none, hopen] <;> omega
  · -- Nothing opens or closes.
    exact ⟨hnonneg, hclosed, hopened⟩

/-- The pauses of a stop are not negative and do not pass the milliseconds elapsed. -/
theorem final (h : pauses.Within start now) :
    0 ≤ pauses.pausedDuration + pauses.openFor now ∧
      pauses.pausedDuration + pauses.openFor now ≤ now.millisecondsSince start := by
  have hopen := h.openFor_eq
  obtain ⟨hnonneg, hclosed, hopened⟩ := h
  rw [Timestamp.millisecondsSince_eq, hopen]
  constructor <;> omega

end PauseRecord.Within

namespace Session

/-- Reports in the order of their times keep the pauses of a session within the time that has
    gone by, up to a stop that comes after them. -/
theorem follow_within (s : Session) (ticks : List Tick) {start now stoppedAt : Timestamp}
    (h : s.pauses.Within start now)
    (horder : Timestamp.InOrder (now :: (ticks.map Tick.time ++ [stoppedAt]))) :
    ∃ played, s.follow ticks = .ok played ∧ played.startedAt = s.startedAt ∧
      played.pauses.Within start stoppedAt := by
  induction ticks generalizing s now with
  | nil =>
    obtain ⟨hstop, _⟩ := List.isChain_cons_cons.mp horder
    exact ⟨s, rfl, rfl, h.mono hstop⟩
  | cons tick rest ih =>
    obtain ⟨htick, hrest⟩ := List.isChain_cons_cons.mp horder
    obtain ⟨reported, hfollow, hstarted, _, hpauses⟩ := s.follow_cons tick rest
    have hkept : reported.pauses.Within start tick.time := by
      rw [hpauses]
      exact (h.mono htick).advance _ _
    rw [hfollow, ← hstarted]
    exact ih reported hkept hrest

end Session

namespace Course

/-- What a stop takes for the time watched, when the pauses are within the time elapsed. -/
theorem duration_add_paused {s : Session} {stoppedAt : Timestamp}
    (h : s.pauses.Within s.startedAt stoppedAt) :
    0 ≤ (s.stopDuration stoppedAt).duration ∧
      0 ≤ (s.stopDuration stoppedAt).finalPausedDuration ∧
      (s.stopDuration stoppedAt).duration + (s.stopDuration stoppedAt).finalPausedDuration =
        stoppedAt.millisecondsSince s.startedAt := by
  obtain ⟨hnonneg, hwhole⟩ := h.final
  have hpaused : s.pauses.pausedDuration = s.pausedDuration := rfl
  simp only [Session.stopDuration]
  omega

/-- A regular course comes to an end.  Its last reports leave a session whose pauses are within
    the time gone by, and the stop takes its two lengths of time from that session. -/
theorem Regular.run_eq_ok {c : Course} (h : c.Regular) :
    ∃ played result, c.session.follow c.ticks = .ok played ∧ c.run = .ok result ∧
      played.startedAt = c.session.startedAt ∧
      played.pauses.Within played.startedAt c.stoppedAt ∧
      result.duration = (played.stopDuration c.stoppedAt).duration ∧
      result.session.duration = some result.duration ∧
      result.session.pausedDuration = (played.stopDuration c.stoppedAt).finalPausedDuration := by
  have hwithin : c.session.pauses.Within c.session.startedAt c.session.startedAt := by
    refine ⟨?_, ?_, ?_⟩ <;> simp only [Session.pauses, PauseRecord.openedBy, h.notOpen,
      h.notPaused, Option.map_none, Option.getD_none] <;> omega
  obtain ⟨played, hfollow, hstarted, hkept⟩ :=
    c.session.follow_within c.ticks hwithin h.inOrder
  rw [← hstarted] at hkept
  obtain ⟨hduration, hpaused, hsum⟩ := duration_add_paused hkept
  -- The time watched is a part of the time elapsed, which a double can come near to.
  have hbound : (played.stopDuration c.stoppedAt).duration.natAbs < twoPow 64 := by
    have hlength := h.stopped.millisecondsSince_lt h.started
    rw [← hstarted] at hlength
    omega
  obtain ⟨result, hstop, hwatched, hnoted, hrecorded⟩ :=
    played.stop_eq_ok c.stoppedAt h.threshold hbound
  refine ⟨played, result, hfollow, ?_, hstarted, hkept, hwatched, ?_, hrecorded⟩
  · simp only [run, hfollow, hstop]
  · rw [hnoted, hwatched]

/-- **Watch time is conserved.**  Every regular course comes to an end, whatever the states of
    the session and of its reports are.  The time watched and the time paused are not negative,
    and together they are the whole milliseconds from the start to the stop: nothing is cut
    off at zero. -/
theorem watched_add_paused_eq_elapsed (c : Course) (h : c.Regular) :
    ∃ result, c.run = .ok result ∧ result.session.duration = some result.duration ∧
      0 ≤ result.duration ∧ 0 ≤ result.session.pausedDuration ∧
      result.duration + result.session.pausedDuration = c.elapsed := by
  obtain ⟨played, result, _, hrun, hstarted, hkept, hwatched, hnoted, hrecorded⟩ := h.run_eq_ok
  obtain ⟨hduration, hpaused, hsum⟩ := duration_add_paused hkept
  refine ⟨result, hrun, hnoted, ?_, ?_, ?_⟩
  · rw [hwatched]
    exact hduration
  · rw [hrecorded]
    exact hpaused
  · rw [hwatched, hrecorded, hsum, hstarted]
    rfl

/-- A course of three pauses that are no whole number of milliseconds long.  One of them is
    heard of through buffering, and the last is open at the stop. -/
def uneven : Course where
  session := Session.starting "session" "user" "server" ⟨⟨1000, some 60⟩, rfl⟩
  ticks :=
    [⟨.paused, ⟨2500, some 0⟩, none⟩, ⟨.playing, ⟨4999, some 120⟩, some 1⟩,
      ⟨.buffering, ⟨5000, none⟩, none⟩, ⟨.paused, ⟨6000, none⟩, some 2⟩,
      ⟨.playing, ⟨7100, some 0⟩, none⟩, ⟨.paused, ⟨8200, some 0⟩, none⟩]
  stoppedAt := ⟨10999, some 0⟩
  mode := .standard

/-- The conservation at a course of uneven pauses, of nine milliseconds and a rest. -/
theorem watched_add_paused_uneven :
    uneven.Regular ∧ ∃ result, uneven.run = .ok result ∧
      result.session.duration = some result.duration ∧
      0 ≤ result.duration ∧ 0 ≤ result.session.pausedDuration ∧
      result.duration + result.session.pausedDuration = 9 := by
  have hregular : uneven.Regular :=
    { notOpen := rfl
      notPaused := rfl
      inOrder := by unfold Timestamp.InOrder; decide
      started := ⟨by decide, by decide⟩
      stopped := ⟨by decide, by decide⟩
      threshold := nofun }
  exact ⟨hregular, watched_add_paused_eq_elapsed uneven hregular⟩

end Course

end StreamWatch
