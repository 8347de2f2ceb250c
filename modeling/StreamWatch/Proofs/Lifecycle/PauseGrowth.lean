import StreamWatch.Proofs.Lifecycle.PausedTime
import StreamWatch.Proofs.Monitor.Step
import StreamWatch.Validation.Session

namespace StreamWatch

/-!
# When the recorded pause grows

What is recorded as paused is added up pause by pause, and the clocks that reports come from may
run backwards.  A pause that is closed before it began takes something away:

* `ClosedPause`, `closedPauses` — the pauses that reports and a stop close, read off the states and
  the times that were reported;
* `forward_closedPauses_cons` — a report does not shrink what is recorded exactly if the pause that
  it closes runs forward;
* `Session.snapshots`, `Course.snapshots` — the sessions that a course leaves one after the other;
* `Course.neverShrinks_iff` — what is recorded never shrinks in a course exactly if all pauses that
  it closes run forward, as they do where the times are in order.
-/

/-! ### Closed pauses -/

/-- A pause that was closed: the instants at which it began and at which it was closed. -/
structure ClosedPause where
  began : Int
  closed : Int
  deriving DecidableEq

/-- Was a pause closed no earlier than it began? -/
def ClosedPause.Forward (pause : ClosedPause) : Prop := pause.began ≤ pause.closed

instance (pause : ClosedPause) : Decidable pause.Forward := inferInstanceAs (Decidable (_ ≤ _))

/-- The pause that is closed at an instant, if one is open. -/
def closedAt (began : Option Int) (now : Int) : List ClosedPause :=
  (began.map (⟨·, now⟩)).toList

/-- The pauses that are closed by reports, and by a stop if there is one.  One may be open at first,
    since some instant. -/
def closedPauses (began : Option Int) (state : PlaybackState) (stop : Option Timestamp) :
    List Tick → List ClosedPause
  | [] => stop.toList.flatMap fun t => closedAt began t.instant
  | tick :: rest =>
    match state, tick.state with
    | .playing, .paused => closedPauses (some tick.time.instant) .paused stop rest
    | .paused, .playing =>
      closedAt began tick.time.instant ++ closedPauses none .playing stop rest
    | _, new => closedPauses began new stop rest

namespace PauseRecord

/-- The instant since which a pause is open, if one is. -/
def openSince (pauses : PauseRecord) : Option Int :=
  pauses.lastPausedAt.map fun start => start.instant

/-- The open pause lasts for less than no time exactly if it does not run forward. -/
theorem nonneg_openFor_iff (pauses : PauseRecord) (now : Timestamp) :
    0 ≤ pauses.openFor now ↔ ∀ pause ∈ closedAt pauses.openSince now.instant, pause.Forward := by
  unfold openFor closedAt openSince
  cases pauses.lastPausedAt with
  | none => exact iff_of_true (Int.le_refl 0) nofun
  | some start =>
    simp only [Option.map_some, Option.toList_some, List.mem_singleton, forall_eq,
      ClosedPause.Forward, Timestamp.millisecondsSince_eq]
    omega

end PauseRecord

/-- A change of state opens a pause, or closes one, or is not heard of at all.  What is closed from
    it on, and what is recorded in it, goes by that. -/
theorem closedPauses_cons_cases (began : Option Int) (state : PlaybackState)
    (stop : Option Timestamp) (tick : Tick) (rest : List Tick) (pauses : PauseRecord) :
    let closed := closedPauses began state stop (tick :: rest)
    let after := pauses.advance (some state) (some tick.state) tick.time
    (closed = closedPauses (some tick.time.instant) tick.state stop rest ∧
        after = { pauses with lastPausedAt := some tick.time.assumeUniversal }) ∨
      (closed = closedAt began tick.time.instant ++ closedPauses none tick.state stop rest ∧
        after = ⟨none, pauses.pausedDuration + pauses.openFor tick.time⟩) ∨
      (closed = closedPauses began tick.state stop rest ∧
        after = pauses) := by
  obtain ⟨new, now, position⟩ := tick
  -- Only the step from playing to paused opens a pause, and only the step back closes one.
  cases state <;> cases new <;>
    first
      | exact .inl ⟨rfl, rfl⟩
      | exact .inr (.inl ⟨rfl, rfl⟩)
      | exact .inr (.inr ⟨rfl, rfl⟩)

/-- The pauses that are closed from a report on run forward exactly if what is recorded does not
    shrink with the report, and the pauses that are closed later run forward. -/
theorem forward_closedPauses_cons (pauses : PauseRecord) (state : PlaybackState)
    (stop : Option Timestamp) (tick : Tick) (rest : List Tick) :
    let after := pauses.advance (some state) (some tick.state) tick.time
    (∀ pause ∈ closedPauses pauses.openSince state stop (tick :: rest), pause.Forward) ↔
      pauses.pausedDuration ≤ after.pausedDuration ∧
        ∀ pause ∈ closedPauses after.openSince tick.state stop rest, pause.Forward := by
  obtain ⟨hclosed, hafter⟩ | ⟨hclosed, hafter⟩ | ⟨hclosed, hafter⟩ :=
    closedPauses_cons_cases pauses.openSince state stop tick rest pauses
  · rw [hclosed, hafter]
    exact (and_iff_right (Int.le_refl _)).symm
  · -- The pause that is closed is added to what is recorded.
    have hgrows : pauses.pausedDuration ≤ pauses.pausedDuration + pauses.openFor tick.time ↔
        0 ≤ pauses.openFor tick.time := by omega
    simp only [hclosed, hafter, List.forall_mem_append, hgrows, pauses.nonneg_openFor_iff]
    exact Iff.rfl
  · simp only [hclosed, hafter, Int.le_refl, true_and]

/-! ### Snapshots -/

namespace Session

/-- The sessions that reports leave one after the other, that before the first report in front. -/
def snapshots (s : Session) : List Tick → List Session
  | [] => [s]
  | tick :: rest =>
    s :: match s.advance tick.state tick.time (Datum.ofOption .int tick.position) with
      | .ok reported => reported.snapshots rest
      | .error _ => []

/-- The first report leaves a session behind, from which the others go on. -/
theorem snapshots_cons (s : Session) (tick : Tick) (rest : List Tick) :
    ∃ reported : Session, s.snapshots (tick :: rest) = s :: reported.snapshots rest ∧
      s.follow (tick :: rest) = reported.follow rest ∧ reported.state = tick.state ∧
      reported.pauses = s.pauses.advance (some s.state) (some tick.state) tick.time := by
  obtain ⟨p, hp⟩ := s.advance_tick tick
  refine ⟨{ s.heard tick.state tick.time with progress := p }, ?_, ?_, rfl, rfl⟩
  · simp only [snapshots, hp]
  · simp only [follow, hp]

/-- Every report leaves a session behind. -/
theorem length_snapshots (s : Session) (ticks : List Tick) :
    (s.snapshots ticks).length = ticks.length + 1 := by
  induction ticks generalizing s with
  | nil => rfl
  | cons tick rest ih =>
    obtain ⟨reported, hsnapshots, _⟩ := s.snapshots_cons tick rest
    rw [hsnapshots, List.length_cons, ih, List.length_cons]

end Session

namespace Course

/-- The sessions that a course leaves one after the other.  If the stop fails it leaves none. -/
def snapshots (c : Course) : List Session :=
  c.session.snapshots c.ticks ++ (c.run.toOption.map StopResult.session).toList

/-- The time of the stop, if it does not fail. -/
def stopTime? (c : Course) : Option Timestamp := c.run.toOption.map fun _ => c.stoppedAt

/-- The pauses that a course closes. -/
def closedPauses (c : Course) : List ClosedPause :=
  StreamWatch.closedPauses c.session.pauses.openSince c.session.state c.stopTime? c.ticks

/-- Does the recorded pause never get less from one session of a course to the next? -/
def NeverShrinks (c : Course) : Prop :=
  (c.snapshots.map Session.pausedDuration).IsChain (· ≤ ·)

/-- The first session of a course is the one it begins with. -/
theorem exists_snapshots_eq (c : Course) : ∃ later, c.snapshots = c.session :: later := by
  unfold snapshots
  cases c.ticks with
  | nil => exact ⟨_, rfl⟩
  | cons tick rest =>
    obtain ⟨reported, hsnapshots, _⟩ := c.session.snapshots_cons tick rest
    rw [hsnapshots]
    exact ⟨_, rfl⟩

/-- Without reports a course closes what was open at the stop, and records it. -/
theorem neverShrinks_nil (s : Session) (stoppedAt : Timestamp) (mode : StopMode) :
    (⟨s, [], stoppedAt, mode⟩ : Course).NeverShrinks ↔
      ∀ pause ∈ (⟨s, [], stoppedAt, mode⟩ : Course).closedPauses, pause.Forward := by
  have hrun : (⟨s, [], stoppedAt, mode⟩ : Course).run = s.stop stoppedAt mode := rfl
  unfold NeverShrinks Course.closedPauses snapshots stopTime?
  rw [hrun]
  cases hstop : s.stop stoppedAt mode with
  | error fault => exact iff_of_true (List.isChain_singleton _) nofun
  | ok result =>
    obtain ⟨_, _, hsession⟩ := Session.stop_session_eq hstop
    have hrecorded :
        result.session.pausedDuration = s.pausedDuration + s.pauses.openFor stoppedAt :=
      congrArg Session.pausedDuration hsession
    have hgrows : s.pausedDuration ≤ s.pausedDuration + s.pauses.openFor stoppedAt ↔
        0 ≤ s.pauses.openFor stoppedAt := by omega
    simp only [Session.snapshots, Except.toOption, Option.map_some, Option.toList_some,
      List.cons_append, List.nil_append, List.map_cons, List.map_nil, List.isChain_cons_cons,
      List.isChain_singleton, and_true, hrecorded, hgrows, PauseRecord.nonneg_openFor_iff,
      StreamWatch.closedPauses, List.flatMap_cons, List.flatMap_nil, List.append_nil]

/-- A report records the pause that it closes, and the rest of a course goes on from there. -/
theorem neverShrinks_cons (s : Session) (tick : Tick) (rest : List Tick) (stoppedAt : Timestamp)
    (mode : StopMode) : ∃ reported : Session,
      ((⟨s, tick :: rest, stoppedAt, mode⟩ : Course).NeverShrinks ↔
        s.pausedDuration ≤ reported.pausedDuration ∧
          (⟨reported, rest, stoppedAt, mode⟩ : Course).NeverShrinks) ∧
      ((∀ pause ∈ (⟨s, tick :: rest, stoppedAt, mode⟩ : Course).closedPauses, pause.Forward) ↔
        s.pausedDuration ≤ reported.pausedDuration ∧
          ∀ pause ∈ (⟨reported, rest, stoppedAt, mode⟩ : Course).closedPauses, pause.Forward) := by
  obtain ⟨reported, hsnapshots, hfollow, hstate, hpauses⟩ := s.snapshots_cons tick rest
  have hrun : (⟨s, tick :: rest, stoppedAt, mode⟩ : Course).run =
      (⟨reported, rest, stoppedAt, mode⟩ : Course).run := by
    simp only [run, hfollow]
  refine ⟨reported, ?_, ?_⟩
  · obtain ⟨later, hlater⟩ := exists_snapshots_eq ⟨reported, rest, stoppedAt, mode⟩
    have hsplit : (⟨s, tick :: rest, stoppedAt, mode⟩ : Course).snapshots =
        s :: (⟨reported, rest, stoppedAt, mode⟩ : Course).snapshots := by
      simp only [snapshots, hsnapshots, hrun, List.cons_append]
    unfold NeverShrinks
    rw [hsplit, hlater, List.map_cons, List.map_cons, List.isChain_cons_cons]
  · have hpaused : reported.pausedDuration =
        (s.pauses.advance (some s.state) (some tick.state) tick.time).pausedDuration :=
      congrArg PauseRecord.pausedDuration hpauses
    unfold Course.closedPauses stopTime?
    rw [hrun, hpauses, hstate, hpaused]
    exact forward_closedPauses_cons s.pauses s.state _ tick rest

/-- What is recorded never shrinks in a course exactly if the pauses that it closes run forward. -/
theorem neverShrinks_iff_forward (c : Course) :
    c.NeverShrinks ↔ ∀ pause ∈ c.closedPauses, pause.Forward := by
  obtain ⟨s, ticks, stoppedAt, mode⟩ := c
  induction ticks generalizing s with
  | nil => exact neverShrinks_nil s stoppedAt mode
  | cons tick rest ih =>
    obtain ⟨reported, hshrinks, hforward⟩ := neverShrinks_cons s tick rest stoppedAt mode
    rw [hshrinks, hforward, ih reported]

end Course

/-- A pause that began by now runs forward if it is closed later. -/
theorem forward_closedAt {began : Option Int} {now later : Int}
    (hbegan : ∀ start ∈ began, start ≤ now) (hlater : now ≤ later) :
    ∀ pause ∈ closedAt began later, pause.Forward := by
  intro pause hpause
  obtain ⟨start, hstart, rfl⟩ := Option.map_eq_some_iff.mp (Option.mem_toList.mp hpause)
  exact Int.le_trans (hbegan start hstart) hlater

/-- Where the times are in order, and a pause that is open at first began by then, all pauses that
    are closed run forward. -/
theorem forward_of_inOrder {began : Option Int} {now stoppedAt : Timestamp} (state : PlaybackState)
    {stop : Option Timestamp} (hstop : ∀ t ∈ stop, t = stoppedAt) {ticks : List Tick}
    (hbegan : ∀ start ∈ began, start ≤ now.instant)
    (horder : Timestamp.InOrder (now :: (ticks.map Tick.time ++ [stoppedAt]))) :
    ∀ pause ∈ closedPauses began state stop ticks, pause.Forward := by
  -- What the induction keeps is that the open pause began by the time of the last report.
  induction ticks generalizing began now state with
  | nil =>
    obtain ⟨hnow, _⟩ := List.isChain_cons_cons.mp horder
    intro pause hpause
    obtain ⟨t, ht, hpause⟩ := List.mem_flatMap.mp hpause
    obtain rfl := hstop t (Option.mem_toList.mp ht)
    exact forward_closedAt hbegan hnow pause hpause
  | cons tick rest ih =>
    obtain ⟨hnow, hrest⟩ := List.isChain_cons_cons.mp horder
    obtain ⟨hclosed, _⟩ | ⟨hclosed, _⟩ | ⟨hclosed, _⟩ :=
      closedPauses_cons_cases began state stop tick rest ⟨none, 0⟩
    · rw [hclosed]
      exact ih tick.state
        (by simp only [Option.mem_def, Option.some.injEq, forall_eq', Int.le_refl]) hrest
    · rw [hclosed, List.forall_mem_append]
      exact ⟨forward_closedAt hbegan hnow, ih tick.state nofun hrest⟩
    · rw [hclosed]
      exact ih tick.state (fun start hstart => Int.le_trans (hbegan start hstart) hnow) hrest

namespace Course

/-- **When the recorded pause grows.**  Every report of a course leaves a session behind, and so
    does the stop unless it fails.

    * What is recorded as paused never shrinks from one of these sessions to the next exactly if no
      pause is closed before it began.
    * Then it is never negative, if it was not at first.
    * No pause is closed before it began if the times are in order. -/
theorem neverShrinks_iff (c : Course) :
    (c.session.snapshots c.ticks).length = c.ticks.length + 1 ∧
    (c.NeverShrinks ↔ ∀ pause ∈ c.closedPauses, pause.Forward) ∧
    (c.NeverShrinks → 0 ≤ c.session.pausedDuration →
      ∀ s ∈ c.snapshots, 0 ≤ s.pausedDuration) ∧
    ∀ since : Timestamp, (∀ start ∈ c.session.pauses.openSince, start ≤ since.instant) →
      Timestamp.InOrder (since :: (c.ticks.map Tick.time ++ [c.stoppedAt])) → c.NeverShrinks := by
  refine ⟨c.session.length_snapshots c.ticks, c.neverShrinks_iff_forward,
    fun hgrows hfirst s hs => ?_, fun since hbegan horder => c.neverShrinks_iff_forward.mpr ?_⟩
  · obtain ⟨later, hlater⟩ := c.exists_snapshots_eq
    unfold NeverShrinks at hgrows
    rw [hlater, List.map_cons] at hgrows
    rw [hlater] at hs
    obtain rfl | hs := List.mem_cons.mp hs
    · exact hfirst
    · exact Int.le_trans hfirst (hgrows.rel_cons (List.mem_map_of_mem hs))
  · refine forward_of_inOrder c.session.state (fun t ht => ?_) hbegan horder
    obtain ⟨_, _, rfl⟩ := Option.map_eq_some_iff.mp ht
    rfl

/-- A course of two pauses, of which the second closes at the stop.  The clock of the player goes
    back by a minute while the film goes on. -/
def clockSetBack : Course where
  session := Session.starting "session" "user" "server" (.universal 0)
  ticks :=
    [⟨.paused, ⟨10 * Duration.minute, some 60⟩, none⟩,
      ⟨.playing, ⟨20 * Duration.minute, some 0⟩, some 1⟩,
      ⟨.buffering, ⟨19 * Duration.minute, none⟩, none⟩,
      ⟨.playing, ⟨21 * Duration.minute, none⟩, none⟩,
      ⟨.paused, ⟨30 * Duration.minute, none⟩, none⟩]
  stoppedAt := ⟨40 * Duration.minute, some 0⟩
  mode := .standard

/-- Both pauses of that course run forward, so that what is recorded never shrinks. -/
theorem neverShrinks_clockSetBack :
    clockSetBack.closedPauses = [⟨10 * Duration.minute, 20 * Duration.minute⟩,
      ⟨30 * Duration.minute, 40 * Duration.minute⟩] ∧
    clockSetBack.NeverShrinks ∧ (∀ s ∈ clockSetBack.snapshots, 0 ≤ s.pausedDuration) ∧
    (({ clockSetBack with ticks := [] } : Course).NeverShrinks) := by
  have hclosed : clockSetBack.closedPauses = [⟨10 * Duration.minute, 20 * Duration.minute⟩,
      ⟨30 * Duration.minute, 40 * Duration.minute⟩] := by decide +kernel
  obtain ⟨_, hiff, hnonneg, _⟩ := neverShrinks_iff clockSetBack
  have hgrows : clockSetBack.NeverShrinks := hiff.mpr (by rw [hclosed]; decide)
  obtain ⟨_, _, _, hinOrder⟩ := neverShrinks_iff { clockSetBack with ticks := [] }
  exact ⟨hclosed, hgrows, hnonneg hgrows (by decide),
    hinOrder ⟨0, none⟩ nofun (by unfold Timestamp.InOrder; decide)⟩

/-- A course with a pause that begins after ten minutes and is closed after five. -/
def closedEarly : Course where
  session := Session.starting "session" "user" "server" (.universal 0)
  ticks :=
    [⟨.paused, ⟨10 * Duration.minute, some 0⟩, none⟩,
      ⟨.playing, ⟨5 * Duration.minute, some 0⟩, none⟩]
  stoppedAt := ⟨60 * Duration.minute, some 0⟩
  mode := .standard

/-- Such a session is accepted.  The pause is recorded as five minutes less than none, and stays
    so. -/
theorem not_neverShrinks_closedEarly :
    Session.ofGiven (.record [("id", .text "session"), ("server_user_id", .text "user"),
      ("server_id", .text "server"), ("started_at", .text "0001-01-01T00:00:00Z")]) =
        .accepted closedEarly.session ∧
    closedEarly.snapshots.map Session.pausedDuration = [0, 0, -300000, -300000] ∧
    ¬ closedEarly.NeverShrinks := by
  have hrecorded : closedEarly.snapshots.map Session.pausedDuration = [0, 0, -300000, -300000] := by
    decide +kernel
  refine ⟨rfl, hrecorded, ?_⟩
  unfold NeverShrinks
  rw [hrecorded]
  decide

end Course

end StreamWatch
