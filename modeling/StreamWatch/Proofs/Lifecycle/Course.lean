import Mathlib.Data.List.Chain
import StreamWatch.Proofs.Lifecycle.Moments
import StreamWatch.Proofs.Number.Quotient

namespace StreamWatch

/-!
# The course of a session

A session is heard of again and again, and then it stops.  This file says what such a course
is and that it always comes to its end:

* `Tick`, `Session.follow` — reports of a state, maybe with a position, and a session after
  a list of them.  None of them can fail (`Session.advance_tick`);
* `Course`, `Course.run` — a session, the reports on it and its stop;
* `Course.Regular` — a course that starts without a recorded pause, whose times are in order
  and could all be shown by a clock;
* `Session.stop_eq_ok_of_lt` — a stop never fails, as long as the time watched has at most 1000
  binary places and the completion threshold is a number; `Session.stop_eq_ok` for 64 of them.
-/

/-! ### Times that a clock can show -/

/-- Between two times that can be shown lie fewer milliseconds than 64 binary places hold. -/
theorem Timestamp.Shown.millisecondsSince_lt {t start : Timestamp} (ht : t.Shown)
    (hstart : start.Shown) : t.millisecondsSince start < (twoPow 64 : Nat) := by
  obtain ⟨hclock, hoffset⟩ := ht
  obtain ⟨hclock', hoffset'⟩ := hstart
  have hdays : Date.dayCount = 3652059 := by decide
  have hpower : twoPow 64 = 18446744073709551616 := by decide
  simp only [Timestamp.clockInRange, Timestamp.localClock, hdays, Duration.minute, Duration.day,
    Duration.second, decide_eq_true_eq] at hclock hclock'
  rw [Timestamp.millisecondsSince_eq, hpower]
  omega

/-- One time that can be shown is not that much earlier than another one either. -/
theorem Timestamp.Shown.neg_le_millisecondsSince {t start : Timestamp} (ht : t.Shown)
    (hstart : start.Shown) : -((twoPow 64 : Nat) : Int) ≤ t.millisecondsSince start := by
  have hswapped := hstart.millisecondsSince_lt ht
  rw [Timestamp.millisecondsSince_eq] at hswapped ⊢
  omega

/-- Times that come one after the other, or at once. -/
def Timestamp.InOrder : List Timestamp → Prop :=
  List.IsChain fun earlier later => earlier.instant ≤ later.instant

/-! ### Reports -/

/-- A report of a state at a time, maybe with a position in milliseconds. -/
structure Tick where
  state : PlaybackState
  time : Timestamp
  position : Option Int

namespace Session

/-- A session after a list of reports. -/
def follow (s : Session) : List Tick → Except Fault Session
  | [] => .ok s
  | tick :: rest =>
    match s.advance tick.state tick.time (Datum.ofOption .int tick.position) with
    | .ok reported => reported.follow rest
    | .error fault => .error fault

/-- A position that is an integer can always be noted, and nothing else changes with it. -/
theorem movedTo_int (s : Session) (position : Option Int) :
    ∃ p, s.movedTo (Datum.ofOption .int position) = .ok { s with progress := p } := by
  cases position with
  | none => exact ⟨s.progress, rfl⟩
  | some n =>
    simp only [Datum.ofOption, movedTo, clampReported]
    cases s.totalDuration with
    | none => exact ⟨_, rfl⟩
    | some length =>
      -- A length of zero counts as unknown, and then nothing is compared.
      by_cases hzero : length = 0
      · exact ⟨.int n, by simp only [hzero, if_true, Except.map]⟩
      · have hstands := Datum.stands_ofNumber .less (.int length) (.int n)
        simp only [Datum.ofNumber] at hstands
        simp only [hzero, if_false, hstands]
        exact ⟨_, rfl⟩

/-- A report cannot fail.  But for the position it does what hearing of the state does. -/
theorem advance_tick (s : Session) (tick : Tick) :
    ∃ p, s.advance tick.state tick.time (Datum.ofOption .int tick.position) =
      .ok { s.heard tick.state tick.time with progress := p } := by
  rw [advance_eq]
  exact movedTo_int _ _

/-- The first of a list of reports leaves its state behind, and its change of the pauses. -/
theorem follow_cons (s : Session) (tick : Tick) (rest : List Tick) :
    ∃ reported : Session, s.follow (tick :: rest) = reported.follow rest ∧
      reported.startedAt = s.startedAt ∧ reported.state = tick.state ∧
      reported.pauses = s.pauses.advance (some s.state) (some tick.state) tick.time := by
  obtain ⟨p, hp⟩ := s.advance_tick tick
  refine ⟨{ s.heard tick.state tick.time with progress := p }, ?_, rfl, rfl, rfl⟩
  simp only [follow, hp]

end Session

/-! ### Stopping -/

/-- Is the completion threshold of a stop a number, if one is given? -/
def StopMode.HasNumber (mode : StopMode) : Prop :=
  ∀ threshold, mode.watchThreshold = some threshold → threshold.count?.isSome

/-- A double stands in a relation to whatever counts as a number. -/
theorem Datum.stands_real (relation : OrderRelation) (x : Float) {d : Datum}
    (h : d.count?.isSome) : ∃ holds, (Datum.real x).stands relation d = .ok holds := by
  cases d with
  | bool b => exact ⟨_, by simp only [Datum.stands, Datum.count?]; rfl⟩
  | int n => exact ⟨_, by simp only [Datum.stands, Datum.count?]; rfl⟩
  | real y => exact ⟨_, by simp only [Datum.stands, Datum.count?]; rfl⟩
  | null | text _ | list _ | record _ => simp [Datum.count?] at h

/-- Zero is the integer that counts as zero. -/
theorem Number.ne_zero_of_nonzero {n : Int} (h : (Number.int n).nonzero = true) : n ≠ 0 := by
  rintro rfl
  exact absurd h (by decide)

/-- Whether an item was watched can be decided for every length of at most 1000 binary places. -/
theorem watchCompleted_eq_ok {duration : Int} {places : Nat} (hplaces : places ≤ 1000)
    (hduration : duration.natAbs < twoPow places) (total : Option Int) {threshold : Datum}
    (h : threshold.count?.isSome) :
    ∃ watched, watchCompleted (some (.int duration)) (total.map .int) threshold =
      .ok watched := by
  cases total with
  | none => exact ⟨false, rfl⟩
  | some length =>
    simp only [Option.map_some, watchCompleted]
    -- A share is only worked out where neither length is zero.
    by_cases hboth : ((Number.int duration).nonzero && (Number.int length).nonzero) = true
    · simp only [hboth, if_true]
      have hlength : length ≠ 0 :=
        Number.ne_zero_of_nonzero (Bool.and_eq_true_iff.mp hboth).2
      obtain ⟨part, hpart⟩ := Option.isSome_iff_exists.mp 
        (quotient?_isSome hplaces hlength hduration)
      obtain ⟨holds, hholds⟩ := Datum.stands_real .atLeast part h
      exact ⟨holds, by simp only [playedPart, hpart]; exact hholds⟩
    · simp only [hboth]
      exact ⟨false, rfl⟩

namespace Session

/-- A stop never fails, as long as the time watched has at most 1000 binary places.  Its result
    holds the two lengths of time that were decided. -/
theorem stop_eq_ok_of_lt (s : Session) (stoppedAt : Timestamp) {mode : StopMode} {places : Nat}
    (hplaces : places ≤ 1000) (hmode : mode.HasNumber)
    (h : (s.stopDuration stoppedAt).duration.natAbs < twoPow places) :
    ∃ result, s.stop stoppedAt mode = .ok result ∧
      result.duration = (s.stopDuration stoppedAt).duration ∧
      result.session.duration = some (s.stopDuration stoppedAt).duration ∧
      result.session.pausedDuration = (s.stopDuration stoppedAt).finalPausedDuration := by
  obtain ⟨watched, hwatched⟩ :
      ∃ watched, s.watchedAfter mode (s.stopDuration stoppedAt).duration = .ok watched := by
    unfold watchedAfter
    split
    · exact ⟨s.watched, rfl⟩
    · apply watchCompleted_eq_ok hplaces h
      cases hthreshold : mode.watchThreshold with
      | none => rfl
      | some threshold => exact hmode threshold hthreshold
  rw [stop_eq_map, hwatched]
  exact ⟨_, rfl, rfl, rfl, rfl⟩

/-- A stop never fails, as long as the time watched has 64 binary places. -/
theorem stop_eq_ok (s : Session) (stoppedAt : Timestamp) {mode : StopMode}
    (hmode : mode.HasNumber) (h : (s.stopDuration stoppedAt).duration.natAbs < twoPow 64) :
    ∃ result, s.stop stoppedAt mode = .ok result ∧
      result.duration = (s.stopDuration stoppedAt).duration ∧
      result.session.duration = some (s.stopDuration stoppedAt).duration ∧
      result.session.pausedDuration = (s.stopDuration stoppedAt).finalPausedDuration :=
  s.stop_eq_ok_of_lt stoppedAt (by decide : 64 ≤ 1000) hmode h

end Session

/-! ### Courses -/

/-- A session, the reports on it, and its stop. -/
structure Course where
  session : Session
  ticks : List Tick
  stoppedAt : Timestamp
  mode : StopMode

namespace Course

/-- What a course comes to. -/
def run (c : Course) : Except Fault StopResult :=
  match c.session.follow c.ticks with
  | .ok played => played.stop c.stoppedAt c.mode
  | .error fault => .error fault

/-- The times of a course, from the start of the session to its stop. -/
def times (c : Course) : List Timestamp :=
  c.session.startedAt :: (c.ticks.map Tick.time ++ [c.stoppedAt])

/-- The milliseconds from the start of the session to its stop. -/
def elapsed (c : Course) : Int := c.stoppedAt.millisecondsSince c.session.startedAt

/-- A course that starts without a recorded pause, whose times are in order and can be
    shown. -/
structure Regular (c : Course) : Prop where
  notOpen : c.session.lastPausedAt = none
  notPaused : c.session.pausedDuration = 0
  inOrder : Timestamp.InOrder c.times
  started : c.session.startedAt.Shown
  stopped : c.stoppedAt.Shown
  threshold : c.mode.HasNumber

end Course

end StreamWatch
