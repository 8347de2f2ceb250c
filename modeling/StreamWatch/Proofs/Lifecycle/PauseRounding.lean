import Mathlib.Algebra.Ring.Int.Defs
import Mathlib.Data.List.Destutter
import StreamWatch.Proofs.Lifecycle.PauseGrowth

namespace StreamWatch

/-!
# What the rounding of pauses loses

Every pause is rounded down to milliseconds on its own, when it closes.  A report that repeats the
state paused does not close one, so that what is lost depends on how many pauses there are and not
on how many reports:

* `Course.exactPausedTime`, `Course.pauseCount` — the time spent paused to the microsecond, and the
  number of pauses, both read off the states and the times of a course alone;
* `pauseLengths` — the lengths of these pauses, one by one: `sum_pauseLengths` and
  `length_pauseLengths` say that they are the same pauses;
* `Session.follow_rounded` — the invariant of the reports: every pause is recorded rounded down;
* `Course.pauses_rounded` — less than a millisecond is lost with each pause.
-/

/-! ### Rounding each of some lengths -/

/-- What rounding a length down to milliseconds takes off it is less than a millisecond. -/
theorem Duration.milliseconds_bounds (length : Int) :
    0 ≤ length - milliseconds length * millisecond ∧
      length - milliseconds length * millisecond ≤ millisecond - 1 := by
  simp only [milliseconds, millisecond]
  omega

/-- What rounding down each of some lengths takes off their sum is at most as often as much. -/
theorem Duration.sum_milliseconds_bounds (lengths : List Int) :
    0 ≤ lengths.sum - (lengths.map milliseconds).sum * millisecond ∧
      lengths.sum - (lengths.map milliseconds).sum * millisecond ≤
        lengths.length * (millisecond - 1) := by
  induction lengths with
  | nil => exact ⟨by decide, by decide⟩
  | cons length rest ih =>
    obtain ⟨hlow, hhigh⟩ := milliseconds_bounds length
    obtain ⟨hlows, hhighs⟩ := ih
    simp only [List.map_cons, List.sum_cons, List.length_cons]
    simp only [milliseconds, millisecond] at *
    constructor <;> omega

/-! ### The pauses of a course -/

/-- The microseconds from each time to the one that follows it. -/
def stretches (since : Timestamp) : List Timestamp → List Int
  | [] => []
  | next :: rest => next.passedSince since :: stretches next rest

/-- The start of the pause that is open after a report, if one is: one that was open goes on while
    reports repeat the state paused. -/
def openAfter (began : Option Timestamp) (tick : Tick) : Option Timestamp :=
  if tick.state = .paused then some (began.getD tick.time) else none

/-- The length of the pause that closes with a report, if one does. -/
def closedBy (began : Option Timestamp) (tick : Tick) : List Int :=
  if tick.state = .paused then [] else began.toList.map tick.time.passedSince

/-- The lengths of the pauses up to a stop, in microseconds.  One may be open at first. -/
def pauseLengths (stoppedAt : Timestamp) (began : Option Timestamp) : List Tick → List Int
  | [] => began.toList.map stoppedAt.passedSince
  | tick :: rest => closedBy began tick ++ pauseLengths stoppedAt (openAfter began tick) rest

namespace Course
open PlaybackState

/-- The microseconds that a course spends paused. -/
def exactPausedTime (c : Course) : Int :=
  timeWhere (pausedStretches (c.session.state :: c.ticks.map Tick.state))
    (stretches c.session.startedAt (c.ticks.map Tick.time ++ [c.stoppedAt]))

/-- The number of pauses of a course: how often it is paused, where a state that is repeated counts
    once. -/
def pauseCount (c : Course) : Nat :=
  ((c.session.state :: c.ticks.map Tick.state).destutter (· ≠ ·)).count .paused

end Course

section PauseLengths
open PlaybackState

variable {stoppedAt : Timestamp} {began : Option Timestamp} {state : PlaybackState}

/-- A pause is open after a report exactly if that one reports the state paused. -/
theorem isSome_openAfter (began : Option Timestamp) (tick : Tick) :
    (openAfter began tick).isSome = decide (tick.state = .paused) := by
  unfold openAfter
  by_cases htick : tick.state = .paused
  · rw [if_pos htick, decide_eq_true htick]
    rfl
  · rw [if_neg htick, decide_eq_false htick]
    rfl

/-- What an open pause has taken by a report either closes with it or stays open. -/
theorem sum_closedBy (began : Option Timestamp) (tick : Tick) :
    (closedBy began tick).sum + ((openAfter began tick).toList.map tick.time.passedSince).sum =
      (began.toList.map tick.time.passedSince).sum := by
  unfold closedBy openAfter
  by_cases htick : tick.state = .paused
  · simp only [if_pos htick]
    cases began with
    | none =>
      -- A pause that begins with the report has taken no time so far.
      show 0 + (tick.time.instant - tick.time.instant + 0) = (0 : Int)
      omega
    | some began => exact Int.zero_add _
  · simp only [if_neg htick]
    exact Int.add_zero _

/-- By a later time an open pause has taken the time in between, too. -/
theorem sum_openPause (hopen : began.isSome = decide (state = .paused)) (now later : Timestamp) :
    (began.toList.map later.passedSince).sum = (began.toList.map now.passedSince).sum +
      if decide (state = .paused) then later.passedSince now else 0 := by
  rw [← hopen]
  cases began with
  | none => rfl
  | some began =>
    show later.instant - began.instant + 0 =
      now.instant - began.instant + 0 + (later.instant - now.instant)
    omega

/-- Together the pauses take the time that is spent paused, and what one that is open has taken by
    now. -/
theorem sum_pauseLengths (ticks : List Tick) (hopen : began.isSome = decide (state = .paused))
    (now : Timestamp) :
    (pauseLengths stoppedAt began ticks).sum = (began.toList.map now.passedSince).sum +
      timeWhere (pausedStretches (state :: ticks.map Tick.state))
        (stretches now (ticks.map Tick.time ++ [stoppedAt])) := by
  induction ticks generalizing began state now with
  | nil =>
    have hlength := sum_openPause hopen now stoppedAt
    simpa only [pauseLengths, pausedStretches, stretches, List.map_nil, List.nil_append,
      List.map_cons, timeWhere_cons, timeWhere, Int.add_zero] using hlength
  | cons tick rest ih =>
    have hpaused : pausedStretches (state :: (tick :: rest).map Tick.state) =
        decide (state = .paused) :: pausedStretches (tick.state :: rest.map Tick.state) := rfl
    rw [pauseLengths, List.sum_append, ih (isSome_openAfter began tick) tick.time, ← Int.add_assoc,
      sum_closedBy, sum_openPause hopen now tick.time, hpaused, List.map_cons, List.cons_append,
      stretches, timeWhere_cons, Int.add_assoc]

/-- A pause closes with a report exactly if this one changes the state from paused to another. -/
theorem length_closedBy (hopen : began.isSome = decide (state = .paused)) (tick : Tick) :
    (closedBy began tick).length = if state = .paused ∧ state ≠ tick.state then 1 else 0 := by
  unfold closedBy
  by_cases htick : tick.state = .paused
  · rw [if_pos htick, if_neg fun h => h.2 (h.1.trans htick.symm)]
    rfl
  · rw [if_neg htick, List.length_map, Option.length_toList, hopen]
    simp only [decide_eq_true_eq]
    refine if_congr ⟨fun h => ⟨h, fun hsame => htick (hsame ▸ h)⟩, fun h => h.1⟩ rfl rfl

/-- There are as many lengths as pauses. -/
theorem length_pauseLengths (ticks : List Tick) (hopen : began.isSome = decide (state = .paused)) :
    (pauseLengths stoppedAt began ticks).length =
      ((state :: ticks.map Tick.state).destutter (· ≠ ·)).count .paused := by
  rw [List.destutter_cons']
  induction ticks generalizing began state with
  | nil =>
    rw [pauseLengths, List.length_map, Option.length_toList, hopen, List.map_nil,
      List.destutter'_nil, List.count_singleton]
    simp only [decide_eq_true_eq, beq_iff_eq]
  | cons tick rest ih =>
    rw [pauseLengths, List.length_append, length_closedBy hopen, ih (isSome_openAfter began tick),
      List.map_cons]
    by_cases hsame : state = tick.state
    · rw [if_neg fun h => h.2 hsame, Nat.zero_add, hsame,
        List.destutter'_cons_neg _ (not_not_intro rfl)]
    · rw [List.destutter'_cons_pos _ hsame, List.count_cons, Nat.add_comm]
      simp only [beq_iff_eq, ne_eq, hsame, not_false_eq_true, and_true]

end PauseLengths

namespace Session

/-- Is a session playing, or paused if a pause is said to be open, which began when it is said? -/
structure PausedSince (s : Session) (began : Option Timestamp) : Prop where
  state : s.state = if began.isSome then .paused else .playing
  began : s.pauses.openSince = began.map Timestamp.instant

/-- The milliseconds of an open pause are its length rounded down. -/
theorem PausedSince.openFor_eq {s : Session} {began : Option Timestamp} (h : s.PausedSince began)
    (now : Timestamp) :
    s.pauses.openFor now = ((began.toList.map now.passedSince).map Duration.milliseconds).sum := by
  have hbegan := h.began
  unfold PauseRecord.openSince at hbegan
  unfold PauseRecord.openFor
  cases began with
  | none =>
    rw [Option.map_eq_none_iff.mp hbegan]
    rfl
  | some start =>
    obtain ⟨start', hstart', hsame⟩ := Option.map_eq_some_iff.mp hbegan
    have hlength : now.passedSince start' = now.passedSince start :=
      congrArg (fun instant => now.instant - instant) hsame
    rw [hstart']
    show (now.passedSince start').milliseconds = (now.passedSince start).milliseconds + 0
    rw [hlength, Int.add_zero]

/-- **One report** closes a pause or leaves it open, and what it closes is recorded rounded down. -/
theorem PausedSince.report {s reported : Session} {began : Option Timestamp} {tick : Tick}
    (h : s.PausedSince began) (htick : tick.state = .playing ∨ tick.state = .paused)
    (hstate : reported.state = tick.state)
    (hpauses : reported.pauses = s.pauses.advance (some s.state) (some tick.state) tick.time) :
    reported.PausedSince (openAfter began tick) ∧
      reported.pausedDuration =
        s.pausedDuration + ((closedBy began tick).map Duration.milliseconds).sum := by
  have hlength := h.openFor_eq tick.time
  obtain ⟨hbefore, hbegan⟩ := h
  rw [hbefore] at hpauses
  rcases htick with htick | htick
  · have hopen : openAfter began tick = none := if_neg (by rw [htick]; decide)
    have hclosed : closedBy began tick = began.toList.map tick.time.passedSince :=
      if_neg (by rw [htick]; decide)
    rw [htick] at hpauses hstate
    have hopened := congrArg PauseRecord.lastPausedAt hpauses
    have hrecorded := congrArg PauseRecord.pausedDuration hpauses
    rw [hopen, hclosed, ← hlength]
    cases began with
    | none =>
      -- It goes on playing, with no pause open that could take any time.
      refine ⟨⟨hstate, (congrArg PauseRecord.openSince hpauses).trans hbegan⟩, hrecorded.trans ?_⟩
      rw [hlength]
      exact (Int.add_zero _).symm
    | some start => exact ⟨⟨hstate, congrArg _ hopened⟩, hrecorded⟩
  · have hopen : openAfter began tick = some (began.getD tick.time) := if_pos htick
    have hclosed : closedBy began tick = [] := if_pos htick
    rw [htick] at hpauses hstate
    have hopened := congrArg PauseRecord.lastPausedAt hpauses
    have hrecorded := congrArg PauseRecord.pausedDuration hpauses
    rw [hopen, hclosed]
    cases began with
    | none =>
      -- The pause begins with the report.
      exact ⟨⟨hstate, (congrArg _ hopened).trans rfl⟩, hrecorded.trans (Int.add_zero _).symm⟩
    | some start =>
      -- It stays paused, and the open pause keeps its start.
      exact ⟨⟨hstate, (congrArg PauseRecord.openSince hpauses).trans hbegan⟩,
        hrecorded.trans (Int.add_zero _).symm⟩

/-- **A list of reports** and a stop record every pause, each one rounded down. -/
theorem follow_rounded (s : Session) (ticks : List Tick) {began : Option Timestamp}
    (h : s.PausedSince began) (stoppedAt : Timestamp)
    (hticks : ∀ tick ∈ ticks, tick.state = .playing ∨ tick.state = .paused) :
    ∃ played, s.follow ticks = .ok played ∧
      (played.stopDuration stoppedAt).finalPausedDuration = s.pausedDuration +
        ((pauseLengths stoppedAt began ticks).map Duration.milliseconds).sum := by
  induction ticks generalizing s began with
  | nil =>
    refine ⟨s, rfl, ?_⟩
    show s.pausedDuration + s.pauses.openFor stoppedAt = _
    rw [h.openFor_eq]
    rfl
  | cons tick rest ih =>
    obtain ⟨reported, hfollow, _, hstate, hpauses⟩ := s.follow_cons tick rest
    obtain ⟨hsince, hclosed⟩ := h.report (hticks tick List.mem_cons_self) hstate hpauses
    obtain ⟨played, hplayed, hrecorded⟩ := ih reported hsince fun later hlater =>
      hticks later (List.mem_cons_of_mem _ hlater)
    refine ⟨played, hfollow.trans hplayed, ?_⟩
    rw [hrecorded, hclosed, pauseLengths, List.map_append, List.sum_append, Int.add_assoc]

end Session

namespace Course

/-- **Less than a millisecond is lost with each pause**, in every regular course that starts with
    playing and whose reports say that it is playing or paused, however often they repeat it.  What
    is recorded is never more than what was spent paused, and is exactly that if it never paused. -/
theorem pauses_rounded (c : Course) (h : c.Regular) (hplaying : c.session.state = .playing)
    (hticks : ∀ tick ∈ c.ticks, tick.state = .playing ∨ tick.state = .paused) :
    ∃ result, c.run = .ok result ∧
      let lost := c.exactPausedTime - result.session.pausedDuration * Duration.millisecond
      0 ≤ lost ∧ (c.pauseCount = 0 → lost = 0) ∧
        (0 < c.pauseCount → lost < c.pauseCount * Duration.millisecond) := by
  have hopen : (none : Option Timestamp).isSome = decide (c.session.state = .paused) := by
    rw [hplaying]
    rfl
  have hsince : c.session.PausedSince none := ⟨hplaying, congrArg _ h.notOpen⟩
  obtain ⟨played, result, hfollow, hrun, _, _, _, _, hrecorded⟩ := h.run_eq_ok
  obtain ⟨played', hfollow', hrounded⟩ :=
    c.session.follow_rounded c.ticks hsince c.stoppedAt hticks
  -- Both lemmas speak of the session that the same reports leave.
  obtain rfl : played' = played := Except.ok.inj (hfollow'.symm.trans hfollow)
  rw [hrounded, h.notPaused, Int.zero_add] at hrecorded
  have hexact : c.exactPausedTime = (pauseLengths c.stoppedAt none c.ticks).sum := by
    rw [sum_pauseLengths c.ticks hopen c.session.startedAt]
    exact (Int.zero_add _).symm
  have hcount : c.pauseCount = (pauseLengths c.stoppedAt none c.ticks).length :=
    (length_pauseLengths c.ticks hopen).symm
  obtain ⟨hlow, hhigh⟩ := Duration.sum_milliseconds_bounds (pauseLengths c.stoppedAt none c.ticks)
  rw [← hexact, ← hrecorded] at hlow hhigh
  rw [← hcount] at hhigh
  refine ⟨result, hrun, hlow, fun hnone => ?_, fun hsome => ?_⟩
  · rw [hnone, Int.natCast_zero, Int.zero_mul] at hhigh
    exact Int.le_antisymm hhigh hlow
  · have hsmaller : (c.pauseCount : Int) * (Duration.millisecond - 1) <
        c.pauseCount * Duration.millisecond := by
      simp only [Duration.millisecond]
      omega
    exact Int.lt_of_le_of_lt hhigh hsmaller

/-- A course with two pauses that take almost two milliseconds each.  The first is reported three
    times, and the second is open at the stop. -/
def shortPauses : Course where
  session := Session.starting "session" "user" "server" (.universal 0)
  ticks :=
    [⟨.paused, ⟨500, some 0⟩, none⟩, ⟨.paused, ⟨1400, some 60⟩, some 7⟩,
      ⟨.paused, ⟨2300, none⟩, none⟩, ⟨.playing, ⟨2499, some 0⟩, none⟩,
      ⟨.playing, ⟨3000, some 0⟩, none⟩, ⟨.paused, ⟨4001, some 0⟩, none⟩]
  stoppedAt := ⟨6000, some 0⟩
  mode := .standard

/-- Of its two pauses that course loses as much as rounding can take. -/
theorem pauses_rounded_shortPauses :
    shortPauses.pauseCount = 2 ∧ shortPauses.exactPausedTime = 3998 ∧
      ∃ result, shortPauses.run = .ok result ∧ result.session.pausedDuration = 2 ∧
        shortPauses.exactPausedTime - result.session.pausedDuration * Duration.millisecond <
          shortPauses.pauseCount * Duration.millisecond := by
  have hregular : shortPauses.Regular :=
    { notOpen := rfl
      notPaused := rfl
      inOrder := by unfold Timestamp.InOrder; decide
      started := ⟨by decide, by decide⟩
      stopped := ⟨by decide, by decide⟩
      threshold := nofun }
  have hticks : ∀ tick ∈ shortPauses.ticks, tick.state = .playing ∨ tick.state = .paused := by
    decide
  obtain ⟨result, hrun, _, _, hless⟩ := pauses_rounded shortPauses hregular rfl hticks
  obtain ⟨result', hrun', hpaused⟩ : ∃ result, shortPauses.run = .ok result ∧
      result.session.pausedDuration = 2 := ⟨_, rfl, rfl⟩
  obtain rfl : result' = result := Except.ok.inj (hrun'.symm.trans hrun)
  exact ⟨by decide, by decide, result', hrun, hpaused, hless (by decide)⟩

end Course

end StreamWatch
