import StreamWatch.Proofs.Lifecycle.WatchTime

namespace StreamWatch

/-!
# The time paused and the time recorded as paused

The bookkeeping of pauses hears of two changes of state only: a pause opens from playing to
paused and closes from paused to playing.  This file says which stretches of a course are
recorded as paused because of that, and when they are the stretches that were spent paused:

* `timeWhere`, `stretchLengths` — the stretches between the times of a course, and the time in
  those of them that are marked;
* `recordedStretches` — the stretches that are recorded, read off the states alone.  A pause
  that is left through buffering stays open, and is lost if a new one takes its place;
* `Session.follow_recorded` — the invariant of the reports: they record these stretches;
* `recordedStretches_eq_iff` — these are the stretches in the state paused exactly if every
  change into and out of it comes from playing or goes to it.
-/

/-! ### Stretches of time -/

/-- The milliseconds from each time to the one that follows it. -/
def stretchLengths (since : Timestamp) : List Timestamp → List Int
  | [] => []
  | next :: rest => next.millisecondsSince since :: stretchLengths next rest

/-- The time in the stretches that are marked. -/
def timeWhere : List Bool → List Int → Int
  | true :: marks, length :: lengths => length + timeWhere marks lengths
  | false :: marks, _ :: lengths => timeWhere marks lengths
  | _, _ => 0

/-- The time where the first stretch may be marked. -/
theorem timeWhere_cons (mark : Bool) (marks : List Bool) (length : Int) (lengths : List Int) :
    timeWhere (mark :: marks) (length :: lengths) =
      (if mark then length else 0) + timeWhere marks lengths := by
  cases mark with
  | true => rfl
  | false => simp only [timeWhere, Bool.false_eq_true, if_false, Int.zero_add]

/-- No time passes between a timestamp and itself. -/
@[simp] theorem Timestamp.millisecondsSince_self (t : Timestamp) : t.millisecondsSince t = 0 := by
  rw [Timestamp.millisecondsSince_eq, Int.sub_self, Int.zero_ediv]

/-- Where no time passes there is none, whatever is marked. -/
theorem timeWhere_standstill (marks : List Bool) (t : Timestamp) (count : Nat) :
    timeWhere marks (stretchLengths t (List.replicate count t)) = 0 := by
  induction count generalizing marks with
  | zero => cases marks with
    | nil => rfl
    | cons mark marks => cases mark <;> rfl
  | succ count ih => cases marks with
    | nil => rfl
    | cons mark marks =>
      rw [List.replicate_succ, stretchLengths, timeWhere_cons, ih marks,
        Timestamp.millisecondsSince_self, ite_self]
      rfl

/-- A single stretch of a millisecond, with no time before and after it, shows whether it is
    marked. -/
theorem timeWhere_single (marks : List Bool) {since later : Timestamp}
    (h : later.millisecondsSince since = 1) (before after : Nat) :
    timeWhere marks (stretchLengths since
      (List.replicate before since ++ List.replicate (after + 1) later)) =
      if marks[before]? = some true then 1 else 0 := by
  induction before generalizing marks with
  | zero => cases marks with
    | nil => rfl
    | cons mark marks =>
      rw [List.replicate_zero, List.nil_append, List.replicate_succ, stretchLengths,
        timeWhere_cons, timeWhere_standstill, h]
      cases mark <;> rfl
  | succ before ih => cases marks with
    | nil => rfl
    | cons mark marks =>
      rw [List.replicate_succ, List.cons_append, stretchLengths, timeWhere_cons, ih marks,
        Timestamp.millisecondsSince_self, List.getElem?_cons_succ, ite_self, Int.zero_add]

/-! ### What is recorded -/

namespace PlaybackState

/-- Is a pause open after a change of state, if one was open or was not before? -/
def opensTo (isOpen : Bool) : PlaybackState → PlaybackState → Bool
  | .playing, .paused => true
  | .paused, .playing => false
  | _, _ => isOpen

/-- Is a pause that is open in a state recorded in the end?  It is when it closes, by playing
    on or by the stop, before a new pause takes its place. -/
def keepsPause (state : PlaybackState) : List PlaybackState → Bool
  | [] => true
  | new :: rest =>
    match state, new with
    | .playing, .paused => false
    | .paused, .playing => true
    | _, _ => keepsPause new rest

/-- The stretches that are recorded as paused: in each one a pause is open that is kept. -/
def recordedStretches (isOpen : Bool) (state : PlaybackState) : List PlaybackState → List Bool
  | [] => [isOpen]
  | new :: rest =>
    (isOpen && keepsPause state (new :: rest)) ::
      recordedStretches (opensTo isOpen state new) new rest

/-- The stretches that are spent paused. -/
def pausedStretches (states : List PlaybackState) : List Bool :=
  states.map fun state => decide (state = .paused)

/-- A change into or out of the state paused that neither comes from playing nor goes to it. -/
def Bypasses (previous new : PlaybackState) : Prop :=
  previous ≠ .playing ∧ new ≠ .playing ∧ (previous = .paused ↔ new ≠ .paused)

/-- A change of state opens a pause, or closes one, or is not heard of at all. -/
theorem change_cases (previous new : PlaybackState) :
    (previous = .playing ∧ new = .paused) ∨ (previous = .paused ∧ new = .playing) ∨
    ((∀ isOpen, opensTo isOpen previous new = isOpen) ∧
      (∀ rest, keepsPause previous (new :: rest) = keepsPause new rest) ∧
      ∀ (pauses : PauseRecord) (now : Timestamp),
        pauses.advance (some previous) (some new) now = pauses) := by
  cases previous <;> cases new <;>
    first
      | exact .inl ⟨rfl, rfl⟩
      | exact .inr (.inl ⟨rfl, rfl⟩)
      | exact .inr (.inr ⟨fun _ => rfl, fun _ => rfl, fun _ _ => rfl⟩)

/-- The first of the stretches that are recorded. -/
theorem recordedStretches_head? (isOpen : Bool) (state : PlaybackState)
    (states : List PlaybackState) :
    (recordedStretches isOpen state states).head? = some (isOpen && keepsPause state states) := by
  cases states with
  | nil => simp only [recordedStretches, keepsPause, List.head?_cons, Bool.and_true]
  | cons new rest => rfl

end PlaybackState

/-! ### Reports record these stretches -/

/-- Is a time a whole number of milliseconds away from a start? -/
def Timestamp.WholeFrom (t start : Timestamp) : Prop :=
  (t.instant - start.instant) % Duration.millisecond = 0

namespace PauseRecord
open PlaybackState

variable {pauses : PauseRecord} {start since now : Timestamp}

/-- Does the open pause begin whole milliseconds after a start, if one is open? -/
def WholeFrom (pauses : PauseRecord) (start : Timestamp) : Prop :=
  ∀ began, pauses.lastPausedAt = some began → began.WholeFrom start

/-- What is recorded up to a time and kept in a state and in those that follow it. -/
def recordedAt (pauses : PauseRecord) (state : PlaybackState) (states : List PlaybackState)
    (now : Timestamp) : Int :=
  pauses.pausedDuration + if keepsPause state states then pauses.openFor now else 0

/-- An open pause grows by the time that passes. -/
theorem WholeFrom.openFor_eq (h : pauses.WholeFrom start) (hsince : since.WholeFrom start)
    (hnow : now.WholeFrom start) :
    pauses.openFor now = pauses.openFor since +
      if pauses.lastPausedAt.isSome then now.millisecondsSince since else 0 := by
  unfold openFor
  cases hlast : pauses.lastPausedAt with
  | none => rfl
  | some began =>
    have hbegan := h began hlast
    simp only [Timestamp.WholeFrom, Duration.millisecond] at hbegan hsince hnow
    simp only [Option.isSome_some, if_true, Timestamp.millisecondsSince_eq]
    omega

/-- A change of state leaves a pause open as the two states say. -/
theorem isSome_advance (pauses : PauseRecord) (state new : PlaybackState) (now : Timestamp) :
    (pauses.advance (some state) (some new) now).lastPausedAt.isSome =
      opensTo pauses.lastPausedAt.isSome state new := by
  obtain ⟨rfl, rfl⟩ | ⟨rfl, rfl⟩ | ⟨hopens, _, hadvance⟩ := change_cases state new
  · rfl
  · rfl
  · rw [hadvance, hopens]

/-- A pause that a change of state opens begins at the change, and an open one stays where it
    is. -/
theorem WholeFrom.advance (h : pauses.WholeFrom start) (hnow : now.WholeFrom start)
    (state new : PlaybackState) :
    (pauses.advance (some state) (some new) now).WholeFrom start := by
  intro began hbegan
  obtain ⟨rfl, rfl⟩ | ⟨rfl, rfl⟩ | ⟨_, _, hadvance⟩ := change_cases state new
  · obtain rfl := Option.some.inj hbegan
    exact hnow
  · cases hbegan
  · rw [hadvance] at hbegan
    exact h began hbegan

/-- A change of state records the stretch before it, if a pause is open there that is kept. -/
theorem WholeFrom.recordedAt_advance (h : pauses.WholeFrom start) (hsince : since.WholeFrom start)
    (hnow : now.WholeFrom start) (state new : PlaybackState) (rest : List PlaybackState) :
    (pauses.advance (some state) (some new) now).recordedAt new rest now =
      pauses.recordedAt state (new :: rest) since +
        if pauses.lastPausedAt.isSome && keepsPause state (new :: rest)
        then now.millisecondsSince since else 0 := by
  have hgrown := h.openFor_eq hsince hnow
  obtain ⟨rfl, rfl⟩ | ⟨rfl, rfl⟩ | ⟨_, hkeeps, hadvance⟩ := change_cases state new
  · -- The new pause is empty so far, and one that was left open is lost.
    have hempty : now.millisecondsSince now.assumeUniversal = 0 := now.millisecondsSince_self
    simp only [recordedAt, PauseRecord.advance, openFor, keepsPause, Bool.and_false,
      Bool.false_eq_true, if_false, hempty, ite_self, Int.add_zero]
  · -- The open pause closes, so that its time is among that of the closed ones.
    have hclosed :
        (pauses.advance (some .paused) (some .playing) now).recordedAt .playing rest now =
          pauses.pausedDuration + pauses.openFor now := by
      simp only [recordedAt, PauseRecord.advance, openFor, ite_self, Int.add_zero]
    rw [hclosed, hgrown]
    simp only [recordedAt, keepsPause, if_true, Bool.and_true, Int.add_assoc]
  · -- The pause stays open, but what is kept of it depends on the states that follow.
    rw [hadvance]
    unfold recordedAt
    rw [hkeeps, hgrown]
    cases keepsPause new rest with
    | true => simp only [if_true, Bool.and_true, Int.add_assoc]
    | false => simp only [Bool.false_eq_true, if_false, Bool.and_false, Int.add_zero]

end PauseRecord

namespace Session
open PlaybackState

/-- **The stretches that are recorded.**  What reports whole milliseconds apart and a stop
    record as paused is what was recorded before and is kept, and the time in the stretches
    that `recordedStretches` marks. -/
theorem follow_recorded (s : Session) (ticks : List Tick) {start since stoppedAt : Timestamp}
    (hopen : s.pauses.WholeFrom start) (hsince : since.WholeFrom start)
    (hticks : ∀ tick ∈ ticks, tick.time.WholeFrom start) (hstopped : stoppedAt.WholeFrom start) :
    ∃ played, s.follow ticks = .ok played ∧
      (played.stopDuration stoppedAt).finalPausedDuration =
        s.pauses.recordedAt s.state (ticks.map Tick.state) since +
          timeWhere (recordedStretches s.pauses.lastPausedAt.isSome s.state (ticks.map Tick.state))
            (stretchLengths since (ticks.map Tick.time ++ [stoppedAt])) := by
  induction ticks generalizing s since with
  | nil =>
    refine ⟨s, rfl, ?_⟩
    have hgrown := hopen.openFor_eq hsince hstopped
    have hpaused : s.pauses.pausedDuration = s.pausedDuration := rfl
    simp only [stopDuration, PauseRecord.recordedAt, List.map_nil, List.nil_append, keepsPause,
      if_true, recordedStretches, stretchLengths, timeWhere_cons, timeWhere, hgrown, hpaused,
      Int.add_zero, Int.add_assoc]
  | cons tick rest ih =>
    have htick : tick.time.WholeFrom start := hticks tick List.mem_cons_self
    have hrest : ∀ later ∈ rest, later.time.WholeFrom start := fun later hlater =>
      hticks later (List.mem_cons_of_mem _ hlater)
    obtain ⟨reported, hfollow, _, hstate, hpauses⟩ := s.follow_cons tick rest
    have hreported : reported.pauses.WholeFrom start := by
      rw [hpauses]
      exact hopen.advance htick _ _
    obtain ⟨played, hplayed, hrecorded⟩ := ih reported hreported htick hrest
    refine ⟨played, hfollow.trans hplayed, ?_⟩
    rw [hrecorded, hstate, hpauses, hopen.recordedAt_advance hsince htick,
      PauseRecord.isSome_advance, List.map_cons, List.map_cons, List.cons_append,
      recordedStretches, stretchLengths, timeWhere_cons, Int.add_assoc]

end Session

/-! ### When the recorded stretches are the paused ones -/

namespace PlaybackState

instance (previous new : PlaybackState) : Decidable (previous.Bypasses new) :=
  inferInstanceAs (Decidable (_ ∧ _ ∧ _))

/-- No change of state bypasses playing on the way into or out of a pause. -/
def NoneBypasses (states : List PlaybackState) : Prop :=
  states.IsChain fun previous new => ¬ previous.Bypasses new

/-- Where a change does not bypass, a pause is open after it exactly if the state is paused. -/
theorem opensTo_of_not_bypasses {state new : PlaybackState} (h : ¬ state.Bypasses new) :
    opensTo (decide (state = .paused)) state new = decide (new = .paused) := by
  cases state <;> cases new <;>
    first
      | rfl
      | exact absurd (by decide) h

/-- Every stretch is recorded or not. -/
theorem length_recordedStretches (isOpen : Bool) (state : PlaybackState)
    (states : List PlaybackState) :
    (recordedStretches isOpen state states).length = states.length + 1 := by
  induction states generalizing isOpen state with
  | nil => rfl
  | cons new rest ih => rw [recordedStretches, List.length_cons, ih, List.length_cons]

/-- A pause is kept, if no change bypasses. -/
theorem keepsPause_of_noneBypasses {states : List PlaybackState}
    (h : NoneBypasses (.paused :: states)) : keepsPause .paused states = true := by
  induction states with
  | nil => rfl
  | cons new rest ih =>
    obtain ⟨hchange, hrest⟩ := List.isChain_cons_cons.mp h
    cases new with
    | playing => rfl
    | paused => exact ih hrest
    | stopped => exact absurd (by decide) hchange
    | buffering => exact absurd (by decide) hchange

/-- Around a change that bypasses, the stretches are recorded both or neither. -/
theorem recorded_of_bypasses {state new : PlaybackState} (h : state.Bypasses new) (isOpen : Bool)
    (rest : List PlaybackState) :
    (isOpen && keepsPause state (new :: rest)) =
      (opensTo isOpen state new && keepsPause new rest) := by
  obtain ⟨hstate, hnew, _⟩ := h
  obtain ⟨rfl, rfl⟩ | ⟨rfl, rfl⟩ | ⟨hopens, hkeeps, _⟩ := change_cases state new
  · exact absurd rfl hstate
  · exact absurd rfl hnew
  · rw [hopens, hkeeps]

/-- **The recorded stretches are the paused ones** exactly if no change of state bypasses, as
    long as a pause is open in the first state exactly if that one is paused. -/
theorem recordedStretches_eq_iff (state : PlaybackState) (states : List PlaybackState) :
    recordedStretches (decide (state = .paused)) state states = pausedStretches (state :: states) ↔
      NoneBypasses (state :: states) := by
  induction states generalizing state with
  | nil =>
    simp only [recordedStretches, pausedStretches, List.map_cons, List.map_nil, true_iff]
    exact List.isChain_singleton _
  | cons new rest ih =>
    have hsplit : NoneBypasses (state :: new :: rest) ↔
        ¬ state.Bypasses new ∧ NoneBypasses (new :: rest) := List.isChain_cons_cons
    have hpaused : pausedStretches (state :: new :: rest) =
        decide (state = .paused) :: pausedStretches (new :: rest) := rfl
    rw [hsplit, recordedStretches, hpaused, List.cons.injEq]
    by_cases hchange : state.Bypasses new
    · -- Only one of the two stretches is paused, but they are recorded alike.
      refine iff_of_false (fun ⟨hfirst, hothers⟩ => ?_) fun h => h.1 hchange
      have hsecond := congrArg List.head? hothers
      rw [recordedStretches_head?, ← recorded_of_bypasses hchange, hfirst] at hsecond
      have hsame : state = .paused ↔ new = .paused := by
        simpa only [pausedStretches, List.map_cons, List.head?_cons, Option.some.injEq,
          decide_eq_decide] using hsecond
      have hdiffer := hchange.2.2
      rw [hsame] at hdiffer
      exact iff_not_self hdiffer
    · rw [opensTo_of_not_bypasses hchange, ih new]
      refine ⟨fun h => ⟨hchange, h.2⟩, fun h => ⟨?_, h.2⟩⟩
      by_cases hstate : state = .paused
      · subst hstate
        simp only [decide_true, Bool.true_and]
        exact keepsPause_of_noneBypasses (hsplit.mpr h)
      · simp only [hstate, decide_false, Bool.false_and]

end PlaybackState

/-! ### Courses -/

namespace Course
open PlaybackState

/-- The milliseconds between the times of a course. -/
def lengths (c : Course) : List Int :=
  stretchLengths c.session.startedAt (c.ticks.map Tick.time ++ [c.stoppedAt])

/-- The milliseconds that a course spends paused. -/
def pausedTime (c : Course) : Int :=
  timeWhere (pausedStretches (c.session.state :: c.ticks.map Tick.state)) c.lengths

/-- A regular course that starts with playing and goes on through the given states, at times
    that are whole milliseconds apart. -/
structure PlaysThrough (c : Course) (states : List PlaybackState) : Prop where
  regular : c.Regular
  playing : c.session.state = .playing
  through : c.ticks.map Tick.state = states
  whole : ∀ t ∈ c.times, t.WholeFrom c.session.startedAt

/-- Does a course end with its paused time recorded, and watched for the rest of the time? -/
def Exact (c : Course) : Prop :=
  ∃ result, c.run = .ok result ∧ result.session.duration = some result.duration ∧
    result.session.pausedDuration = c.pausedTime ∧ result.duration = c.elapsed - c.pausedTime

/-- What a course that plays through some states records as paused and as watched. -/
theorem PlaysThrough.run_eq_ok {c : Course} {states : List PlaybackState}
    (h : c.PlaysThrough states) :
    ∃ result, c.run = .ok result ∧ result.session.duration = some result.duration ∧
      result.session.pausedDuration =
        timeWhere (recordedStretches false .playing states) c.lengths ∧
      result.duration = c.elapsed - result.session.pausedDuration := by
  obtain ⟨played, result, hfollow, hrun, hstarted, hkept, hwatched, hnoted, hrecorded⟩ :=
    h.regular.run_eq_ok
  obtain ⟨_, _, hsum⟩ := duration_add_paused hkept
  rw [hstarted] at hsum
  have hticks : ∀ tick ∈ c.ticks, tick.time.WholeFrom c.session.startedAt := fun tick htick =>
    h.whole _ (List.mem_cons_of_mem _ (List.mem_append_left _ (List.mem_map_of_mem htick)))
  have hstopped : c.stoppedAt.WholeFrom c.session.startedAt :=
    h.whole _ (List.mem_cons_of_mem _ (List.mem_append_right _ List.mem_cons_self))
  have hnotOpen : c.session.pauses.lastPausedAt = none := h.regular.notOpen
  have hopen : c.session.pauses.WholeFrom c.session.startedAt := by
    intro began hbegan
    rw [hnotOpen] at hbegan
    cases hbegan
  obtain ⟨played', hfollow', hpaused⟩ := c.session.follow_recorded c.ticks hopen
    (h.whole _ List.mem_cons_self) hticks hstopped
  -- Both lemmas speak of the session that the same reports leave.
  obtain rfl : played' = played := Except.ok.inj (hfollow'.symm.trans hfollow)
  have hbefore : c.session.pauses.recordedAt c.session.state (c.ticks.map Tick.state)
      c.session.startedAt = 0 := by
    have hnotPaused : c.session.pauses.pausedDuration = 0 := h.regular.notPaused
    simp only [PauseRecord.recordedAt, PauseRecord.openFor, hnotOpen, hnotPaused, ite_self,
      Int.add_zero]
  rw [hbefore, Int.zero_add, hnotOpen, h.playing, h.through] at hpaused
  refine ⟨result, hrun, hnoted, hrecorded.trans hpaused, ?_⟩
  rw [hwatched, hrecorded]
  show _ = c.stoppedAt.millisecondsSince c.session.startedAt - _
  omega

/-- Which states a course goes through decides whether it is exact whatever its times are. -/
theorem PlaysThrough.exact {c : Course} {states : List PlaybackState} (h : c.PlaysThrough states)
    (hstates : NoneBypasses (.playing :: states)) : c.Exact := by
  obtain ⟨result, hrun, hnoted, hrecorded, hwatched⟩ := h.run_eq_ok
  have hmarks : recordedStretches false .playing states = pausedStretches (.playing :: states) :=
    (recordedStretches_eq_iff .playing states).mpr hstates
  have hpaused : result.session.pausedDuration = c.pausedTime := by
    rw [hrecorded, hmarks, pausedTime, h.playing, h.through]
  exact ⟨result, hrun, hnoted, hpaused, hpaused ▸ hwatched⟩

/-! ### Hurried courses -/

/-- The start of the year 1, in universal time. -/
def yearOne : Timestamp := ⟨0, some 0⟩

/-- A millisecond after the start of the year 1. -/
def soonAfter : Timestamp := ⟨Duration.millisecond, some 0⟩

/-- A course of given states in a single millisecond, all of which is spent in one of its
    stretches. -/
def hurried (states : List PlaybackState) (stretch : Nat) : Course where
  session := Session.starting "session" "user" "server" yearOne.assumeUniversal
  ticks := (states.take stretch).map (⟨·, yearOne, none⟩) ++
    (states.drop stretch).map (⟨·, soonAfter, none⟩)
  stoppedAt := soonAfter
  mode := .standard

/-- The times of a hurried course. -/
theorem times_hurried (states : List PlaybackState) {stretch : Nat}
    (h : stretch ≤ states.length) :
    (hurried states stretch).ticks.map Tick.time ++ [(hurried states stretch).stoppedAt] =
      List.replicate stretch yearOne ++
        List.replicate (states.length - stretch + 1) soonAfter := by
  have hbefore : (states.take stretch).length = stretch := List.length_take_of_le h
  have hafter : (states.drop stretch).length = states.length - stretch := List.length_drop
  simp only [hurried, List.map_append, List.map_map, Function.comp_def, List.map_const', hbefore,
    hafter, List.append_assoc, List.replicate_succ']

/-- A hurried course plays through its states. -/
theorem playsThrough_hurried (states : List PlaybackState) {stretch : Nat}
    (h : stretch ≤ states.length) : (hurried states stretch).PlaysThrough states := by
  have htimes : (hurried states stretch).times = yearOne :: (List.replicate stretch yearOne ++
      List.replicate (states.length - stretch + 1) soonAfter) :=
    congrArg (yearOne :: ·) (times_hurried states h)
  have hearlier : ∀ t ∈ (hurried states stretch).times, t = yearOne ∨ t = soonAfter := by
    intro t ht
    rw [htimes] at ht
    simp only [List.mem_cons, List.mem_append, List.mem_replicate] at ht
    tauto
  have hfirst : yearOne.Shown := ⟨by decide, by decide⟩
  have hlast : soonAfter.Shown := ⟨by decide, by decide⟩
  have hlater : yearOne.instant ≤ soonAfter.instant := by decide
  have hordered : (hurried states stretch).times.Pairwise
      fun earlier later => earlier.instant ≤ later.instant := by
    rw [htimes, ← List.cons_append, ← List.replicate_succ, List.pairwise_append]
    refine ⟨List.pairwise_replicate_of_refl .., List.pairwise_replicate_of_refl .., ?_⟩
    intro earlier hearlier later hlater'
    rw [List.eq_of_mem_replicate hearlier, List.eq_of_mem_replicate hlater']
    exact hlater
  refine ⟨⟨rfl, rfl, hordered.isChain, hfirst, hlast, nofun⟩, rfl, ?_, ?_⟩
  · simp only [hurried, List.map_append, List.map_map, Function.comp_def, List.map_id',
      List.take_append_drop]
  · intro t ht
    obtain rfl | rfl := hearlier t ht
    · rfl
    · rfl

/-- **Pauses are recorded exactly** in every course through a list of states, if and only if no
    change of these states bypasses playing on the way into or out of a pause.  In any case
    what is recorded is the time in the stretches that `recordedStretches` marks. -/
theorem exact_iff_noneBypasses (states : List PlaybackState) :
    (∀ c : Course, c.PlaysThrough states →
      ∃ result, c.run = .ok result ∧ result.session.duration = some result.duration ∧
        result.session.pausedDuration =
          timeWhere (recordedStretches false .playing states) c.lengths ∧
        result.duration = c.elapsed - result.session.pausedDuration) ∧
    ((∀ c : Course, c.PlaysThrough states → c.Exact) ↔ NoneBypasses (.playing :: states)) := by
  refine ⟨fun c hc => hc.run_eq_ok, fun hexact => ?_, fun hstates c hc => hc.exact hstates⟩
  refine (recordedStretches_eq_iff .playing states).mp ?_
  show recordedStretches false .playing states = pausedStretches (.playing :: states)
  have hcount : (recordedStretches false .playing states).length = states.length + 1 :=
    length_recordedStretches ..
  have hcount' : (pausedStretches (.playing :: states)).length = states.length + 1 :=
    List.length_map ..
  refine List.ext_getElem (hcount.trans hcount'.symm) fun n hn hn' => ?_
  have hstretch : n ≤ states.length := by omega
  -- A course that spends its time in one stretch tells whether that stretch is recorded.
  have hplays := playsThrough_hurried states hstretch
  obtain ⟨result, hrun, _, hrecorded, _⟩ := hplays.run_eq_ok
  obtain ⟨result', hrun', _, hpaused, _⟩ := hexact _ hplays
  obtain rfl : result = result' := Except.ok.inj (hrun.symm.trans hrun')
  have hlength : soonAfter.millisecondsSince yearOne = 1 := by decide
  have hstart : (hurried states n).session.startedAt.toTimestamp = yearOne := rfl
  rw [hrecorded, pausedTime, hplays.playing, hplays.through, lengths, times_hurried _ hstretch,
    hstart, timeWhere_single _ hlength, timeWhere_single _ hlength, List.getElem?_eq_getElem hn,
    List.getElem?_eq_getElem hn'] at hpaused
  have hsame : ∀ a b : Bool, (if some a = some true then (1 : Int) else 0) =
      (if some b = some true then 1 else 0) → a = b := by decide
  exact hsame _ _ hpaused

/-- A course that is paused for ten minutes and then goes on playing, but is buffering in
    between. -/
def resumedThroughBuffering : Course where
  session := Session.starting "session" "user" "server" (.universal 0)
  ticks :=
    [⟨.paused, ⟨10 * Duration.minute, some 0⟩, none⟩,
      ⟨.buffering, ⟨20 * Duration.minute, some 0⟩, none⟩,
      ⟨.playing, ⟨30 * Duration.minute, some 0⟩, none⟩]
  stoppedAt := ⟨100 * Duration.minute, some 0⟩
  mode := .standard

/-- The pause of that course never closes: it is recorded as 90 minutes of 100, not as 10. -/
theorem not_exact_resumedThroughBuffering :
    resumedThroughBuffering.PlaysThrough [.paused, .buffering, .playing] ∧
      (∃ result, resumedThroughBuffering.run = .ok result ∧
        result.session.pausedDuration = 5400000 ∧ result.duration = 600000) ∧
      resumedThroughBuffering.pausedTime = 600000 ∧
      resumedThroughBuffering.elapsed = 6000000 ∧ ¬ resumedThroughBuffering.Exact := by
  have hregular : resumedThroughBuffering.Regular :=
    { notOpen := rfl
      notPaused := rfl
      inOrder := by unfold Timestamp.InOrder; decide
      started := ⟨by decide, by decide⟩
      stopped := ⟨by decide, by decide⟩
      threshold := nofun }
  have hwhole : ∀ t ∈ resumedThroughBuffering.times,
      t.WholeFrom resumedThroughBuffering.session.startedAt := by
    unfold Timestamp.WholeFrom
    decide
  obtain ⟨result, hrun, hpaused, hwatched⟩ : ∃ result, resumedThroughBuffering.run = .ok result ∧
      result.session.pausedDuration = 5400000 ∧ result.duration = 600000 := ⟨_, rfl, rfl, rfl⟩
  have htime : resumedThroughBuffering.pausedTime = 600000 := by decide
  refine ⟨⟨hregular, rfl, rfl, hwhole⟩, ⟨result, hrun, hpaused, hwatched⟩, htime, by decide, ?_⟩
  rintro ⟨result', hrun', _, hpaused', _⟩
  obtain rfl : result = result' := Except.ok.inj (hrun.symm.trans hrun')
  omega

end Course

end StreamWatch
