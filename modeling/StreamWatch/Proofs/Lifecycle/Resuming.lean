import StreamWatch.Proofs.Datum.Order
import StreamWatch.Proofs.Lifecycle.Moments
import StreamWatch.Proofs.Number.Order
import StreamWatch.Proofs.Time.Duration

namespace StreamWatch

/-!
# When a session resumes an earlier one

A session goes on where an earlier one stopped if nothing is against it: the earlier one has stopped,
within the greatest gap and within a threshold, it was not watched, and its position is not ahead
of that of the new one.

* `Session.Resumable` — nothing is against it, for a position, a threshold and a time;
* `Session.Resumable.mono` — nothing speaks against a later position, a longer threshold or an
  earlier time either;
* `Session.resumeLink_eq_some_iff` — what the function that looks for a link answers, where it does;
* `Session.resumeLink_monotone_capped` — more is resumed with a later position, a longer threshold
  and an earlier time, but nothing beyond the caps that no threshold lifts.
-/

/-- The threshold that goes for a resumption, which is that of the limits if no other is given. -/
def SessionLimits.resumeThreshold (limits : SessionLimits) (threshold : Option Datum) : Datum :=
  threshold.getD (.int limits.continuedSessionThreshold)

/-- An integer is greater than a datum exactly if that is less. -/
theorem Datum.stands_greater_int (n : Int) (d : Datum) :
    (Datum.int n).stands .greater d = .ok true ↔ d.stands .less (.int n) = .ok true := by
  cases d <;> simp [stands, count?, OrderRelation.greater, OrderRelation.less]

/-- An integer is at most another one as a datum exactly if it is at most that one. -/
theorem Datum.stands_atMost_int {a n : Int} :
    (Datum.int a).stands .atMost (.int n) = .ok true ↔ a ≤ n := by
  show Except.ok ((Number.int a).atMost (.int n)) = .ok true ↔ _
  rw [Number.atMost_int, Except.ok.injEq, decide_eq_true_eq]

/-- At an earlier time fewer milliseconds have passed, or as many. -/
theorem Timestamp.millisecondsSince_mono {earlier later : Timestamp} (start : Timestamp)
    (h : earlier.instant ≤ later.instant) :
    earlier.millisecondsSince start ≤ later.millisecondsSince start := by
  rw [millisecondsSince_eq, millisecondsSince_eq]
  omega

/-- A moment is before one that was moved back if it is longer ago than by that length. -/
theorem Moment.isBefore_iff_of_shift {t now earliest : Moment} {length : Duration}
    (h : now.shift (-length) = .ok earliest) :
    t.isBefore earliest = true ↔ length < now.since t := by
  obtain rfl := Moment.shift_eq_ok h
  simp only [isBefore, since, decide_eq_true_eq]
  delta Duration at length ⊢
  omega

namespace Session

/-! ### What is against a resumption -/

/-- Is nothing against it that a session which starts at a position and a time goes on where
    `previous` stopped? -/
structure Resumable (previous : Session) (position threshold : Datum) (now : Timestamp)
    (limits : SessionLimits) : Prop where
  stopped : previous.stoppedAt ≠ none
  withinGap : ∀ t, previous.stoppedAt = some t →
    now.passedSince t ≤ limits.maxGroupGapHours * Duration.hour
  inTime : ∀ t, previous.stoppedAt = some t →
    (Datum.int (now.millisecondsSince t)).stands .greater threshold ≠ .ok true
  unwatched : previous.watched = false
  notRewound : position.stands .less (previous.progress.orElse (.int 0)) ≠ .ok true

/-- What may be against a resumption of a session that has stopped. -/
theorem resumable_iff {previous : Session} {stoppedAt : Moment}
    (hstopped : previous.stoppedAt = some stoppedAt) (position threshold : Datum) (now : Timestamp)
    (limits : SessionLimits) : previous.Resumable position threshold now limits ↔
      now.passedSince stoppedAt ≤ limits.maxGroupGapHours * Duration.hour ∧
        (Datum.int (now.millisecondsSince stoppedAt)).stands .greater threshold ≠ .ok true ∧
        previous.watched = false ∧
        position.stands .less (previous.progress.orElse (.int 0)) ≠ .ok true := by
  constructor
  · rintro ⟨_, hgap, hlate, hwatched, hrewound⟩
    exact ⟨hgap _ hstopped, hlate _ hstopped, hwatched, hrewound⟩
  · rintro ⟨hgap, hlate, hwatched, hrewound⟩
    refine ⟨by simp [hstopped], fun t ht => ?_, fun t ht => ?_, hwatched, hrewound⟩
    · obtain rfl := Option.some.inj (hstopped.symm.trans ht)
      exact hgap
    · obtain rfl := Option.some.inj (hstopped.symm.trans ht)
      exact hlate

/-- If nothing is against a resumption, then nothing is at a later position, with a longer threshold
    and at an earlier time. -/
theorem Resumable.mono {previous : Session} {limits : SessionLimits}
    {position position' threshold threshold' : Datum} {now now' : Timestamp}
    (h : previous.Resumable position threshold now limits)
    (hposition : position.stands .atMost position' = .ok true)
    (hthreshold : threshold.stands .atMost threshold' = .ok true)
    (hnow : now'.instant ≤ now.instant) :
    previous.Resumable position' threshold' now' limits where
  stopped := h.stopped
  withinGap t ht :=
    le_trans (Int.sub_le_sub_right hnow t.instant) (h.withinGap t ht)
  inTime t ht hlate := by
    -- What is late for the longer threshold and the earlier time is late for the others.
    have helapsed := Datum.stands_atMost_int.mpr (Timestamp.millisecondsSince_mono t hnow)
    rw [Datum.stands_greater_int] at hlate
    have hless := Datum.stands_less_of_less (Datum.stands_less_of_atMost hthreshold hlate) helapsed
    exact h.inTime t ht ((Datum.stands_greater_int _ _).mpr hless)
  unwatched := h.unwatched
  notRewound hrewound := h.notRewound (Datum.stands_less_of_atMost hposition hrewound)

/-! ### What is answered -/

variable {previous : Session} {limits : SessionLimits} {position : Datum}
  {threshold : Option Datum} {now : Timestamp} {link : Option String}

/-- A session goes on where another one stopped if it is in time, that one was not watched and the
    position is not behind its own. -/
theorem continuedAt_eq_true_iff {stoppedAt : Moment} {threshold : Datum} {continued : Bool}
    (h : previous.continuedAt stoppedAt position threshold now.assumeUniversal = .ok continued) :
    continued = true ↔
      (Datum.int (now.millisecondsSince stoppedAt)).stands .greater threshold ≠ .ok true ∧
        previous.watched = false ∧
        position.stands .less (previous.progress.orElse (.int 0)) ≠ .ok true := by
  rw [continuedAt_eq] at h
  obtain ⟨late, hlate, h⟩ := eq_ok_of_bind h
  rw [← stoppedAt.assumeUniversal_toTimestamp] at hlate
  rw [Timestamp.millisecondsSince, Timestamp.passedSince, ← Moment.millisecondsSince, hlate]
  cases late with
  | true =>
    obtain rfl := Except.ok.inj h
    exact iff_of_false Bool.false_ne_true fun hall => hall.1 rfl
  | false =>
    cases hwatched : previous.watched with
    | true =>
      simp only [hwatched] at h
      obtain rfl := Except.ok.inj h
      exact iff_of_false Bool.false_ne_true fun hall => Bool.false_ne_true hall.2.1.symm
    | false =>
      simp only [hwatched] at h
      obtain ⟨rewound, hrewound, h⟩ := eq_ok_of_bind h
      obtain rfl := Except.ok.inj h
      rw [hrewound]
      cases rewound <;> simp

/-- Where there is an answer, a session is linked to the chain of an earlier one exactly if nothing
    is against it. -/
theorem resumeLink_eq_some_iff (h : previous.resumeLink position threshold now limits = .ok link)
    (root : String) : link = some root ↔ root = previous.chainRoot ∧
      previous.Resumable position (limits.resumeThreshold threshold) now limits := by
  rw [resumeLink_eq] at h
  cases hstopped : previous.stoppedAt with
  | none =>
    rw [hstopped] at h
    obtain rfl := Except.ok.inj h
    exact iff_of_false (by simp) fun hlink => hlink.2.stopped hstopped
  | some stoppedAt =>
    rw [hstopped] at h
    obtain ⟨gap, hgap, h⟩ := eq_ok_of_bind h
    obtain rfl := Duration.ofHours_eq_ok hgap
    obtain ⟨earliest, hearliest, h⟩ := eq_ok_of_bind h
    have hbefore := Moment.isBefore_iff_of_shift (t := stoppedAt) hearliest
    rw [resumable_iff hstopped]
    -- The gap is asked for first, and only within it the rest.
    split at h
    · rename_i hgone
      obtain rfl := Except.ok.inj h
      exact iff_of_false (by simp) fun hlink => absurd (hbefore.mp hgone) hlink.2.1.not_gt
    · rename_i hrecent
      have hgap := not_lt.mp (mt hbefore.mpr hrecent)
      obtain ⟨continued, hcontinued, h⟩ := eq_ok_of_bind h
      have hiff := continuedAt_eq_true_iff hcontinued
      cases continued with
      | true =>
        obtain rfl := Except.ok.inj h
        rw [Option.some.injEq, eq_comm]
        exact ⟨fun hroot => ⟨hroot, hgap, hiff.mp rfl⟩, And.left⟩
      | false =>
        obtain rfl := Except.ok.inj h
        exact iff_of_false (by simp) fun hlink => Bool.false_ne_true (hiff.mpr hlink.2.2)

/-! ### More is resumed, up to the caps -/

/-- **Resuming is monotone and capped.**  Where both are answered, what is linked at a position,
    with a threshold and at a time is linked to the same chain at any later position, with any
    longer threshold and at any earlier time.  Whatever the threshold is, nothing is linked to a
    session that has not stopped, that was watched, that stopped longer ago than the greatest gap,
    or whose position is ahead. -/
theorem resumeLink_monotone_capped (previous : Session) (limits : SessionLimits) :
    (∀ (position position' : Datum) (threshold threshold' : Option Datum) (now now' : Timestamp)
        (root : String) (link : Option String),
      position.stands .atMost position' = .ok true →
      (limits.resumeThreshold threshold).stands .atMost (limits.resumeThreshold threshold') =
        .ok true →
      now'.instant ≤ now.instant →
      previous.resumeLink position threshold now limits = .ok (some root) →
      previous.resumeLink position' threshold' now' limits = .ok link → link = some root) ∧
    ∀ (position : Datum) (threshold : Option Datum) (now : Timestamp),
      (previous.stoppedAt = none ∨ previous.watched = true ∨
        (∃ stoppedAt, previous.stoppedAt = some stoppedAt ∧
          limits.maxGroupGapHours * Duration.hour < now.passedSince stoppedAt) ∨
        position.stands .less (previous.progress.orElse (.int 0)) = .ok true) →
      ∀ root, previous.resumeLink position threshold now limits ≠ .ok (some root) := by
  constructor
  · intro position position' threshold threshold' now now' root link hposition hthreshold hnow
      hlinked hanswered
    obtain ⟨hroot, hresumable⟩ := (resumeLink_eq_some_iff hlinked root).mp rfl
    exact (resumeLink_eq_some_iff hanswered root).mpr
      ⟨hroot, hresumable.mono hposition hthreshold hnow⟩
  · intro position threshold now hbarred root hlinked
    obtain ⟨-, hresumable⟩ := (resumeLink_eq_some_iff hlinked root).mp rfl
    rcases hbarred with hnever | hwatched | ⟨stoppedAt, hstopped, hgap⟩ | hrewound
    · exact hresumable.stopped hnever
    · exact Bool.false_ne_true (hresumable.unwatched.symm.trans hwatched)
    · exact absurd hgap (hresumable.withinGap stoppedAt hstopped).not_gt
    · exact hresumable.notRewound hrewound

/-- So many hours after the start of the year 1. -/
def atHour (hours : Int) : Moment := .universal (hours * Duration.hour)

/-- A film that stopped ten minutes in, in the hundredth hour. -/
def stoppedFilm : Session :=
  { starting "film" "ann" "server" (atHour 99) with
    stoppedAt := some (atHour 100)
    progress := .int 600000 }

/-- With a threshold of three hours the film is resumed at its position two hours later.  So it is
    further on, with a threshold of half a day and an hour before its stop, but not thirty hours
    later, though the threshold is forty. -/
theorem resumeLink_monotone_capped_film :
    stoppedFilm.resumeLink (.int 600000) (some (.int 10800000)) (atHour 102) .standard =
        .ok (some "film") ∧
      (∃ link, stoppedFilm.resumeLink (.int 700000) (some (.int 43200000)) (atHour 99) .standard =
        .ok link ∧ link = some "film") ∧
      ∀ root, stoppedFilm.resumeLink (.int 700000) (some (.int 144000000)) (atHour 130) .standard ≠
        .ok (some root) := by
  obtain ⟨hmonotone, hcapped⟩ := resumeLink_monotone_capped stoppedFilm .standard
  have hlinked : stoppedFilm.resumeLink (.int 600000) (some (.int 10800000)) (atHour 102)
      .standard = .ok (some "film") := rfl
  have hearlier : (atHour 99).instant ≤ (atHour 102).instant := by decide
  have hgap : SessionLimits.standard.maxGroupGapHours * Duration.hour <
      Timestamp.passedSince (atHour 130) (atHour 100) := by decide
  refine ⟨hlinked, ⟨some "film", rfl, ?_⟩, ?_⟩
  · exact hmonotone (.int 600000) (.int 700000) (some (.int 10800000)) (some (.int 43200000))
      (atHour 102) (atHour 99) "film" _ rfl rfl hearlier hlinked rfl
  · exact hcapped (.int 700000) (some (.int 144000000)) (atHour 130)
      (.inr (.inr (.inl ⟨atHour 100, rfl, hgap⟩)))

end Session

end StreamWatch
