import Mathlib.Data.List.Perm.Subperm
import StreamWatch.Proofs.Comparison
import StreamWatch.Proofs.Evaluation.Instants
import StreamWatch.Proofs.Evaluation.Meaning
import StreamWatch.Proofs.Fault
import StreamWatch.Proofs.Time.Duration

namespace StreamWatch

/-!
# Wider windows

Two fields look back some hours and count what is different among the recent sessions of a user.  A
wider window has more sessions in it, until it begins before the calendar does, where a condition
cannot be told any more and does not hold:

* `SessionContext.countDistinct_mono` — of more texts at least as many are different;
* `SessionContext.ReachesBack` — does a window begin in the calendar?
* `SessionContext.countInWindow_eq_ok_iff`, `SessionContext.countSince_mono` — when there is a
  count, and that it grows with the window;
* `ConditionField.LooksBack.evaluate_eq_error`, `ConditionField.atOnce_standard_eq_failed` — a field
  fails for any other window, and that it failed is noted down;
* `ConditionField.widerWindow_iff` — a condition that asks for at least so many holds in a wider
  window as well, exactly if that one begins in the calendar.
-/

namespace SessionContext

/-! ### How many are different -/

/-- Texts without their repetitions are all different. -/
theorem nodup_eraseDups (texts : List String) : texts.eraseDups.Nodup := by
  cases texts with
  | nil => exact List.nodup_nil
  | cons text rest =>
    rw [List.eraseDups_cons, List.nodup_cons]
    constructor
    · rw [List.mem_eraseDups]
      simp
    · exact nodup_eraseDups (rest.filter fun other => !other == text)
termination_by texts.length
decreasing_by
  rw [List.length_cons]
  exact Nat.lt_succ_of_le (List.length_filter_le _ rest)

/-- Of more texts at least as many are different. -/
theorem countDistinct_mono {texts more : List String} (h : texts ⊆ more) :
    countDistinct texts ≤ countDistinct more := by
  have hsubset : texts.eraseDups ⊆ more.eraseDups := by
    intro text htext
    exact List.mem_eraseDups.mpr (h (List.mem_eraseDups.mp htext))
  have hle := ((nodup_eraseDups texts).subperm hsubset).length_le
  show (texts.eraseDups.length : Int) ≤ more.eraseDups.length
  omega

/-! ### Where windows begin -/

/-- Does a window of some hours before a session begin in the calendar?  Its length has to be one
    that is allowed, and its beginning a date of the years 1 to 9999. -/
structure ReachesBack (c : SessionContext) (hours : Int) : Prop where
  length : -999999999 ≤ hours / 24 ∧ hours / 24 ≤ 999999999
  start : Timestamp.clockInRange (c.session.startedAt.localClock - hours * Duration.hour) = true

/-- The window of a session that started in the calendar begins there as well, as long as it has no
    more hours than there were before the session. -/
theorem reachesBack_iff {c : SessionContext} {hours : Int} (hpositive : 0 < hours)
    (hstarted : Timestamp.clockInRange c.session.startedAt.localClock = true) :
    c.ReachesBack hours ↔ hours * Duration.hour ≤ c.session.startedAt.localClock := by
  have hcount : Date.dayCount = 3652059 := by decide
  simp only [Timestamp.clockInRange, hcount, Duration.day, Duration.second,
    decide_eq_true_iff] at hstarted
  have hstart : Timestamp.clockInRange
      (c.session.startedAt.localClock - hours * Duration.hour) = true ↔
        hours * Duration.hour ≤ c.session.startedAt.localClock := by
    simp only [Timestamp.clockInRange, hcount, Duration.day, Duration.hour, Duration.second,
      decide_eq_true_iff]
    delta Duration at *
    omega
  constructor
  · intro hreaches
    exact hstart.mp hreaches.start
  · intro hhours
    refine ⟨?_, hstart.mpr hhours⟩
    -- There are not as many hours in the calendar as a length may have.
    simp only [Duration.hour, Duration.second] at hhours
    delta Duration at *
    omega

/-! ### What is counted -/

/-- The recent sessions of the user that started no more than some hours before this one. -/
def sessionsSince (c : SessionContext) (hours : Int) : List Session :=
  c.ownRecent.filter fun s =>
    decide (c.session.startedAt.instant - hours * Duration.hour ≤ s.startedAt.instant)

/-- How many texts of a kind this session and those of a window have. -/
def countSince (c : SessionContext) (hours : Int) (label : Session → String) : Int :=
  countDistinct (label c.session :: (c.sessionsSince hours).map label)

variable {c : SessionContext} {hours : Int} {label : Session → String}

/-- In a window that begins in the calendar are the sessions since its beginning. -/
theorem recentWithin_of_reachesBack (h : c.ReachesBack hours) :
    c.recentWithin hours = .ok (c.sessionsSince hours) := by
  obtain ⟨window, hwindow⟩ := Duration.ofHours_isOk_iff.mpr h.length
  obtain rfl := Duration.ofHours_eq_ok hwindow
  obtain ⟨cutoff, hcutoff⟩ := Moment.shift_isOk_iff.mpr h.start
  obtain rfl := Moment.shift_eq_ok hcutoff
  have hsince : c.sessionsSince hours = c.ownRecent.filter fun s => !s.startedAt.isBefore
      ⟨⟨c.session.startedAt.instant - hours * Duration.hour, c.session.startedAt.offset⟩,
        c.session.startedAt.placed⟩ := by
    apply List.filter_congr
    intro s _
    rw [Moment.isBefore, ← decide_not, decide_eq_decide]
    exact not_lt.symm
  rw [hsince]
  unfold recentWithin
  rw [hwindow]
  show (c.session.startedAt.shift (-(hours * Duration.hour))).bind _ = _
  rw [show c.session.startedAt.shift (-(hours * Duration.hour)) = _ from hcutoff]
  rfl

/-- A window that can be looked at begins in the calendar. -/
theorem reachesBack_of_recentWithin {recent : List Session}
    (h : c.recentWithin hours = .ok recent) : c.ReachesBack hours := by
  unfold recentWithin at h
  cases hwindow : Duration.ofHours hours with
  | error fault =>
    rw [hwindow] at h
    cases h
  | ok window =>
    rw [hwindow] at h
    have hlength := Duration.ofHours_isOk_iff.mp ⟨window, hwindow⟩
    obtain rfl := Duration.ofHours_eq_ok hwindow
    change (c.session.startedAt.shift (-(hours * Duration.hour))).bind _ = _ at h
    refine ⟨hlength, Moment.shift_isOk_iff.mp ?_⟩
    cases hcutoff : c.session.startedAt.shift (-(hours * Duration.hour)) with
    | error fault =>
      rw [hcutoff] at h
      cases h
    | ok cutoff => exact ⟨cutoff, rfl⟩

/-- A window that does not begin in the calendar cannot be looked at, being out of range. -/
theorem recentWithin_eq_error (h : ¬ c.ReachesBack hours) :
    ∃ fault : Fault, fault.OutOfRange ∧ c.recentWithin hours = .error fault := by
  cases hrecent : c.recentWithin hours with
  | ok recent => exact absurd (reachesBack_of_recentWithin hrecent) h
  | error fault =>
    refine ⟨fault, ?_, rfl⟩
    unfold recentWithin at hrecent
    rcases eq_error_of_bind hrecent with hwindow | ⟨window, -, hrest⟩
    · exact Duration.checked_eq_error hwindow
    · rcases eq_error_of_bind hrest with hcutoff | ⟨cutoff, -, hfound⟩
      · exact Moment.shift_eq_error hcutoff
      · cases hfound

/-- There is a count exactly for the windows that begin in the calendar. -/
theorem countInWindow_eq_ok_iff {n : Int} :
    c.countInWindow hours label = .ok n ↔ c.ReachesBack hours ∧ c.countSince hours label = n := by
  unfold countInWindow
  constructor
  · intro hcount
    obtain ⟨recent, hrecent, rfl⟩ := eq_ok_of_map hcount
    have hreaches := reachesBack_of_recentWithin hrecent
    rw [recentWithin_of_reachesBack hreaches] at hrecent
    obtain rfl := Except.ok.inj hrecent
    exact ⟨hreaches, rfl⟩
  · rintro ⟨hreaches, rfl⟩
    rw [recentWithin_of_reachesBack hreaches]
    rfl

/-- A wider window has at least as many different texts. -/
theorem countSince_mono {narrow wide : Int} (hle : narrow ≤ wide) :
    c.countSince narrow label ≤ c.countSince wide label := by
  have hmore : (c.sessionsSince narrow).Sublist (c.sessionsSince wide) := by
    apply List.monotone_filter_right
    intro s hs
    rw [decide_eq_true_iff] at hs ⊢
    simp only [Duration.hour, Duration.second] at hs ⊢
    delta Duration at *
    omega
  apply countDistinct_mono
  apply List.cons_subset_cons
  exact (hmore.map label).subset

end SessionContext

/-! ### Conditions -/

/-- A number as an expected value. -/
def ExpectedValue.ofNumber : Number → ExpectedValue
  | .int n => .int n
  | .real x => .real x

namespace ConditionField
open SessionContext

/-- A condition that asks for at least a number of what a field counts in a window of hours. -/
def atLeast (field : ConditionField) (n : Number) (hours : Int) : Condition :=
  ⟨field.name, Operator.gte.name, .ofNumber n, some ⟨some hours⟩⟩

/-- Every field is found by its name. -/
@[simp] theorem ofName?_name (field : ConditionField) : ofName? field.name = some field := by
  cases field <;> rfl

/-- A condition on a field is found to hold exactly if the field answers that it does. -/
theorem holds_atOnce_standard_iff {field : ConditionField} {condition : Condition}
    (hfield : condition.field = field.name) (c : EvaluationContext) :
    (Probe.atOnce .standard c condition).holds = true ↔
      field.evaluate c.toSessionContext condition = .ok true := by
  rw [Probe.holds_atOnce_iff]
  unfold Condition.HoldsIn Registry.standard
  rw [hfield, ofName?_name]
  simp only [Option.map_some, Option.some.injEq, exists_and_left, exists_eq_left']
  unfold ConditionField.evaluator
  cases field.evaluate c.toSessionContext condition with
  | error fault => exact iff_of_false nofun nofun
  | ok holds =>
    simp only [Reply.answer.injEq, exists_eq_left', Datum.truthy, Except.ok.injEq]

/-- A condition on a field that fails is found not to hold, and that is noted down. -/
theorem atOnce_standard_eq_failed {field : ConditionField} {condition : Condition}
    (hfield : condition.field = field.name) {c : EvaluationContext} {fault : Fault}
    (h : field.evaluate c.toSessionContext condition = .error fault) :
    Probe.atOnce .standard c condition =
      ⟨condition, true, none, [Probe.failureNotice c condition fault.message], false⟩ := by
  unfold Probe.atOnce Registry.standard
  rw [hfield, ofName?_name]
  simp only [Option.map_some, evaluator, h]
  rfl

/-- A field that looks back fails for the windows that do not begin in the calendar. -/
theorem LooksBack.evaluate_eq_error {field : ConditionField} (h : field.LooksBack)
    {c : SessionContext} {condition : Condition} (hwindow : ¬ c.ReachesBack condition.windowHours) :
    ∃ fault : Fault, fault.OutOfRange ∧ field.evaluate c condition = .error fault := by
  obtain ⟨fault, hrange, hrecent⟩ := recentWithin_eq_error hwindow
  refine ⟨fault, hrange, ?_⟩
  unfold evaluate
  rcases h with rfl | rfl
  · simp only [observe, countInWindow, hrecent]
    rfl
  · simp only [observe, countInWindow, hrecent]
    rfl

/-- A field that looks back answers for the windows that begin in the calendar, by a count of what
    is in them. -/
theorem LooksBack.evaluate_atLeast_iff {field : ConditionField} (h : field.LooksBack) :
    ∃ label, ∀ (c : SessionContext) (n : Number) (hours : Int),
      field.evaluate c (field.atLeast n hours) = .ok true ↔ c.ReachesBack hours ∧
        Operator.gte.holds (.int (c.countSince hours label)) (.ofNumber n) = true := by
  obtain ⟨label, hlabel⟩ : ∃ label, ∀ (c : SessionContext) (hours : Int),
      field.observe c hours = (c.countInWindow hours label).map fun n => .plain (.int n) := by
    rcases h with rfl | rfl
    · exact ⟨Session.ipAddress, fun c hours => rfl⟩
    · exact ⟨Session.deviceLabel, fun c hours => rfl⟩
  refine ⟨label, fun c n hours => ?_⟩
  have hmeets (count : Int) : (Observation.plain (.int count)).meets (field.atLeast n hours) =
      Operator.gte.holds (.int count) (.ofNumber n) := by
    show satisfies (.int count) Operator.gte.name (ExpectedValue.ofNumber n).toDatum = _
    rw [satisfies_name]
    cases n <;> rfl
  unfold evaluate
  rw [show (field.atLeast n hours).windowHours = hours from rfl, hlabel]
  constructor
  · intro hholds
    obtain ⟨observed, hobserved, hmet⟩ := eq_ok_of_map hholds
    obtain ⟨count, hcount, rfl⟩ := eq_ok_of_map hobserved
    obtain ⟨hreaches, rfl⟩ := countInWindow_eq_ok_iff.mp hcount
    exact ⟨hreaches, (hmeets _).symm.trans hmet⟩
  · rintro ⟨hreaches, hholds⟩
    rw [countInWindow_eq_ok_iff.mpr ⟨hreaches, rfl⟩]
    exact congrArg Except.ok ((hmeets _).trans hholds)

/-- What is at least a number is so as well if it is more. -/
theorem holds_gte_mono {count more : Int} (hle : count ≤ more) {e : Datum}
    (h : Operator.gte.holds (.int count) e = true) : Operator.gte.holds (.int more) e = true := by
  rw [Operator.holds_iff_ordering rfl] at h ⊢
  obtain ⟨p, q, hp, hq, hpq⟩ := h
  obtain rfl := Option.some.inj ((Number.toExtended?_int count).symm.trans hp)
  refine ⟨_, q, Number.toExtended?_int more, hq, ?_⟩
  have hcast : (((count : ℚ) : WithTop ℚ) : ExtendedRational) ≤
      (((more : ℚ) : WithTop ℚ) : ExtendedRational) := by
    rw [WithBot.coe_le_coe, WithTop.coe_le_coe]
    exact Int.cast_le.mpr hle
  exact hpq.trans hcast

/-- **A wider window never finds fewer, as long as it begins in the calendar.**  A condition that
    asks for at least a number of different addresses, or of different devices, and that holds in
    the window of some hours, holds in a wider one exactly if that one begins in the calendar.  The
    window of a session that started in the calendar does so if it has no more hours than there were
    before the session.  Otherwise the field fails, since a length of time or a date is out of
    range, and the condition is found not to hold, of which a notice is left. -/
theorem widerWindow_iff (c : EvaluationContext) {field : ConditionField} (hfield : field.LooksBack)
    (n : Number) {narrow wide : Int} (hpositive : 0 < narrow) (hle : narrow ≤ wide)
    (hfound : (Probe.atOnce .standard c (field.atLeast n narrow)).holds = true) :
    ((Probe.atOnce .standard c (field.atLeast n wide)).holds = true ↔ c.ReachesBack wide) ∧
      (Timestamp.clockInRange c.session.startedAt.localClock = true →
        (c.ReachesBack wide ↔ wide * Duration.hour ≤ c.session.startedAt.localClock)) ∧
      (¬ c.ReachesBack wide → ∃ fault : Fault, fault.OutOfRange ∧
        field.evaluate c.toSessionContext (field.atLeast n wide) = .error fault ∧
        Probe.atOnce .standard c (field.atLeast n wide) =
          ⟨field.atLeast n wide, true, none,
            [Probe.failureNotice c (field.atLeast n wide) fault.message], false⟩) := by
  obtain ⟨label, hlabel⟩ := hfield.evaluate_atLeast_iff
  rw [holds_atOnce_standard_iff rfl, hlabel] at hfound ⊢
  refine ⟨⟨?_, fun hreaches => ?_⟩, reachesBack_iff (by omega), fun hbeyond => ?_⟩
  · rintro ⟨hreaches, -⟩
    exact hreaches
  · exact ⟨hreaches, holds_gte_mono (countSince_mono hle) hfound.2⟩
  · have hwindow : ¬ c.ReachesBack (field.atLeast n wide).windowHours := hbeyond
    obtain ⟨fault, hrange, hfault⟩ := hfield.evaluate_eq_error hwindow
    exact ⟨fault, hrange, hfault, atOnce_standard_eq_failed rfl hfault⟩

end ConditionField

/-- A session at noon of a day in 2026, and two before it from other addresses: one on the same
    morning, and one on the morning before. -/
def noonContext : SessionContext :=
  let started (id address : String) (hoursBefore : Int) : Session :=
    { Session.starting id "ann" "server"
        (.universal (739688 * Duration.day + (12 - hoursBefore) * Duration.hour)) with
      ipAddress := address }
  { quietContext with
    session := started "film" "192.0.2.7" 0
    recentSessions := [started "song" "192.0.2.8" 2, started "news" "192.0.2.9" 30] }

/-- Two addresses are found in one day, and so are they in two. -/
theorem ConditionField.widerWindow_twoDays :
    let c := noonContext.ruleless
    (Probe.atOnce .standard c (uniqueAddresses.atLeast (.int 2) 24)).holds = true ∧
      c.ReachesBack 48 ∧
      (Probe.atOnce .standard c (uniqueAddresses.atLeast (.int 2) 48)).holds = true := by
  intro c
  have hfound : (Probe.atOnce .standard c (uniqueAddresses.atLeast (.int 2) 24)).holds = true := by
    decide +kernel
  obtain ⟨hwider, hhours, -⟩ :=
    @widerWindow_iff c uniqueAddresses (.inl rfl) (.int 2) 24 48 (by decide) (by decide) hfound
  have hreaches : c.ReachesBack 48 := (hhours (by decide +kernel)).mpr (by decide +kernel)
  exact ⟨hfound, hreaches, hwider.mpr hreaches⟩

/-- They are not found in a window that begins before the calendar does. -/
theorem ConditionField.not_widerWindow_allYears :
    ¬ ∀ (c : EvaluationContext) (field : ConditionField), field.LooksBack →
      ∀ (n : Number) (narrow wide : Int), 0 < narrow → narrow ≤ wide →
        (Probe.atOnce .standard c (field.atLeast n narrow)).holds = true →
          (Probe.atOnce .standard c (field.atLeast n wide)).holds = true := by
  intro hwider
  have hfound : (Probe.atOnce .standard noonContext.ruleless
      (uniqueAddresses.atLeast (.int 2) 24)).holds = true := by decide +kernel
  have hlost : (Probe.atOnce .standard noonContext.ruleless
      (uniqueAddresses.atLeast (.int 2) 20000000)).holds = false := by decide +kernel
  have hboth := hwider noonContext.ruleless uniqueAddresses (.inl rfl) (.int 2) 24 20000000
    (by decide) (by decide) hfound
  cases hlost.symm.trans hboth

end StreamWatch
