import StreamWatch.Proofs.Lifecycle.Course
import StreamWatch.Proofs.Watch.Retention
import StreamWatch.Proofs.Watch.Turnover

namespace StreamWatch

/-!
# With which settings a sweep has a result

A sweep works out three things from the settings that have bounds: the length of the timeout, the
time at which the window of the histories begins, and how much of a history is too much.  It also
stops sessions, which fails only if the time watched is too much for a double.

* `MonitorConfig.Sweepable` — the settings with which nothing of this can fail, at any time in
  the years 2000 to 2100 (`Timestamp.IsCurrent`);
* `Session.Measured` — does a session have times that can be shown, and did so many reports take
  no more from its recorded pauses than they can?
* `isStale_isOk_iff`, `Monitor.cutoff_isOk_iff`, `Monitor.prune_isOk_iff` — when each of the three
  has a result;
* `Monitor.sweep_isOk` — with such settings a sweep of measured sessions has a result.
-/

/-! ### Settings and times -/

/-- The first instant of the year 2000, on any clock. -/
def Timestamp.currentFrom : Int := Date.daysInYears 1999 * Duration.day

/-- The first instant after the year 2100, on any clock. -/
def Timestamp.currentUntil : Int := Date.daysInYears 2100 * Duration.day

/-- Does the clock of a timestamp show one of the years 2000 to 2100? -/
def Timestamp.IsCurrent (t : Timestamp) : Prop :=
  currentFrom ≤ t.localClock ∧ t.localClock < currentUntil

/-- The settings with which a sweep never fails: the timeout is a length of at most 999999999 days,
    the window of the histories begins and ends in the calendar for the years 2000 to 2100, and a
    history may have no negative length. -/
structure MonitorConfig.Sweepable (config : MonitorConfig) : Prop where
  timeout : -86399999913600 ≤ config.limits.staleTimeoutSeconds ∧
    config.limits.staleTimeoutSeconds ≤ 86399999999999
  window : -69241200 ≤ config.recentHistoryHours ∧ config.recentHistoryHours ≤ 17522856
  most : 0 ≤ config.maxRecentSessions

/-- Where nothing else is set, a sweep never fails. -/
theorem MonitorConfig.standard_sweepable : standard.Sweepable :=
  ⟨by decide, by decide, by decide⟩

/-! ### When a part of a sweep has a result -/

/-- Whether a session is stale can be decided exactly if the timeout is an allowed length. -/
theorem isStale_isOk_iff {heardAt now : Timestamp} {timeout : Int} :
    (∃ stale, isStale heardAt (.int timeout) now = .ok stale) ↔
      -86399999913600 ≤ timeout ∧ timeout ≤ 86399999999999 := by
  have hchecked : (∃ length, Duration.checked (timeout * Duration.second) = .ok length) ↔ _ :=
    Duration.checked_isOk_iff
  have hdays : -999999999 ≤ timeout * Duration.second / Duration.day ∧
      timeout * Duration.second / Duration.day ≤ 999999999 ↔
      -86399999913600 ≤ timeout ∧ timeout ≤ 86399999999999 := by
    simp only [Duration.day, Duration.second]
    delta Duration
    omega
  rw [← hdays, ← hchecked]
  rw [isStale_eq]
  unfold Duration.ofSeconds
  constructor
  · rintro ⟨stale, hstale⟩
    obtain ⟨length, hlength, _⟩ := eq_ok_of_map hstale
    exact ⟨length, hlength⟩
  · rintro ⟨length, hlength⟩
    simp only [hlength, Except.map]
    exact ⟨_, rfl⟩

namespace Monitor

variable {τ : Type} {m m' : Monitor τ}

/-- Histories can be pruned if a history may have no negative length, or if there is none. -/
theorem pruneHistories_isOk_iff {cutoff : Moment} {most : Int}
    {histories : Table (List Session)} :
    (pruneHistories cutoff most histories).2 = .ok () ↔ 0 ≤ most ∨ histories = [] := by
  induction histories with
  | nil => exact iff_of_true rfl (.inr rfl)
  | cons entry rest ih =>
    obtain ⟨user, sessions⟩ := entry
    unfold pruneHistories
    split
    · rename_i hnegative
      refine iff_of_false (fun hok => ?_) ?_
      · cases hok
      · rintro (hmost | hnil)
        · omega
        · cases hnil
    · rename_i hmost
      exact iff_of_true (ih.mpr (.inl (by omega))) (.inl (by omega))

/-- The window of the histories has a beginning if it is an allowed length, and begins in the
    calendar. -/
theorem cutoff_isOk_iff {now : Moment} : (∃ cutoff, m.cutoff now = .ok cutoff) ↔
    (∃ length, Duration.ofHours m.config.recentHistoryHours = .ok length) ∧
      Timestamp.clockInRange (now.localClock - m.config.recentHistoryHours * Duration.hour) =
        true := by
  unfold cutoff
  cases hlength : Duration.ofHours m.config.recentHistoryHours with
  | error fault => exact iff_of_false (fun ⟨_, h⟩ => nomatch h) fun ⟨⟨_, h⟩, _⟩ => nomatch h
  | ok length =>
    simp only [bind, Except.bind]
    rw [Moment.shift_isOk_iff, Duration.ofHours_eq_ok hlength]
    exact ⟨fun hrange => ⟨⟨_, rfl⟩, hrange⟩, And.right⟩

/-- Pruning has a result if the window has a beginning, and a history may have no negative length
    or there is none. -/
theorem prune_isOk_iff {now : Moment} : (m.prune now).result = .ok () ↔
    (∃ cutoff, m.cutoff now = .ok cutoff) ∧ (0 ≤ m.config.maxRecentSessions ∨ m.history = []) := by
  unfold prune
  cases hcutoff : m.cutoff now with
  | error fault => exact iff_of_false nofun fun ⟨⟨_, h⟩, _⟩ => nomatch h
  | ok cutoff =>
    simp only
    rw [pruneHistories_isOk_iff]
    exact ⟨fun hmost => ⟨⟨_, rfl⟩, hmost⟩, And.right⟩

/-- A look at an active session in a sweep decides whether it is stale. -/
theorem isStale_of_sweepOne {id : String} {live : Session} {now : Moment}
    {stopped : Option StopResult} (hlive : m.find? id = some live)
    (h : (m.sweepOne id now).result = .ok stopped) : ∃ stale,
      isStale live.lastHeardAt (.int m.config.limits.staleTimeoutSeconds) now = .ok stale := by
  unfold sweepOne at h
  simp only [hlive] at h
  cases hstale : isStale live.lastHeardAt (.int m.config.limits.staleTimeoutSeconds) now with
  | error fault => simp only [hstale, reduceCtorEq] at h
  | ok stale => exact ⟨stale, rfl⟩

/-- With sweepable settings pruning has a result at any time in the years 2000 to 2100. -/
theorem prune_isOk (hconfig : m.config.Sweepable) {now : Moment} (hnow : now.IsCurrent) :
    (m.prune now).result = .ok () := by
  obtain ⟨hlow, hhigh⟩ := hconfig.window
  obtain ⟨hfrom, huntil⟩ := hnow
  refine prune_isOk_iff.mpr ⟨cutoff_isOk_iff.mpr ⟨?_, ?_⟩, .inl hconfig.most⟩
  · refine Duration.checked_isOk_iff.mpr ?_
    simp only [Duration.day, Duration.hour, Duration.second]
    delta Duration
    omega
  · have hyears : Date.daysInYears 1999 = 730119 ∧ Date.daysInYears 2100 = 767009 ∧
        Date.dayCount = 3652059 := by decide
    simp only [Timestamp.currentFrom, Timestamp.currentUntil, hyears.1, hyears.2.1, Duration.day,
      Duration.second] at hfrom huntil
    simp only [Timestamp.clockInRange, hyears.2.2, Duration.day, Duration.hour, Duration.second,
      decide_eq_true_eq]
    omega

end Monitor

/-! ### Measured sessions -/

/-- Are the times of a session such that a clock can show them, and is what is recorded of its
    pauses no less than so many reports can have made of nothing?  Times may come in any order,
    so that a pause may seem to end before it began. -/
structure Session.Measured (s : Session) (reports : Nat) : Prop where
  started : s.startedAt.Shown
  heard : ∀ t, s.lastSeenAt = some t → t.Shown
  paused : ∀ t, s.lastPausedAt = some t → t.Shown
  recorded : -((reports * twoPow 64 : Nat) : Int) ≤ s.pausedDuration

/-- A time can be shown as universal time if it can be shown without an offset. -/
theorem Timestamp.Shown.assumeUniversal {t : Timestamp} (h : t.Shown) : t.assumeUniversal.Shown :=
  ⟨h.clock, h.offset⟩

/-- A pause that seems to end before it began does so by no more than 64 binary places hold. -/
theorem PauseRecord.neg_le_openFor {pauses : PauseRecord} {now : Timestamp}
    (hpaused : ∀ t, pauses.lastPausedAt = some t → t.Shown) (hnow : now.Shown) :
    -((twoPow 64 : Nat) : Int) ≤ pauses.openFor now := by
  unfold openFor
  split
  · rename_i start hstart
    exact hnow.neg_le_millisecondsSince (hpaused start hstart)
  · omega

namespace Session.Measured

variable {s s' : Session} {reports : Nat}

/-- More reports can have made more of the pauses. -/
theorem mono {more : Nat} (h : s.Measured reports) (hle : reports ≤ more) : s.Measured more := by
  refine ⟨h.started, h.heard, h.paused, ?_⟩
  have hrecorded := h.recorded
  have hpower : reports * twoPow 64 ≤ more * twoPow 64 := Nat.mul_le_mul_right _ hle
  omega

/-- A measured session is registered as one. -/
theorem of_admits {τ : Type} {m : Monitor τ} {now : Moment} (h : s.Measured reports)
    (hnow : now.Shown) (hadmits : m.Admits s now s') : s'.Measured reports := by
  obtain ⟨link, rfl, _⟩ := hadmits
  refine ⟨h.started, fun t ht => ?_, h.paused, h.recorded⟩
  obtain rfl := Option.some.inj ht
  cases hseen : s.lastSeenAt with
  | none => exact hnow
  | some t => exact h.heard t hseen

/-- When a session was last heard of can be shown. -/
theorem lastHeardAt (h : s.Measured reports) : s.lastHeardAt.Shown := by
  unfold Session.lastHeardAt
  cases hseen : s.lastSeenAt with
  | none => exact h.started
  | some t => exact h.heard t hseen

/-- One report leaves a session measured, and counts as one more. -/
theorem advance (h : s.Measured reports) {state : PlaybackState} {now : Timestamp}
    {position : Datum} (hnow : now.Shown) (hadvance : s.advance state now position = .ok s') :
    s'.Measured (reports + 1) := by
  rw [advance_eq] at hadvance
  obtain ⟨p, rfl⟩ := movedTo_eq_ok hadvance
  have hrecorded := h.recorded
  have hopen : -((twoPow 64 : Nat) : Int) ≤ s.pauses.openFor now :=
    PauseRecord.neg_le_openFor h.paused hnow
  have hmore : (reports + 1) * twoPow 64 = reports * twoPow 64 + twoPow 64 := Nat.succ_mul ..
  have hpauses : (∀ t, (s.pauses.advance (some s.state) (some state) now).lastPausedAt = some t →
      t.Shown) ∧ -(((reports + 1) * twoPow 64 : Nat) : Int) ≤
        (s.pauses.advance (some s.state) (some state) now).pausedDuration := by
    unfold PauseRecord.advance
    split
    · refine ⟨fun t ht => ?_, ?_⟩
      · obtain rfl := Option.some.inj ht
        exact hnow.assumeUniversal
      · simp only [Session.pauses]
        omega
    · refine ⟨nofun, ?_⟩
      simp only [Session.pauses] at hopen ⊢
      omega
    · refine ⟨h.paused, ?_⟩
      simp only [Session.pauses]
      omega
  refine ⟨h.started, fun t ht => ?_, hpauses.1, hpauses.2⟩
  obtain rfl := Option.some.inj ht
  exact hnow.assumeUniversal

/-- A measured session can be stopped, unless it had an enormous number of reports. -/
theorem stop_isOk (h : s.Measured reports) (hreports : reports ≤ twoPow 896)
    {stoppedAt : Timestamp} (hstopped : stoppedAt.Shown) {mode : StopMode}
    (hmode : mode.HasNumber) : ∃ result, s.stop stoppedAt mode = .ok result := by
  have hbound : (s.stopDuration stoppedAt).duration.natAbs < twoPow 962 := by
    have hlength := hstopped.millisecondsSince_lt h.started
    have hrecorded := h.recorded
    have hopen : -((twoPow 64 : Nat) : Int) ≤ s.pauses.openFor stoppedAt :=
      PauseRecord.neg_le_openFor h.paused hstopped
    have hmany : reports * twoPow 64 ≤ twoPow 960 := by
      rw [show (960 : Nat) = 896 + 64 from rfl, twoPow_add]
      exact Nat.mul_le_mul_right _ hreports
    have hsmall : twoPow 64 ≤ twoPow 960 := twoPow_le (by decide)
    have hpos : 0 < twoPow 960 := twoPow_pos 960
    have hlarge : twoPow 962 = twoPow 960 * 2 * 2 := by rw [twoPow_succ, twoPow_succ]
    simp only [Session.stopDuration]
    omega
  obtain ⟨result, hresult, _⟩ :=
    s.stop_eq_ok_of_lt stoppedAt (by decide : 962 ≤ 1000) hmode hbound
  exact ⟨result, hresult⟩

end Session.Measured

/-! ### Sweeps -/

namespace Monitor

variable {τ : Type} {m : Monitor τ} {reports : Nat}

/-- The threshold of a monitor's stops is a number. -/
theorem stopMode_hasNumber (m : Monitor τ) (session : Session) (forced : Datum) :
    (m.stopMode session forced).HasNumber := by
  intro threshold hthreshold
  obtain ⟨x, _, rfl⟩ := Option.map_eq_some_iff.mp hthreshold
  rfl

/-- A look at one session in a sweep has a result. -/
theorem sweepOne_isOk (hconfig : m.config.Sweepable)
    (hmeasured : ∀ s ∈ m.activeSessions, s.Measured reports) (hreports : reports ≤ twoPow 896)
    (id : String) (now : Moment) : ∃ stopped, (m.sweepOne id now).result = .ok stopped := by
  unfold sweepOne
  cases hlive : m.find? id with
  | none => exact ⟨none, rfl⟩
  | some live =>
    obtain ⟨stale, hstale⟩ : ∃ stale, isStale live.lastHeardAt
        (.int m.config.limits.staleTimeoutSeconds) now = .ok stale :=
      isStale_isOk_iff.mpr hconfig.timeout
    simp only [hstale]
    cases stale with
    | false => exact ⟨none, rfl⟩
    | true =>
      have hlive' := hmeasured live (mem_active_of_find? hlive)
      obtain ⟨result, hresult⟩ := hlive'.stop_isOk hreports hlive'.lastHeardAt
        (m.stopMode_hasNumber live (.bool true))
      refine ⟨some result, ?_⟩
      show ((m.finish live live.lastHeardAt (.bool true)).result).map some = _
      rw [finish_of_stop hresult]
      rfl

/-- A sweep over some sessions has a result, and leaves the settings and no other sessions. -/
theorem sweepSessions_isOk (hconfig : m.config.Sweepable)
    (hmeasured : ∀ s ∈ m.activeSessions, s.Measured reports) (hreports : reports ≤ twoPow 896)
    (now : Moment) (ids : List String) :
    (∃ stopped, (m.sweepSessions now ids).result = .ok stopped) ∧
      (m.sweepSessions now ids).monitor.config = m.config := by
  induction ids generalizing m with
  | nil => exact ⟨⟨[], rfl⟩, rfl⟩
  | cons id rest ih =>
    obtain ⟨stopped, hstopped⟩ := sweepOne_isOk hconfig hmeasured hreports id now
    obtain ⟨hmonitor, hresult⟩ := sweepSessions_cons_of_ok hstopped rest
    have hsame : (m.sweepOne id now).monitor.config = m.config :=
      (m.sweepOne_aftermath id now).config
    -- What is active after the first one was active before.
    have hleft : ∀ s ∈ (m.sweepOne id now).monitor.activeSessions, s.Measured reports := by
      intro s hs
      obtain hbefore | ⟨_, _, _, _, hmove, _⟩ | ⟨_, _, _, _, _, _, hmove, _⟩ :=
        (m.sweepOne_turnover id now (.sweepOn 0)).active_origin hs
      · exact hmeasured s hbefore
      · cases hmove
      · cases hmove
    obtain ⟨⟨others, hothers⟩, hconfig'⟩ := ih (hsame ▸ hconfig) hleft
    refine ⟨⟨stopped.toList ++ others, ?_⟩, ?_⟩
    · rw [hresult, hothers]
      rfl
    · rw [hmonitor, hconfig', hsame]

/-- **A sweep has a result** with sweepable settings, at any time in the years 2000 to 2100. -/
theorem sweep_isOk (hconfig : m.config.Sweepable)
    (hmeasured : ∀ s ∈ m.activeSessions, s.Measured reports) (hreports : reports ≤ twoPow 896)
    {now : Timestamp} (hnow : now.IsCurrent) : ∃ stopped, (m.sweep now).result = .ok stopped := by
  obtain ⟨⟨stopped, hstopped⟩, hsame⟩ :=
    sweepSessions_isOk hconfig hmeasured hreports now.assumeUniversal m.active.keys
  have hcurrent : now.assumeUniversal.IsCurrent := hnow
  refine ⟨stopped, ?_⟩
  unfold sweep
  simp only
  rw [(Outcome.andThen_of_ok hstopped _).2]
  show ((Monitor.prune _ now.assumeUniversal).result).map (fun _ => stopped) = _
  rw [prune_isOk (hsame ▸ hconfig) hcurrent]
  rfl

end Monitor

end StreamWatch
