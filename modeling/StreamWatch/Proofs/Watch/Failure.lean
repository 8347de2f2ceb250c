import StreamWatch.Proofs.Monitor.Sweepable
import StreamWatch.Proofs.Watch.Resumption
import StreamWatch.Validation.Context

namespace StreamWatch

/-!
# What a call leaves behind that fails

A report and a stop work out everything before they change anything, so a fault of theirs leaves
a monitor as it was.  The other calls change it step by step: a start, which can have a fault only
until its session is registered, since rules are evaluated without faults, and a sweep:

* `Monitor.SameState` — two monitors with the same sessions and the same matches that wait;
* `Monitor.sameState_addLock_iff` — a start that fails has made a lock for its session;
* `Monitor.sweepSessions_of_error`, `Monitor.prune_of_error` — where a sweep fails, and what it
  has done before;
* `Monitor.Keyed.sweepSessions` — every session that a sweep has stopped is missing afterwards;
* `Watch.failures_sameState` — which calls that fail leave everything as it was.
-/

namespace Monitor

variable {τ : Type} {m m' : Monitor τ}

/-- Do two monitors have the same sessions, active and stopped, with the same locks, and the same
    matches that wait? -/
structure SameState (m m' : Monitor τ) : Prop extends m.SameSessions m' where
  pending : m'.pending = m.pending

/-- Nothing changes where nothing happens. -/
theorem SameState.refl (m : Monitor τ) : m.SameState m := ⟨.refl m, rfl⟩

/-! ### Starts -/

/-- To make a lock for a session makes no difference exactly if it has one. -/
theorem sameState_addLock_iff {id : String} :
    m.SameState (m.addLock id) ↔ m.isLocked id = true := by
  unfold addLock
  split
  · rename_i hlocked
    exact iff_of_true (.refl m) hlocked
  · rename_i hfree
    refine iff_of_false (fun hsame => ?_) hfree
    -- The locks are longer by one than they were.
    have hlength : (m.locks ++ [id]).length = m.locks.length := congrArg _ hsame.locks
    rw [List.length_append, List.length_singleton] at hlength
    omega

/-! ### The sessions of a sweep -/

/-- A sweep over some sessions that fails does so at one of them, and has looked at those in front
    of it without a fault. -/
theorem sweepSessions_of_error {now : Moment} {ids : List String} {fault : Fault}
    (h : (m.sweepSessions now ids).result = .error fault) :
    ∃ looked id rest stopped, ids = looked ++ id :: rest ∧
      (m.sweepSessions now looked).result = .ok stopped ∧
      ((m.sweepSessions now looked).monitor.sweepOne id now).result = .error fault ∧
      (m.sweepSessions now ids).monitor = (m.sweepSessions now looked).monitor := by
  induction ids generalizing m with
  | nil => cases h
  | cons id rest ih =>
    cases hfirst : (m.sweepOne id now).result with
    | error fault' =>
      obtain ⟨hmonitor, hresult⟩ := sweepSessions_cons_of_error hfirst rest
      obtain rfl : fault' = fault := Except.error.inj (hresult.symm.trans h)
      exact ⟨[], id, rest, [], rfl, rfl, hfirst, hmonitor.trans (sweepOne_of_error hfirst)⟩
    | ok found =>
      obtain ⟨hmonitor, hresult⟩ := sweepSessions_cons_of_ok hfirst rest
      have hrest : ((m.sweepOne id now).monitor.sweepSessions now rest).result = .error fault := by
        rw [hresult] at h
        exact eq_error_of_map h
      obtain ⟨looked, other, others, stopped, rfl, hlooked, hfault, hsame⟩ := ih hrest
      obtain ⟨hmonitor', hresult'⟩ := sweepSessions_cons_of_ok hfirst looked
      refine ⟨id :: looked, other, others, found.toList ++ stopped, rfl, ?_, ?_, ?_⟩
      · rw [hresult', hlooked]
        rfl
      · rw [hmonitor']
        exact hfault
      · rw [hmonitor, hsame, hmonitor']

/-- A session that a sweep stops is missing afterwards. -/
theorem Keyed.sweepOne (h : m.Keyed) {id : String} {now : Moment} {found : Option StopResult}
    (hfound : (m.sweepOne id now).result = .ok found) :
    (m.sweepOne id now).monitor.Keyed ∧
      (m.sweepOne id now).monitor.active.length + found.toList.length = m.active.length ∧
      (found = none → (m.sweepOne id now).monitor = m) := by
  refine ⟨h.turnover (m.sweepOne_turnover id now (.sweepOn 0)), ?_⟩
  obtain ⟨rfl, hmonitor⟩ | ⟨live, stopped, hlive, _, rfl, hstopped, hmonitor⟩ :=
    sweepOne_cases hfound
  · rw [hmonitor]
    exact ⟨rfl, fun _ => rfl⟩
  · refine ⟨?_, fun hnone => absurd hnone (Option.some_ne_none _)⟩
    have hactive : m.active.get? id = some live := get?_of_find? hlive
    have herased := (Table.values_perm h.distinct id).length_eq
    rw [hmonitor, (finish_eq_ok hstopped).2, h.ownId id live hactive]
    rw [hactive] at herased
    simp only [Table.values, List.length_map, Option.toList_some, List.cons_append,
      List.nil_append, List.length_cons] at herased
    show (m.active.erase id).length + 1 = m.active.length
    exact herased.symm

/-- **Every session that a sweep has stopped is missing afterwards**, and if it has stopped none
    nothing has happened. -/
theorem Keyed.sweepSessions (h : m.Keyed) {now : Moment} {ids : List String}
    {stopped : List StopResult} (hstopped : (m.sweepSessions now ids).result = .ok stopped) :
    (m.sweepSessions now ids).monitor.active.length + stopped.length = m.active.length ∧
      (stopped = [] → (m.sweepSessions now ids).monitor = m) := by
  induction ids generalizing m stopped with
  | nil =>
    obtain rfl := Except.ok.inj hstopped
    exact ⟨rfl, fun _ => rfl⟩
  | cons id rest ih =>
    cases hfirst : (m.sweepOne id now).result with
    | error fault =>
      rw [(sweepSessions_cons_of_error hfirst rest).2] at hstopped
      cases hstopped
    | ok found =>
      obtain ⟨hmonitor, hresult⟩ := sweepSessions_cons_of_ok hfirst rest
      rw [hresult] at hstopped
      obtain ⟨others, hothers, rfl⟩ := eq_ok_of_map hstopped
      obtain ⟨hkeyed, hcount, hsame⟩ := h.sweepOne hfirst
      obtain ⟨hcount', hsame'⟩ := ih hkeyed hothers
      rw [hmonitor, List.length_append]
      refine ⟨by omega, fun hnone => ?_⟩
      obtain ⟨hnone, hnone'⟩ := List.append_eq_nil_iff.mp hnone
      rw [hsame' hnone', hsame (Option.toList_eq_nil_iff.mp hnone)]

/-- A sweep over some sessions leaves everything as it was exactly if it stops none. -/
theorem Keyed.sameState_sweepSessions_iff (h : m.Keyed) {now : Moment} {ids : List String}
    {stopped : List StopResult} (hstopped : (m.sweepSessions now ids).result = .ok stopped) :
    m.SameState (m.sweepSessions now ids).monitor ↔ stopped = [] := by
  obtain ⟨hcount, hsame⟩ := h.sweepSessions hstopped
  constructor
  · intro hstate
    rw [hstate.active] at hcount
    exact List.length_eq_zero_iff.mp (by omega)
  · intro hnone
    rw [hsame hnone]
    exact .refl m

/-- A sweep over some sessions leaves the matches alone. -/
theorem sweepSessions_sameQueue (m : Monitor τ) (now : Moment) (ids : List String) :
    m.SameQueue (m.sweepSessions now ids).monitor := by
  induction ids generalizing m with
  | nil => exact .refl m
  | cons id rest ih =>
    have hfirst := m.sweepOne_sameQueue id now
    cases hresult : (m.sweepOne id now).result with
    | error fault =>
      rw [(sweepSessions_cons_of_error hresult rest).1]
      exact hfirst
    | ok found =>
      obtain ⟨hpending, hreceiver⟩ := ih (m.sweepOne id now).monitor
      rw [(sweepSessions_cons_of_ok hresult rest).1]
      exact ⟨hpending.trans hfirst.pending, hreceiver.trans hfirst.hasReceiver⟩

/-! ### The histories of a sweep -/

/-- Does pruning that fails lose a session before?  There is a session in the first history, and
    the window of the histories has a beginning. -/
def LosesHistory (m : Monitor τ) (now : Moment) : Prop :=
  (∃ cutoff, m.cutoff now = .ok cutoff) ∧
    ∃ user session rest others, m.history = (user, session :: rest) :: others

/-- Pruning that fails has done nothing, or has emptied the first history. -/
theorem prune_of_error {now : Moment} {fault : Fault}
    (h : (m.prune now).result = .error fault) :
    (m.prune now).monitor.active = m.active ∧
      (m.SameState (m.prune now).monitor ↔ ¬ m.LosesHistory now) := by
  unfold prune at h ⊢
  cases hcutoff : m.cutoff now with
  | error fault' =>
    refine ⟨rfl, iff_of_true (.refl m) fun hloses => ?_⟩
    obtain ⟨cutoff, hok⟩ := hloses.1
    rw [hcutoff] at hok
    cases hok
  | ok cutoff =>
    simp only [hcutoff] at h ⊢
    refine ⟨trivial, ?_⟩
    cases hhistory : m.history with
    | nil =>
      rw [hhistory] at h
      cases h
    | cons entry others =>
      obtain ⟨user, sessions⟩ := entry
      -- There is a fault only if a history is to be shorter than nothing.
      have hmost : m.config.maxRecentSessions < 0 := by
        by_contra hmost
        have hok : (pruneHistories cutoff m.config.maxRecentSessions m.history).2 = .ok () :=
          pruneHistories_isOk_iff.mpr (.inl (Int.not_lt.mp hmost))
        rw [hok] at h
        cases h
      have hpruned : (pruneHistories cutoff m.config.maxRecentSessions
          ((user, sessions) :: others)).1 = (user, []) :: others := by
        rw [pruneHistories, if_pos hmost]
      rw [hpruned]
      cases sessions with
      | nil =>
        refine iff_of_true ⟨⟨rfl, rfl, hhistory.symm⟩, rfl⟩ fun hloses => ?_
        obtain ⟨-, user', session, rest, others', hfirst⟩ := hloses
        rw [hhistory] at hfirst
        cases hfirst
      | cons session rest =>
        refine iff_of_false (fun hsame => ?_) fun hkept => ?_
        · have hemptied : (user, []) :: others = (user, session :: rest) :: others :=
            hsame.history.trans hhistory
          cases hemptied
        · exact hkept ⟨⟨cutoff, hcutoff⟩, user, session, rest, others, hhistory⟩

/-- Where a sweep fails: at one of the active sessions, or at the histories when it has looked at
    all of them. -/
theorem sweep_of_error {now : Timestamp} {fault : Fault}
    (h : (m.sweep now).result = .error fault) :
    ∃ looked left stopped, m.active.keys = looked ++ left ∧
      (m.sweepSessions now.assumeUniversal looked).result = .ok stopped ∧
      let found := (m.sweepSessions now.assumeUniversal looked).monitor
      (∃ id rest, left = id :: rest ∧
          (found.sweepOne id now.assumeUniversal).result = .error fault ∧
          (m.sweep now).monitor = found) ∨
        (left = [] ∧ (found.prune now.assumeUniversal).result = .error fault ∧
          (m.sweep now).monitor = (found.prune now.assumeUniversal).monitor) := by
  unfold sweep at h ⊢
  simp only at h ⊢
  cases hswept : (m.sweepSessions now.assumeUniversal m.active.keys).result with
  | error fault' =>
    obtain ⟨hmonitor, hresult⟩ := Outcome.andThen_of_error hswept fun stopped m =>
      (m.prune now.assumeUniversal).map fun _ => stopped
    obtain rfl : fault' = fault := Except.error.inj (hresult.symm.trans h)
    obtain ⟨looked, id, rest, stopped, hkeys, hlooked, hfault, hsame⟩ :=
      sweepSessions_of_error hswept
    exact ⟨looked, id :: rest, stopped, hkeys, hlooked,
      .inl ⟨id, rest, rfl, hfault, hmonitor.trans hsame⟩⟩
  | ok stopped =>
    obtain ⟨hmonitor, hresult⟩ := Outcome.andThen_of_ok hswept fun stopped m =>
      (m.prune now.assumeUniversal).map fun _ => stopped
    have hfault := eq_error_of_map (hresult.symm.trans h)
    exact ⟨m.active.keys, [], stopped, (List.append_nil _).symm, hswept,
      .inr ⟨rfl, hfault, hmonitor⟩⟩

end Monitor

namespace Watch

variable {τ : Type} [Sub τ] [LE τ] [DecidableLE τ]

/-- **Which calls that fail leave everything as it was.**  However a monitor was used before, a
    report or a stop that fails changes nothing.  A start that fails changes nothing but that
    reports may change its session from now on, so it leaves everything as it was exactly if they
    could do so before.  A sweep that fails leaves the matches alone; what it leaves of the
    sessions depends on where it fails.  If it does so at one of the active sessions, then all is
    as it was exactly if none of those in front of it was stopped; and if it does so at the
    histories, then exactly if no session was stopped, and none is lost with a history that was
    emptied before the fault. -/
theorem failures_sameState (registry : Registry) (server : Server) (config : MonitorConfig)
    (rules : List Rule) (hasReceiver : Bool) (cooldown : τ) (moves : List (Move τ)) :
    let m := ((fresh (.fresh server config rules hasReceiver cooldown)).run registry moves).monitor
    (∀ id stateName position now fault,
      (m.update id stateName position now).result = .error fault →
        m.SameState (m.update id stateName position now).monitor) ∧
    (∀ id stoppedAt forced fault, (m.stopSession id stoppedAt forced).result = .error fault →
      m.SameState (m.stopSession id stoppedAt forced).monitor) ∧
    (∀ session user now fault, (m.register session user now).result = .error fault →
      (m.register session user now).monitor = m.addLock session.id ∧
        (m.SameState (m.register session user now).monitor ↔ m.isLocked session.id = true)) ∧
    ∀ now fault, (m.sweep now).result = .error fault →
      (m.sweep now).monitor.pending = m.pending ∧
      ∃ looked left stopped, m.active.keys = looked ++ left ∧
        (m.sweepSessions now.assumeUniversal looked).result = .ok stopped ∧
        let found := (m.sweepSessions now.assumeUniversal looked).monitor
        (∃ id rest, left = id :: rest ∧
            (found.sweepOne id now.assumeUniversal).result = .error fault ∧
            (m.SameState (m.sweep now).monitor ↔ stopped = [])) ∨
          (left = [] ∧ (found.prune now.assumeUniversal).result = .error fault ∧
            (m.SameState (m.sweep now).monitor ↔
              stopped = [] ∧ ¬ m.LosesHistory now.assumeUniversal)) := by
  intro m
  have hkeyed : m.Keyed :=
    keyed_run registry (Monitor.Keyed.fresh server config rules hasReceiver cooldown) moves
  refine ⟨fun id stateName position now fault h => ?_, fun id stoppedAt forced fault h => ?_,
    fun session user now fault h => ?_, fun now fault h => ?_⟩
  · rw [Monitor.update_of_error h]
    exact .refl m
  · rw [Monitor.stopSession_of_error h]
    exact .refl m
  · have hmonitor := Monitor.register_of_error h
    refine ⟨hmonitor, ?_⟩
    rw [hmonitor]
    exact Monitor.sameState_addLock_iff
  · obtain ⟨looked, left, stopped, hkeys, hlooked, hwhere⟩ := Monitor.sweep_of_error h
    have hqueue := m.sweepSessions_sameQueue now.assumeUniversal looked
    have hstate := hkeyed.sameState_sweepSessions_iff hlooked
    obtain ⟨id, rest, hleft, hfault, hmonitor⟩ | ⟨hleft, hfault, hmonitor⟩ := hwhere
    · rw [hmonitor]
      exact ⟨hqueue.pending, looked, left, stopped, hkeys, hlooked,
        .inl ⟨id, rest, hleft, hfault, hstate⟩⟩
    · obtain ⟨hactive, hlost⟩ := Monitor.prune_of_error hfault
      rw [hmonitor]
      refine ⟨(Monitor.prune_sameQueue _ _).pending.trans hqueue.pending, looked, left, stopped,
        hkeys, hlooked, .inr ⟨hleft, hfault, fun hsame => ?_, fun ⟨hnone, hkept⟩ => ?_⟩⟩
      · -- The histories have nothing to do with the active sessions, which tell of the stops.
        obtain ⟨hcount, hsame'⟩ := hkeyed.sweepSessions hlooked
        have hnone : stopped = [] := by
          rw [← hactive, hsame.active] at hcount
          exact List.length_eq_zero_iff.mp (by omega)
        rw [hsame' hnone] at hsame hlost
        exact ⟨hnone, hlost.mp hsame⟩
      · have hsame : m.SameState _ := hstate.mpr hnone
        rw [(hkeyed.sweepSessions hlooked).2 hnone] at hlost ⊢
        exact hlost.mpr hkept

/-- Settings by which a session may be resumed after more hours than a length of time can have. -/
def longGap : MonitorConfig :=
  { MonitorConfig.standard with
    limits := { SessionLimits.standard with maxGroupGapHours := 1000000000000 } }

/-- Ann plays the film, and stops after five minutes. -/
def brokenOffFilm : List (Move Int) :=
  [.start (filmOfAnn "first" 0) ann (atSecond 0),
    .stop (.text "first") (atSecond 300) (.bool false)]

/-- With these settings, and a history that is to be shorter than nothing, calls of every kind
    fail after that.  A report and a stop of something that is no id change nothing, a start leaves
    its lock, and a sweep loses the history of ann. -/
theorem failures_sameState_brokenOffFilm :
    let careless := { longGap with maxRecentSessions := -1 }
    let now := atSecond 330
    let m := ((fresh (.fresh ⟨"server", "Home", none⟩ careless [] false 60)).run .standard
      brokenOffFilm).monitor
    ((m.update (.list []) "playing" .null now).result.isOk = false ∧
      m.SameState (m.update (.list []) "playing" .null now).monitor) ∧
    ((m.stopSession (.list []) now (.bool false)).result.isOk = false ∧
      m.SameState (m.stopSession (.list []) now (.bool false)).monitor) ∧
    ((m.register (filmOfAnn "second" 330) ann now).result.isOk = false ∧
      (m.register (filmOfAnn "second" 330) ann now).monitor = m.addLock "second") ∧
    (m.sweep now).result.isOk = false ∧ m.LosesHistory now ∧
      ¬ m.SameState (m.sweep now).monitor := by
  intro careless now m
  obtain ⟨hreport, hstop, hstart, hsweep⟩ := failures_sameState (τ := Int) .standard
    ⟨"server", "Home", none⟩ careless [] false 60 brokenOffFilm
  have hloses : m.LosesHistory now := ⟨⟨_, rfl⟩, _, _, _, _, rfl⟩
  refine ⟨⟨rfl, hreport _ _ _ _ _ rfl⟩, ⟨rfl, hstop _ _ _ _ rfl⟩, ⟨rfl, (hstart _ _ _ _ rfl).1⟩,
    rfl, hloses, fun hsame => ?_⟩
  obtain ⟨_, looked, left, stopped, hkeys, _, ⟨id, rest, rfl, _⟩ | ⟨_, _, hiff⟩⟩ :=
    hsweep now _ rfl
  · -- No session is active, so the sweep has none to fail at.
    have hnone : ([] : List String) = looked ++ id :: rest := hkeys
    cases (List.append_eq_nil_iff.mp hnone.symm).2
  · exact (hiff.mp hsame).2 hloses

/-- Such settings are accepted.  When ann plays the film again, the start fails, and a lock is left
    for a session that is not active. -/
theorem not_sameState_longGap :
    MonitorConfig.ofGiven (.record [("limits",
        .record [("max_group_gap_hours", .int 1000000000000)])]) = .accepted longGap ∧
    let m := ((fresh (.fresh ⟨"server", "Home", none⟩ longGap [] false 60)).run .standard
      brokenOffFilm).monitor
    let failed := m.register (filmOfAnn "second" 330) ann (atSecond 330)
    (∃ fault, failed.result = .error fault) ∧ m.locks = [] ∧ failed.monitor.locks = ["second"] ∧
      failed.monitor.active.keys = [] ∧ ¬ m.SameState failed.monitor := by
  refine ⟨rfl, ?_⟩
  intro m failed
  refine ⟨⟨_, rfl⟩, rfl, rfl, rfl, fun hsame => ?_⟩
  have hlocks : ["second"] = ([] : List String) := hsame.locks
  cases hlocks

end Watch

end StreamWatch
