import StreamWatch.Proofs.Monitor.Sweepable
import StreamWatch.Proofs.Watch.Guarded

namespace StreamWatch

/-!
# A sweep stops the stale sessions and no others

A sweep goes through the active sessions while they get fewer under it.  It stops those that
nothing was heard of for too long, each as if it had been stopped when it was last heard of:

* `Session.Stale` — was nothing heard of a session for longer than the timeout?
* `Monitor.Lapses` — how a stale session ends, which does not depend on when the sweep comes;
* `Monitor.concluded` — a monitor once some sessions have ended, one after the other;
* `Monitor.sweepOne_found`, `Monitor.sweepSessions_found` — what a look at one active session
  comes to, and hence a look at some of them;
* `Monitor.Swept` — the monitor that a sweep leaves, as a whole;
* `Watch.sweep_stops_stale` — a sweep without a fault leaves that, and a second one at the same
  time finds nothing to stop.
-/

/-! ### Stale sessions -/

namespace Session

/-- Was nothing heard of a session for strictly longer than the timeout? -/
def Stale (s : Session) (limits : SessionLimits) (now : Timestamp) : Prop :=
  limits.staleTimeoutSeconds * Duration.second < now.instant - s.lastHeardAt.instant

instance (s : Session) (limits : SessionLimits) (now : Timestamp) :
    Decidable (s.Stale limits now) :=
  inferInstanceAs (Decidable (_ < _))

/-- A stale session stays so while nothing is heard of it. -/
theorem Stale.mono {s : Session} {limits : SessionLimits} {now later : Timestamp}
    (h : s.Stale limits now) (hlater : now.instant ≤ later.instant) : s.Stale limits later := by
  unfold Stale at h ⊢
  omega

end Session

/-- Where it can be decided whether a session is stale, it is decided rightly. -/
theorem isStale_eq_ok {s : Session} {limits : SessionLimits} {now : Timestamp} {stale : Bool}
    (h : isStale s.lastHeardAt (.int limits.staleTimeoutSeconds) now = .ok stale) :
    stale = decide (s.Stale limits now) := by
  rw [isStale_eq] at h
  obtain ⟨timeout, htimeout, rfl⟩ := eq_ok_of_map h
  obtain rfl := Duration.checked_eq_ok htimeout
  rfl

/-- What is left without one name and then without some others is what is left without all. -/
theorem filter_ne_filter_not_mem {α : Type} (name : α → String) (xs : List α) (first : String)
    (others : List String) :
    (xs.filter fun x => name x ≠ first).filter (fun x => name x ∉ others) =
      xs.filter fun x => name x ∉ first :: others := by
  rw [List.filter_filter]
  refine List.filter_congr fun x _ => ?_
  simp only [List.mem_cons, not_or, Bool.decide_and, Bool.and_comm, ne_eq]

namespace Monitor

variable {τ : Type} {m : Monitor τ} {now : Timestamp}

/-- Does a stale session end with this result?  It is stopped by force, as if that had been when
    it was last heard of, so that nothing after that counts.  The time of the sweep plays no
    part. -/
structure Lapses (m : Monitor τ) (s : Session) (result : StopResult) : Prop where
  stop : s.stop s.lastHeardAt (m.stopMode s (.bool true)) = .ok result
  state : result.session.state = .stopped
  forced : result.session.forceStopped.truthy = true
  flag : ∀ before, s.forceStopped = .bool before → result.session.forceStopped = .bool true
  stoppedAt : result.session.stoppedAt = some s.lastHeardAt.assumeUniversal
  duration : result.session.duration = some (max 0
    (s.lastHeardAt.millisecondsSince s.startedAt -
      (s.pausedDuration + s.pauses.openFor s.lastHeardAt)))

/-- A session that is stopped by force when it was last heard of lapses. -/
theorem Lapses.of_stop {s : Session} {result : StopResult}
    (h : s.stop s.lastHeardAt (m.stopMode s (.bool true)) = .ok result) : m.Lapses s result := by
  obtain ⟨watched, shortSession, hsession⟩ := Session.stop_session_eq h
  have hforced : result.session.forceStopped = s.forceStopped.orElse (.bool true) := by
    rw [hsession]
    rfl
  refine ⟨h, (Session.stop_facts h).2.2, ?_, fun before hbefore => ?_, by rw [hsession], ?_⟩
  · rw [hforced, Datum.orElse]
    split
    · assumption
    · rfl
  · rw [hforced, hbefore]
    cases before <;> rfl
  · rw [hsession]
    rfl

/-! ### The ends of several sessions -/

/-- The monitor once some sessions have ended, one after the other. -/
def concluded (m : Monitor τ) (stopped : List StopResult) : Monitor τ :=
  stopped.foldl (fun m result => (m.release result.session.id).archive result.session) m

/-- The ends of sessions change nothing but the active sessions, the locks and the histories. -/
theorem concluded_eq (m : Monitor τ) (stopped : List StopResult) :
    m.concluded stopped =
      { m with
        active := (m.concluded stopped).active
        locks := (m.concluded stopped).locks
        history := (m.concluded stopped).history } := by
  induction stopped generalizing m with
  | nil => rfl
  | cons result rest ih => exact ih ((m.release result.session.id).archive result.session)

/-- The sessions that ended are not active any more, and all others are as they were. -/
theorem concluded_active (m : Monitor τ) (stopped : List StopResult) :
    (m.concluded stopped).active =
      m.active.filter fun entry => entry.1 ∉ stopped.map (·.session.id) := by
  induction stopped generalizing m with
  | nil => exact (List.filter_true _).symm
  | cons result rest ih =>
    exact (ih _).trans (filter_ne_filter_not_mem Prod.fst m.active result.session.id _)

/-- Reports may change those that they could change before, but for the sessions that ended. -/
theorem concluded_locks (m : Monitor τ) (stopped : List StopResult) :
    (m.concluded stopped).locks = m.locks.filter (· ∉ stopped.map (·.session.id)) := by
  induction stopped generalizing m with
  | nil => exact (List.filter_true _).symm
  | cons result rest ih =>
    exact (ih _).trans (filter_ne_filter_not_mem id m.locks result.session.id _)

/-- The sessions that ended stand behind the others of their users, in the order in which they
    ended. -/
theorem historyOf_concluded (m : Monitor τ) (stopped : List StopResult) (userId : String) :
    (m.concluded stopped).historyOf userId =
      m.historyOf userId ++ (stopped.map StopResult.session).filter (·.userId = userId) := by
  induction stopped generalizing m with
  | nil => exact (List.append_nil _).symm
  | cons result rest ih =>
    refine (ih _).trans ?_
    rw [historyOf_archive, List.map_cons, List.filter_cons]
    simp only [decide_eq_true_eq]
    split
    · exact List.append_assoc _ _ _
    · rfl

/-! ### The sessions of a sweep -/

/-- Once a session has ended the others are found as before. -/
theorem found_of_release {id : String} {entries : Table Session} (hid : id ∉ entries.keys)
    (hfound : ∀ entry ∈ entries, m.find? entry.1 = some entry.2 ∧ entry.2.id = entry.1)
    (stopped : Session) : ∀ entry ∈ entries,
      ((m.release id).archive stopped).find? entry.1 = some entry.2 ∧ entry.2.id = entry.1 := by
  intro entry hentry
  obtain ⟨hlive, hown⟩ := hfound entry hentry
  have hmem : entry.1 ∈ entries.keys := List.mem_map_of_mem hentry
  have hne : entry.1 ≠ id := fun e => hid (e ▸ hmem)
  exact ⟨(find?_release_of_ne hne).trans hlive, hown⟩

/-- What a look at an active session comes to in a sweep, if it has no fault.  Nothing happens
    unless the session is stale, and if it is, it lapses. -/
theorem sweepOne_found {now : Moment} {id : String} {live : Session} {found : Option StopResult}
    (hlive : m.find? id = some live) (hid : live.id = id)
    (h : (m.sweepOne id now).result = .ok found) :
    (¬ live.Stale m.config.limits now ∧ m.sweepOne id now = m.unchanged none) ∨
    (live.Stale m.config.limits now ∧ ∃ result, m.Lapses live result ∧ result.session.id = id ∧
      m.sweepOne id now =
        ⟨(m.release id).archive result.session, .ok (some result),
          [.monitor (.staleStopped id)]⟩) := by
  obtain ⟨stale, hstale⟩ := isStale_of_sweepOne hlive h
  have hdecided := isStale_eq_ok hstale
  cases stale with
  | false => exact .inl ⟨of_decide_eq_false hdecided.symm, sweepOne_of_fresh hlive hstale⟩
  | true =>
    refine .inr ⟨of_decide_eq_true hdecided.symm, ?_⟩
    rw [sweepOne_of_stale hlive hstale] at h ⊢
    obtain ⟨result, hresult, _⟩ := Outcome.map_eq_ok h
    have hstop := (finish_eq_ok hresult).1
    have hfinish : m.finish live live.lastHeardAt (.bool true) =
        ((m.release id).archive result.session).unchanged result := hid ▸ finish_of_stop hstop
    refine ⟨result, .of_stop hstop, (Session.stop_facts hstop).1.trans hid, ?_⟩
    rw [noted, Outcome.andThen]
    simp only [hfinish]
    rfl

/-- A look at a session that changes nothing does not show in a sweep. -/
theorem sweepSessions_cons_of_unchanged {now : Moment} {id : String}
    (h : m.sweepOne id now = m.unchanged none) (rest : List String) :
    m.sweepSessions now (id :: rest) = m.sweepSessions now rest := by
  have hsame : ∀ result : Except Fault (List StopResult),
      result.map (fun others => (none : Option StopResult).toList ++ others) = result :=
    fun result => by cases result <;> rfl
  rw [sweepSessions, h]
  simp only [unchanged, Outcome.andThen, Outcome.map, hsame, List.nil_append]

/-- A sweep that changes nothing at any session changes nothing. -/
theorem sweepSessions_unchanged {now : Moment} {ids : List String}
    (h : ∀ id ∈ ids, m.sweepOne id now = m.unchanged none) :
    m.sweepSessions now ids = m.unchanged [] := by
  induction ids with
  | nil => rfl
  | cons id rest ih =>
    rw [sweepSessions_cons_of_unchanged (h id List.mem_cons_self) rest]
    exact ih fun other hother => h other (List.mem_cons_of_mem id hother)

/-- **A sweep over active sessions ends the stale ones**, in their order, and does nothing else.
    It has decided of each of them whether it is stale. -/
theorem sweepSessions_found {now : Moment} {entries : Table Session}
    (hdistinct : entries.keys.Nodup)
    (hfound : ∀ entry ∈ entries, m.find? entry.1 = some entry.2 ∧ entry.2.id = entry.1)
    {stopped : List StopResult} (h : (m.sweepSessions now entries.keys).result = .ok stopped) :
    List.Forall₂ m.Lapses (entries.values.filter (·.Stale m.config.limits now)) stopped ∧
      m.sweepSessions now entries.keys =
        ⟨m.concluded stopped, .ok stopped,
          stopped.map fun result => .monitor (.staleStopped result.session.id)⟩ ∧
      ∀ entry ∈ entries, ∃ stale, isStale entry.2.lastHeardAt
        (.int m.config.limits.staleTimeoutSeconds) now = .ok stale := by
  induction entries generalizing m stopped with
  | nil =>
    obtain rfl := Except.ok.inj h
    exact ⟨.nil, rfl, fun _ hentry => absurd hentry List.not_mem_nil⟩
  | cons entry rest ih =>
    obtain ⟨id, live⟩ := entry
    obtain ⟨hnew, hrest⟩ := List.nodup_cons.mp hdistinct
    obtain ⟨hlive, hid⟩ := hfound (id, live) List.mem_cons_self
    have hothers : ∀ entry ∈ rest, m.find? entry.1 = some entry.2 ∧ entry.2.id = entry.1 :=
      fun entry hentry => hfound entry (List.mem_cons_of_mem _ hentry)
    cases hlook : (m.sweepOne id now).result with
    | error fault =>
      rw [Table.keys_cons, (sweepSessions_cons_of_error hlook _).2] at h
      cases h
    | ok found =>
      have hdecided := isStale_of_sweepOne hlive hlook
      obtain ⟨hfresh, hone⟩ | ⟨hstale, result, hlapses, rfl, hone⟩ :=
        sweepOne_found hlive hid hlook
      · rw [Table.keys_cons, sweepSessions_cons_of_unchanged hone] at h ⊢
        obtain ⟨hended, hall, hdecideds⟩ := ih hrest hothers h
        refine ⟨?_, hall, List.forall_mem_cons.mpr ⟨hdecided, hdecideds⟩⟩
        rwa [Table.values_cons, List.filter_cons, if_neg (by simpa using hfresh)]
      · rw [Table.keys_cons, (sweepSessions_cons_of_ok hlook _).2, hone] at h
        obtain ⟨others, hothers', rfl⟩ := eq_ok_of_map h
        obtain rfl : some result = found := Except.ok.inj ((congrArg _ hone).symm.trans hlook)
        -- The end of this session changes none of those that are still to be looked at.
        obtain ⟨hended, hall, hdecideds⟩ :=
          ih hrest (found_of_release hnew hothers result.session) hothers'
        refine ⟨?_, ?_, List.forall_mem_cons.mpr ⟨hdecided, hdecideds⟩⟩
        · rw [Table.values_cons, List.filter_cons, if_pos (decide_eq_true hstale)]
          exact .cons hlapses (hended.imp fun _ _ h => .of_stop h.stop)
        · rw [Table.keys_cons, sweepSessions, hone, Outcome.andThen]
          simp only [hall]
          rfl

/-! ### Whole sweeps -/

/-- Sessions keep their ids when they lapse. -/
theorem ids_of_lapses {sessions : List Session} {stopped : List StopResult}
    (h : List.Forall₂ m.Lapses sessions stopped) :
    stopped.map (·.session.id) = sessions.map Session.id := by
  induction h with
  | nil => rfl
  | cons hlapses _ ih =>
    rw [List.map_cons, List.map_cons, ih, (Session.stop_facts hlapses.stop).1]

/-- How some sessions lapse depends on nothing but the sessions and the settings. -/
theorem eq_of_lapses {sessions : List Session} {stopped : List StopResult}
    (h : List.Forall₂ m.Lapses sessions stopped) : stopped = sessions.filterMap fun s =>
      (s.stop s.lastHeardAt (m.stopMode s (.bool true))).toOption := by
  induction h with
  | nil => rfl
  | cons hlapses _ ih =>
    rw [List.filterMap_cons, hlapses.stop, ← ih]
    rfl

/-- What lapses later contains, in order, what lapses now. -/
theorem sublist_of_lapses {later : Timestamp} (hlater : now.instant ≤ later.instant)
    {sessions : List Session} {stopped stopped' : List StopResult}
    (h : List.Forall₂ m.Lapses (sessions.filter (·.Stale m.config.limits now)) stopped)
    (h' : List.Forall₂ m.Lapses (sessions.filter (·.Stale m.config.limits later)) stopped') :
    stopped.Sublist stopped' := by
  rw [eq_of_lapses h, eq_of_lapses h']
  refine List.Sublist.filterMap _ (List.monotone_filter_right sessions fun s hstale => ?_)
  exact decide_eq_true ((of_decide_eq_true hstale).mono hlater)

/-- Once all the stale sessions have ended those are left that are not stale. -/
theorem Keyed.active_concluded (h : m.Keyed) {stopped : List StopResult}
    (hlapsed : List.Forall₂ m.Lapses
      (m.activeSessions.filter (·.Stale m.config.limits now)) stopped) :
    (m.concluded stopped).active =
      m.active.filter fun entry => ¬ entry.2.Stale m.config.limits now := by
  have hown : ∀ entry ∈ m.active, entry.2.id = entry.1 := fun entry hentry =>
    h.ownId entry.1 entry.2 (Table.get?_of_mem h.distinct hentry)
  rw [concluded_active, ids_of_lapses hlapsed]
  refine List.filter_congr fun entry hentry => decide_eq_decide.mpr (not_congr ⟨?_, ?_⟩)
  · -- Under the id of a stale session stands only this session.
    intro hmem
    obtain ⟨s, hs, hid⟩ := List.mem_map.mp hmem
    obtain ⟨hactive, hstale⟩ := List.mem_filter.mp hs
    obtain ⟨other, hother, rfl⟩ := List.mem_map.mp hactive
    have hfound := Table.get?_of_mem h.distinct hother
    rw [← hown other hother, hid, Table.get?_of_mem h.distinct hentry] at hfound
    rw [Option.some.inj hfound]
    exact of_decide_eq_true hstale
  · intro hstale
    have hactive : entry.2 ∈ m.activeSessions := List.mem_map_of_mem hentry
    exact hown entry hentry ▸
      List.mem_map_of_mem (List.mem_filter.mpr ⟨hactive, decide_eq_true hstale⟩)

/-- What a sweep leaves of the monitor that it `found`, where it returns what it `stopped`. -/
structure Swept (found left : Monitor τ) (now : Timestamp) (stopped : List StopResult) :
    Prop where
  /-- The stale sessions lapse, in the order in which they are active, and no others do. -/
  lapsed : List.Forall₂ found.Lapses
    (found.activeSessions.filter (·.Stale found.config.limits now)) stopped
  /-- All others stay what they are and where they are. -/
  active : left.active = found.active.filter fun entry => ¬ entry.2.Stale found.config.limits now
  /-- Whom reports could change they still can, unless the session was stopped. -/
  locks : left.locks = found.locks.filter (· ∉ stopped.map (·.session.id))
  /-- The sessions that were stopped come behind the others of their users, of which then is left
      what pruning keeps. -/
  histories : ∃ cutoff, found.cutoff now.assumeUniversal = .ok cutoff ∧ ∀ userId,
    left.historyOf userId = kept cutoff found.config.maxRecentSessions.toNat
      (found.historyOf userId ++ (stopped.map StopResult.session).filter (·.userId = userId))
  /-- Nothing else changes. -/
  elsewhere : left =
    { found with active := left.active, locks := left.locks, history := left.history }

/-- With the same settings the window of the histories begins at the same time. -/
theorem cutoff_congr {m' : Monitor τ} (h : m'.config = m.config) (now : Moment) :
    m'.cutoff now = m.cutoff now := by
  unfold cutoff
  rw [h]

/-- **A sweep without a fault stops the stale sessions and no others.**  It notes each of them. -/
theorem Guarded.swept (h : m.Guarded) (hfiled : m.Filed) (hmost : 0 ≤ m.config.maxRecentSessions)
    {stopped : List StopResult} (hsweep : (m.sweep now).result = .ok stopped) :
    m.Swept (m.sweep now).monitor now stopped ∧
      (m.sweep now).notices =
        stopped.map fun result => .monitor (.staleStopped result.session.id) := by
  obtain ⟨hstopped, hpruned, hmonitor⟩ := sweep_cases hsweep
  obtain ⟨hlapsed, hswept, _⟩ :=
    sweepSessions_found h.distinct (fun _ => h.find?_of_mem) hstopped
  have hfiled' : (m.concluded stopped).Filed := by
    have hkept := sweepSessions_keeps (P := Filed) (fun _ _ hafter hm => hm.aftermath hafter)
      hfiled now.assumeUniversal m.active.keys
    rwa [hswept] at hkept
  have hrest := m.concluded_eq stopped
  have hconfig : (m.concluded stopped).config = m.config := by rw [hrest]
  simp only [hswept] at hpruned hmonitor
  obtain ⟨cutoff, hcutoff, hkept⟩ := prune_cases hfiled'.distinct (hconfig ▸ hmost) hpruned
  obtain ⟨hactive, hlocks⟩ := (m.concluded stopped).prune_active now.assumeUniversal
  refine ⟨⟨hlapsed, ?_, ?_, ⟨cutoff, ?_, fun userId => ?_⟩, ?_⟩, ?_⟩
  · rw [hmonitor, hactive]
    exact h.active_concluded hlapsed
  · rw [hmonitor, hlocks, concluded_locks]
  · rw [← hcutoff, cutoff_congr hconfig _]
  · rw [hmonitor, hkept, hconfig, historyOf_concluded]
  · obtain ⟨_, _, hleft⟩ := prune_eq_ok hpruned
    rw [hmonitor, hleft, hrest]
  · have hsilent : ((m.concluded stopped).prune now.assumeUniversal).notices = [] := by
      unfold prune
      split <;> rfl
    simp only [sweep, hswept, Outcome.andThen, Outcome.map, hsilent, List.append_nil]

/-- **A second sweep at the same time stops nothing**, and does not fail. -/
theorem Guarded.sweep_again (h : m.Guarded) (hfiled : m.Filed)
    (hmost : 0 ≤ m.config.maxRecentSessions) {stopped : List StopResult}
    (hsweep : (m.sweep now).result = .ok stopped) (hleft : (m.sweep now).monitor.Guarded) :
    ((m.sweep now).monitor.sweep now).result = .ok [] ∧
      ((m.sweep now).monitor.sweep now).monitor.active = (m.sweep now).monitor.active ∧
      ((m.sweep now).monitor.sweep now).monitor.locks = (m.sweep now).monitor.locks := by
  obtain ⟨hswept, _⟩ := h.swept hfiled hmost hsweep
  obtain ⟨_, _, hdecided⟩ :=
    sweepSessions_found h.distinct (fun _ => h.find?_of_mem) (sweep_cases hsweep).1
  generalize (m.sweep now).monitor = left at hswept hleft ⊢
  have hconfig : left.config = m.config := by rw [hswept.elsewhere]
  -- The first sweep has decided of those that are left that they are not stale.
  have hunchanged : left.sweepSessions now.assumeUniversal left.active.keys =
      left.unchanged [] := by
    refine sweepSessions_unchanged fun id hid => ?_
    obtain ⟨entry, hentry, rfl⟩ := List.mem_map.mp hid
    obtain ⟨hlive, _⟩ := hleft.find?_of_mem hentry
    rw [hswept.active] at hentry
    obtain ⟨hactive, hfresh⟩ := List.mem_filter.mp hentry
    obtain ⟨stale, hstale⟩ := hdecided entry hactive
    obtain rfl : stale = false :=
      (isStale_eq_ok hstale).trans (decide_eq_false (of_decide_eq_true hfresh))
    exact sweepOne_of_fresh hlive (hconfig ▸ hstale)
  have hpruned : (left.prune now.assumeUniversal).result = .ok () := by
    obtain ⟨cutoff, hcutoff, _⟩ := hswept.histories
    refine prune_isOk_iff.mpr ⟨⟨cutoff, ?_⟩, .inl (hconfig ▸ hmost)⟩
    rw [cutoff_congr hconfig _, hcutoff]
  obtain ⟨hactive, hlocks⟩ := left.prune_active now.assumeUniversal
  simp only [sweep, hunchanged, unchanged, Outcome.andThen, Outcome.map, hpruned]
  exact ⟨rfl, hactive, hlocks⟩

end Monitor

namespace Watch

variable {τ : Type} [Sub τ] [LE τ] [DecidableLE τ]

/-- **A sweep without a fault stops the stale sessions and no others**, whatever was done before,
    each when it was last heard of.  It notes them in that order.  If it came later it would stop
    the same sessions with the same results, and maybe more.  Where it has been, a second sweep at
    the same time returns, and stops nothing. -/
theorem sweep_stops_stale (registry : Registry) (server : Server) {config : MonitorConfig}
    (hmost : 0 ≤ config.maxRecentSessions) (rules : List Rule) (hasReceiver : Bool)
    (cooldown : τ) (moves : List (Move τ)) :
    let m := ((fresh (.fresh server config rules hasReceiver cooldown)).run registry moves).monitor
    ∀ now stopped, (m.sweep now).result = .ok stopped →
      let left := (m.sweep now).monitor
      (m.Swept left now stopped ∧ (m.sweep now).notices =
        stopped.map fun result => .monitor (.staleStopped result.session.id)) ∧
      (∀ later stopped', now.instant ≤ later.instant → (m.sweep later).result = .ok stopped' →
        stopped.Sublist stopped') ∧
      (left.sweep now).result = .ok [] ∧ (left.sweep now).monitor.active = left.active ∧
        (left.sweep now).monitor.locks = left.locks := by
  intro m now stopped hsweep left
  have hguarded : m.Guarded :=
    guarded_run registry (.fresh server config rules hasReceiver cooldown) moves
  have hfiled : m.Filed := filed_run registry (.fresh server config rules hasReceiver _) moves
  have hmost' : 0 ≤ m.config.maxRecentSessions := (run_config registry _ moves).symm ▸ hmost
  have hleft : left.Guarded := guarded_sweep registry hguarded now
  obtain ⟨hswept, hnotices⟩ := hguarded.swept hfiled hmost' hsweep
  refine ⟨⟨hswept, hnotices⟩, fun later stopped' hlater hsweep' => ?_,
    hguarded.sweep_again hfiled hmost' hsweep hleft⟩
  obtain ⟨hswept', _⟩ := hguarded.swept hfiled hmost' hsweep'
  exact Monitor.sublist_of_lapses hlater hswept.lapsed hswept'.lapsed

/-- So many minutes after the second day of the year 1. -/
def minutely (minutes : Int) : Moment :=
  .universal (2 * Duration.day + minutes * Duration.minute)

/-- Four sessions start together.  One of them is paused, and all are last heard of in the order
    in which they did not start. -/
def silentEvening : List (Move Nat) :=
  [startOfAnn "film" 0, startOfAnn "song" 0, startOfAnn "show" 0, startOfAnn "news" 0,
    .report (.text "film") "paused" .null (minutely 5),
    .report (.text "film") "paused" .null (minutely 10),
    .report (.text "song") "playing" .null (minutely 12),
    .report (.text "show") "playing" .null (minutely 11),
    .report (.text "news") "playing" .null (minutely 16)]

/-- A sweep after that evening stops the film in its pause, and the show.  Of the song was heard
    five minutes ago and no longer, so it goes on. -/
theorem sweep_stops_stale_silentEvening :
    let m := ((fresh home).run .standard silentEvening).monitor
    let left := (m.sweep (minutely 17)).monitor
    0 ≤ MonitorConfig.standard.maxRecentSessions ∧
      (∃ stopped, (m.sweep (minutely 17)).result = .ok stopped ∧
        stopped.map (fun result => (result.session.id, result.session.stoppedAt,
            result.session.duration, result.session.pausedDuration)) =
          [("film", some (minutely 10), some 300000, 300000),
            ("show", some (minutely 11), some 660000, 0)] ∧
        m.Swept left (minutely 17) stopped) ∧
      left.active.keys = ["song", "news"] ∧ (left.sweep (minutely 17)).result = .ok [] := by
  intro m left
  have hmost : 0 ≤ MonitorConfig.standard.maxRecentSessions := by decide
  have hfacts : (m.sweep (minutely 17)).result.toOption.map (List.map fun result =>
      (result.session.id, result.session.stoppedAt, result.session.duration,
        result.session.pausedDuration)) =
      some [("film", some (minutely 10), some 300000, 300000),
        ("show", some (minutely 11), some 660000, 0)] := by decide +kernel
  cases hstopped : (m.sweep (minutely 17)).result with
  | error fault =>
    rw [hstopped] at hfacts
    cases hfacts
  | ok stopped =>
    rw [hstopped] at hfacts
    obtain ⟨⟨hswept, _⟩, _, hagain, _⟩ := sweep_stops_stale .standard ⟨"server", "Home", none⟩
      hmost [] true 60 silentEvening (minutely 17) stopped hstopped
    exact ⟨hmost, ⟨stopped, rfl, Option.some.inj hfacts, hswept⟩, by decide +kernel, hagain⟩

end Watch

end StreamWatch
