import StreamWatch.Proofs.Evaluation.Isolation
import StreamWatch.Proofs.Monitor.Sweepable

namespace StreamWatch

/-!
# A monitor as one user knows it

Every id belongs to some user.  What a monitor knows of one of them is left if the sessions, the
locks, the history and the matches of all others are left out:

* `Table.only`, `Monitor.only` — a table restricted to some keys, and a monitor to one user;
* `Monitor.Owned` — the sessions of a monitor belong to the users of their ids;
* `Monitor.only_finish`, `Monitor.only_update`, `Monitor.only_stopSession`,
  `Monitor.only_register`, `Monitor.only_enqueue` — what is done for the user is done to the
  restricted monitor in the same way;
* `Monitor.finish_only`, `Monitor.update_only`, `Monitor.stopSession_only`,
  `Monitor.register_only`, `Monitor.enqueue_only` — what is done for others does not show there;
* `Monitor.only_sweep` — a sweep of the restricted monitor stops the sessions of the user that the
  sweep of all stops.
-/

/-! ### Tables -/

namespace Table

variable {α : Type}

/-- The part of a table under some keys. -/
def only (p : String → Bool) (table : Table α) : Table α := table.filter fun entry => p entry.1

variable {p : String → Bool} {key : String}

/-- The keys that are left. -/
theorem keys_only (p : String → Bool) (table : Table α) :
    (table.only p).keys = table.keys.filter p := by
  unfold keys only
  rw [List.filter_map]
  rfl

/-- The first entry is left if its key is. -/
theorem only_cons (p : String → Bool) (entry : String × α) (rest : Table α) :
    only p (entry :: rest) = if p entry.1 then entry :: only p rest else only p rest :=
  List.filter_cons

/-- What is under a key that is left is found there. -/
theorem get?_only (hkey : p key = true) (table : Table α) :
    (table.only p).get? key = table.get? key := by
  induction table with
  | nil => rfl
  | cons entry rest ih =>
    rw [only_cons, get?]
    split
    · rw [get?, ih]
    · rename_i hgone
      have hne : entry.1 ≠ key := fun heq => hgone (heq ▸ hkey)
      rw [if_neg hne, ih]

/-- A value that is put under a key that is left is left. -/
theorem only_set (hkey : p key = true) (value : α) (table : Table α) :
    (table.set key value).only p = (table.only p).set key value := by
  induction table with
  | nil => rw [set, only_cons, if_pos hkey]; rfl
  | cons entry rest ih =>
    by_cases heq : entry.1 = key
    · rw [set, if_pos heq, only_cons, if_pos hkey, only_cons, heq, if_pos hkey, set, if_pos heq]
    · rw [set, if_neg heq, only_cons, only_cons]
      split
      · rw [set, if_neg heq, ih]
      · exact ih

/-- A value that is put under another key is not left. -/
theorem only_set_of_gone (hkey : p key = false) (value : α) (table : Table α) :
    (table.set key value).only p = table.only p := by
  have hgone : ¬ p key = true := Bool.eq_false_iff.mp hkey
  induction table with
  | nil => rw [set, only_cons, if_neg hgone]
  | cons entry rest ih =>
    by_cases heq : entry.1 = key
    · rw [set, if_pos heq, only_cons, if_neg hgone, only_cons, heq, if_neg hgone]
    · rw [set, if_neg heq, only_cons, only_cons, ih]

/-- What is removed is not left. -/
theorem only_erase (table : Table α) : (table.erase key).only p = (table.only p).erase key :=
  List.filter_comm _ _ table

/-- Where a key is not left, removing it makes no difference. -/
theorem only_erase_of_gone (hkey : p key = false) (table : Table α) :
    (table.erase key).only p = table.only p := by
  rw [only_erase]
  refine List.filter_eq_self.mpr fun entry hentry => decide_eq_true fun heq => ?_
  have hleft : p entry.1 = true := (List.mem_filter.mp hentry).2
  rw [heq, hkey] at hleft
  cases hleft

end Table

/-! ### Monitors -/

namespace Monitor

variable {τ : Type} {m : Monitor τ} {owner : String → String} {u : String}

/-- Is an id that of a session of a user? -/
def owns (owner : String → String) (u id : String) : Bool := owner id == u

/-- A monitor without the sessions, the locks, the histories and the matches of all users but
    one. -/
def only (owner : String → String) (u : String) (m : Monitor τ) : Monitor τ :=
  { m with
    active := m.active.only (owns owner u)
    locks := m.locks.filter (owns owner u)
    history := m.history.only (· == u)
    pending := m.pending.filter fun found => found.session.userId == u }

/-- Do the active sessions belong to the users of their ids, and are they kept under these? -/
def Owned (owner : String → String) (m : Monitor τ) : Prop :=
  ∀ entry ∈ m.active, entry.2.id = entry.1 ∧ entry.2.userId = owner entry.1

end Monitor

/-- What an operation comes to, as one user knows it. -/
def Outcome.only {τ α : Type} (owner : String → String) (u : String) (outcome : Outcome τ α) :
    Outcome τ α :=
  { outcome with monitor := outcome.monitor.only owner u }

namespace Monitor

variable {τ : Type} {m : Monitor τ} {owner : String → String} {u id : String}

/-- The ids of a user are owned by this user. -/
theorem owns_of_eq (h : owner id = u) : owns owner u id = true := beq_iff_eq.mpr h

/-- The ids of other users are not. -/
theorem owns_of_ne (h : owner id ≠ u) : owns owner u id = false := beq_eq_false_iff_ne.mpr h

/-! ### Looking up -/

/-- A session of the user has a lock if it had one. -/
theorem isLocked_only (hown : owner id = u) : (m.only owner u).isLocked id = m.isLocked id := by
  unfold isLocked
  rw [Bool.eq_iff_iff, List.contains_iff_mem, List.contains_iff_mem]
  exact List.mem_filter.trans (and_iff_left (owns_of_eq hown))

/-- A session of the user is found if it was. -/
theorem find?_only (hown : owner id = u) : (m.only owner u).find? id = m.find? id := by
  unfold find?
  rw [isLocked_only hown]
  exact ite_congr rfl (fun _ => Table.get?_only (owns_of_eq hown) m.active) fun _ => rfl

/-- The history of the user is as it was. -/
theorem historyOf_only : (m.only owner u).historyOf u = m.historyOf u := by
  have hsame : (m.history.only (· == u)).get? u = m.history.get? u :=
    Table.get?_only (p := (· == u)) (beq_self_eq_true u) m.history
  exact congrArg (Option.getD · []) hsame

/-- The sessions that are active are those of the user. -/
theorem Owned.activeSessions_only (h : m.Owned owner) :
    (m.only owner u).activeSessions = m.activeSessions.filter fun s => s.userId == u := by
  unfold activeSessions Table.values
  rw [List.filter_map]
  refine congrArg (List.map Prod.snd) (List.filter_congr fun entry hentry => ?_)
  show (owner entry.1 == u) = (entry.2.userId == u)
  rw [(h entry hentry).2]

/-- A session that is found belongs to the user of its id. -/
theorem Owned.of_find? (h : m.Owned owner) {live : Session} (hlive : m.find? id = some live) :
    live.id = id ∧ live.userId = owner id :=
  h (id, live) (Table.mem_of_get? (get?_of_find? hlive))

/-- Whatever a move does to them, sessions belong to the users of their ids, if one that starts
    does. -/
theorem Owned.turnover (h : m.Owned owner) {m' : Monitor τ} {move : Move τ}
    (hturnover : m.Turnover m' move)
    (hstart : ∀ session user now, move = .start session user now →
      session.userId = owner session.id) : m'.Owned owner := by
  have hset {s : Session} {key : String} (hs : s.id = key ∧ s.userId = owner key)
      (hactive : m'.active = m.active.set key s) : m'.Owned owner := by
    intro entry hentry
    rw [hactive] at hentry
    obtain rfl | hbefore := Table.mem_of_mem_set hentry
    · exact hs
    · exact h entry hbefore
  cases hturnover with
  | registered session user now context hcontext hactive hhistory =>
    -- What is put among the active sessions has the id and the user of the session that starts.
    obtain ⟨hid, huser⟩ := Accounted.admitted_facts (register_cases hcontext).1
    exact hset ⟨hid, huser.trans (hstart session user now rfl)⟩ hactive
  | reported id stateName position now live updated state hlive hupdated hactive hhistory =>
    obtain ⟨hid, huser, _⟩ := Session.advance_eq_ok hupdated
    obtain ⟨hid', huser'⟩ := h.of_find? hlive
    refine hset ⟨hid, huser.trans ?_⟩ hactive
    rw [huser', hid']
  | ended id live last stoppedAt mode result hlive hlast hstop hactive hhistory =>
    intro entry hentry
    rw [hactive] at hentry
    exact h entry (List.mem_filter.mp hentry).1
  | pruned cutoff hactive hhistory =>
    intro entry hentry
    exact h entry (hactive ▸ hentry)
  | same hactive hhistory =>
    intro entry hentry
    exact h entry (hactive ▸ hentry)

/-! ### Locks and histories -/

/-- A lock of the user is made where it is. -/
theorem only_addLock (hown : owner id = u) :
    (m.only owner u).addLock id = (m.addLock id).only owner u := by
  unfold addLock
  rw [isLocked_only hown]
  split
  · rfl
  · unfold only
    rw [List.filter_append, List.filter_cons_of_pos (owns_of_eq hown)]
    rfl

/-- A lock of others does not show. -/
theorem addLock_only (hother : owner id ≠ u) : (m.addLock id).only owner u = m.only owner u := by
  unfold addLock
  split
  · rfl
  · unfold only
    rw [List.filter_append,
      List.filter_cons_of_neg (Bool.eq_false_iff.mp (owns_of_ne hother)), List.filter_nil,
      List.append_nil]

/-- A session that is removed is not left. -/
theorem only_release (m : Monitor τ) (id : String) :
    (m.only owner u).release id = (m.release id).only owner u := by
  have hlocks : (m.locks.filter (owns owner u)).filter (· ≠ id) =
      (m.locks.filter (· ≠ id)).filter (owns owner u) := List.filter_comm _ _ m.locks
  unfold release only
  simp only [hlocks, Table.only_erase]

/-- That a session of others is removed does not show. -/
theorem release_only (hother : owner id ≠ u) : (m.release id).only owner u = m.only owner u := by
  have hlocks : (m.locks.filter (· ≠ id)).filter (owns owner u) =
      m.locks.filter (owns owner u) := by
    rw [List.filter_filter]
    refine List.filter_congr fun lock _ => ?_
    by_cases heq : lock = id
    · rw [heq, owns_of_ne hother, Bool.false_and]
    · rw [decide_eq_true heq, Bool.and_true]
  unfold release only
  simp only [hlocks, Table.only_erase_of_gone (owns_of_ne hother)]

/-- A stopped session of the user is put into the history of the user. -/
theorem only_archive {stopped : Session} (hown : stopped.userId = u) :
    (m.only owner u).archive stopped = (m.archive stopped).only owner u := by
  subst hown
  have hset (sessions : List Session) :
      (m.history.set stopped.userId sessions).only (· == stopped.userId) =
        (m.history.only (· == stopped.userId)).set stopped.userId sessions :=
    Table.only_set (p := (· == stopped.userId)) (beq_self_eq_true _) sessions m.history
  unfold archive
  rw [historyOf_only]
  unfold only
  simp only [hset]

/-- A stopped session of others is put elsewhere. -/
theorem archive_only {stopped : Session} (hother : stopped.userId ≠ u) :
    (m.archive stopped).only owner u = m.only owner u := by
  have hset (sessions : List Session) :
      (m.history.set stopped.userId sessions).only (· == u) = m.history.only (· == u) :=
    Table.only_set_of_gone (p := (· == u)) (beq_eq_false_iff_ne.mpr hother) sessions m.history
  unfold archive only
  simp only [hset]

/-- A session of the user that is put among the active ones is left. -/
theorem only_activate (hown : owner id = u) (m : Monitor τ) (s : Session) :
    { m.only owner u with active := (m.only owner u).active.set id s } =
      only owner u { m with active := m.active.set id s } := by
  unfold only
  simp only [Table.only_set (owns_of_eq hown)]

/-- A session of others that is put among the active ones is not. -/
theorem activate_only (hother : owner id ≠ u) (m : Monitor τ) (s : Session) :
    only owner u { m with active := m.active.set id s } = m.only owner u := by
  unfold only
  simp only [Table.only_set_of_gone (owns_of_ne hother)]

/-! ### Ends -/

/-- A session of the user ends in the same way. -/
theorem only_finish {last : Session} (hown : last.userId = u) (stoppedAt : Moment)
    (forced : Datum) :
    (m.only owner u).finish last stoppedAt forced =
      (m.finish last stoppedAt forced).only owner u := by
  have hmode : (m.only owner u).stopMode last forced = m.stopMode last forced := rfl
  unfold finish
  rw [hmode]
  split
  · rfl
  · rename_i result hstop
    have huser : result.session.userId = u := (Session.stop_facts hstop).2.1.trans hown
    rw [only_release, only_archive huser]
    rfl

/-- The end of a session of others does not show. -/
theorem finish_only {last : Session} (hid : owner last.id ≠ u) (hother : last.userId ≠ u)
    (stoppedAt : Moment) (forced : Datum) :
    (m.finish last stoppedAt forced).monitor.only owner u = m.only owner u := by
  unfold finish
  split
  · rfl
  · rename_i result hstop
    have huser : result.session.userId ≠ u := (Session.stop_facts hstop).2.1 ▸ hother
    exact (archive_only huser).trans (release_only hid)

/-- The session of an id of any kind is found if it was, unless the id is one of others. -/
theorem findGiven_only {given : Datum} (hown : ∀ name, given = .text name → owner name = u) :
    (m.only owner u).findGiven given = m.findGiven given := by
  cases given with
  | text name => exact congrArg Except.ok (find?_only (hown name rfl))
  | _ => rfl

/-- A stop of the user has the same result. -/
theorem only_stopSession (howned : m.Owned owner) {given : Datum}
    (hown : ∀ name, given = .text name → owner name = u) (stoppedAt : Timestamp)
    (forced : Datum) :
    (m.only owner u).stopSession given stoppedAt forced =
      (m.stopSession given stoppedAt forced).only owner u := by
  unfold stopSession
  rw [findGiven_only hown]
  cases hfound : m.findGiven given with
  | error fault => rfl
  | ok found =>
    cases found with
    | none => rfl
    | some live =>
      obtain ⟨name, hname, hlive⟩ := findGiven_eq_some hfound
      have huser : live.userId = u := (howned.of_find? hlive).2.trans (hown name hname)
      simp only
      rw [only_finish huser]
      rfl

/-- A stop of others does not show. -/
theorem stopSession_only (howned : m.Owned owner) (hother : owner id ≠ u) (stoppedAt : Timestamp)
    (forced : Datum) :
    (m.stopSession (.text id) stoppedAt forced).monitor.only owner u = m.only owner u := by
  unfold stopSession
  rw [findGiven_text]
  cases hlive : m.find? id with
  | none => rfl
  | some live =>
    obtain ⟨hid, huser⟩ := howned.of_find? hlive
    exact finish_only (hid ▸ hother) (huser ▸ hother) stoppedAt.assumeUniversal forced

/-! ### Reports -/

/-- A report of the user has the same result. -/
theorem only_update (howned : m.Owned owner) {given : Datum}
    (hown : ∀ name, given = .text name → owner name = u) (stateName : String) (position : Datum)
    (now : Timestamp) :
    (m.only owner u).update given stateName position now =
      (m.update given stateName position now).only owner u := by
  unfold update
  rw [findGiven_only hown]
  cases PlaybackState.ofName? stateName with
  | none => rfl
  | some state =>
    cases hfound : m.findGiven given with
    | error fault => rfl
    | ok found =>
      cases found with
      | none => rfl
      | some live =>
        obtain ⟨name, hname, hlive⟩ := findGiven_eq_some hfound
        obtain ⟨hid, huser⟩ := howned.of_find? hlive
        simp only [report]
        cases hupdated : live.advance state now.assumeUniversal position with
        | error fault => rfl
        | ok updated =>
          have hupdatedUser : updated.userId = u :=
            (Session.advance_eq_ok hupdated).2.1.trans (huser.trans (hown name hname))
          simp only
          split
          · rw [only_finish hupdatedUser]
            rfl
          · rw [only_activate (hid ▸ hown name hname)]
            rfl

/-- A report of others does not show. -/
theorem update_only (howned : m.Owned owner) (hother : owner id ≠ u) (stateName : String)
    (position : Datum) (now : Timestamp) :
    (m.update (.text id) stateName position now).monitor.only owner u = m.only owner u := by
  unfold update
  rw [findGiven_text]
  cases PlaybackState.ofName? stateName with
  | none => rfl
  | some state =>
    cases hlive : m.find? id with
    | none => rfl
    | some live =>
      obtain ⟨hid, huser⟩ := howned.of_find? hlive
      simp only [report, Outcome.map]
      cases hupdated : live.advance state now.assumeUniversal position with
      | error fault => rfl
      | ok updated =>
        obtain ⟨hid', huser', _⟩ := Session.advance_eq_ok hupdated
        simp only
        split
        · refine finish_only ?_ ?_ _ _
          · rwa [hid', hid]
          · rwa [huser', huser]
        · exact activate_only (hid ▸ hother) m updated

/-! ### Starts -/

/-- A session of the user is admitted in the same way. -/
theorem admitted_only {session : Session} (hown : session.userId = u) (now : Moment) :
    (m.only owner u).admitted session now = m.admitted session now := by
  subst hown
  have hlink : (m.only owner session.userId).resumeLink session now = m.resumeLink session now := by
    unfold resumeLink
    rw [historyOf_only]
    rfl
  unfold admitted
  rw [hlink]

/-- A start of the user sees what it would see if only sessions of the user were active. -/
theorem only_register (howned : m.Owned owner) {session : Session} {user : User}
    (hid : owner session.id = u) (hsession : session.userId = u) (huser : user.id = u)
    (now : Timestamp) :
    (m.only owner u).register session user now =
      ((m.register session user now).map SessionContext.withOwn).only owner u := by
  have howned' : (m.register session user now).monitor.Owned owner := by
    refine howned.turnover (m.register_turnover session user now) fun _ _ _ hmove => ?_
    cases hmove
    exact hsession.trans hid.symm
  unfold register at howned' ⊢
  simp only [admitted_only hsession, only_addLock hid]
  cases hadmitted : m.admitted session now.assumeUniversal with
  | error fault => rfl
  | ok admitted =>
    simp only [hadmitted, unchanged] at howned' ⊢
    rw [only_activate hid]
    simp only [Outcome.map, Outcome.only, Except.map]
    congr 2
    -- What is active there is what the context shows of the user.
    unfold contextOf SessionContext.withOwn SessionContext.ownActive
    simp only [howned'.activeSessions_only, huser, historyOf_only]
    rfl

/-- A start of others does not show. -/
theorem register_only {session : Session} (hother : owner session.id ≠ u) (user : User)
    (now : Timestamp) :
    (m.register session user now).monitor.only owner u = m.only owner u := by
  unfold register
  simp only
  split
  · exact addLock_only hother
  · rename_i admitted _
    exact (activate_only hother (m.addLock session.id) admitted).trans (addLock_only hother)

/-- What was found on a session of the user is queued in the same way. -/
theorem only_enqueue {session : Session} (hown : session.userId = u) (found : List Verdict) :
    (m.only owner u).enqueue session found = (m.enqueue session found).only owner u := by
  have hqueued : (found.map (Match.mk · session)).filter (fun one => one.session.userId == u) =
      found.map (Match.mk · session) := by
    refine List.filter_eq_self.mpr fun one hone => ?_
    obtain ⟨verdict, _, rfl⟩ := List.mem_map.mp hone
    exact beq_iff_eq.mpr hown
  unfold enqueue
  split
  · rfl
  · unfold noted only Outcome.only only
    simp only [List.filter_append, hqueued]

/-- What was found on a session of others does not show. -/
theorem enqueue_only {session : Session} (hother : session.userId ≠ u) (found : List Verdict) :
    (m.enqueue session found).monitor.only owner u = m.only owner u := by
  have hqueued : (found.map (Match.mk · session)).filter (fun one => one.session.userId == u) =
      [] := by
    refine List.filter_eq_nil_iff.mpr fun one hone => ?_
    obtain ⟨verdict, _, rfl⟩ := List.mem_map.mp hone
    exact fun hown => hother (beq_iff_eq.mp hown)
  unfold enqueue
  split
  · rfl
  · unfold noted only
    simp only [List.filter_append, hqueued, List.append_nil]

/-! ### Sweeps -/

/-- A sweep looks at a session of the user in the same way. -/
theorem only_sweepOne (howned : m.Owned owner) (hown : owner id = u) (now : Moment) :
    (m.only owner u).sweepOne id now = (m.sweepOne id now).only owner u := by
  unfold sweepOne
  rw [find?_only hown]
  cases hlive : m.find? id with
  | none => rfl
  | some live =>
    have huser : live.userId = u := (howned.of_find? hlive).2.trans hown
    have hlimits : (m.only owner u).config = m.config := rfl
    simp only [hlimits]
    split
    · rfl
    · rfl
    · simp only [noted, Outcome.andThen]
      rw [only_finish huser]
      rfl

/-- What a sweep does to a session of others does not show. -/
theorem sweepOne_only (howned : m.Owned owner) (hother : owner id ≠ u) (now : Moment) :
    (m.sweepOne id now).monitor.only owner u = m.only owner u := by
  unfold sweepOne
  cases hlive : m.find? id with
  | none => rfl
  | some live =>
    obtain ⟨hid, huser⟩ := howned.of_find? hlive
    simp only
    split
    · rfl
    · rfl
    · exact finish_only (hid ▸ hother) (huser ▸ hother) live.lastHeardAt (.bool true)

/-- The session that a sweep stops belongs to the user of its id. -/
theorem userId_of_sweepOne (howned : m.Owned owner) {now : Moment} {stopped : StopResult}
    (h : (m.sweepOne id now).result = .ok (some stopped)) : stopped.session.userId = owner id := by
  obtain ⟨hnone, _⟩ | ⟨live, stopped', hlive, _, hsome, hstopped, _⟩ := sweepOne_cases h
  · cases hnone
  · cases hsome
    obtain ⟨_, huser, _⟩ := Session.stop_facts (finish_eq_ok hstopped).1
    exact huser.trans (howned.of_find? hlive).2

/-- **A sweep over the sessions of the user** stops those that the sweep of all stops. -/
theorem only_sweepSessions (howned : m.Owned owner) {now : Moment} {ids : List String}
    {stopped : List StopResult} (h : (m.sweepSessions now ids).result = .ok stopped) :
    (m.sweepSessions now ids).monitor.Owned owner ∧
      ((m.only owner u).sweepSessions now (ids.filter (owns owner u))).result =
        .ok (stopped.filter fun one => one.session.userId == u) ∧
      ((m.only owner u).sweepSessions now (ids.filter (owns owner u))).monitor =
        (m.sweepSessions now ids).monitor.only owner u := by
  induction ids generalizing m stopped with
  | nil =>
    obtain rfl := Except.ok.inj h
    exact ⟨howned, rfl, rfl⟩
  | cons id rest ih =>
    cases hfirst : (m.sweepOne id now).result with
    | error fault =>
      rw [(sweepSessions_cons_of_error hfirst rest).2] at h
      cases h
    | ok found =>
      obtain ⟨hmonitor, hresult⟩ := sweepSessions_cons_of_ok hfirst rest
      rw [hresult] at h
      obtain ⟨others, hothers, rfl⟩ := eq_ok_of_map h
      have howned' : (m.sweepOne id now).monitor.Owned owner := by
        refine howned.turnover (m.sweepOne_turnover id now (.sweepOn 0)) fun _ _ _ hmove => ?_
        cases hmove
      obtain ⟨howned'', hrest, hrestMonitor⟩ := ih howned' hothers
      have hfound : ∀ one ∈ found.toList, one.session.userId = owner id := by
        intro one hone
        obtain rfl := Option.mem_toList.mp hone
        exact userId_of_sweepOne howned hfirst
      rw [hmonitor]
      refine ⟨howned'', ?_⟩
      rw [List.filter_append]
      by_cases hown : owner id = u
      · -- The sweep of the user looks at this session, too.
        have hkept : found.toList.filter (fun one => one.session.userId == u) = found.toList :=
          List.filter_eq_self.mpr fun one hone => beq_iff_eq.mpr ((hfound one hone).trans hown)
        have hfirst' : ((m.only owner u).sweepOne id now).result = .ok found := by
          rw [only_sweepOne howned hown]
          exact hfirst
        have hfirstMonitor : ((m.only owner u).sweepOne id now).monitor =
            (m.sweepOne id now).monitor.only owner u := by
          rw [only_sweepOne howned hown]
          rfl
        obtain ⟨hmonitor', hresult'⟩ :=
          sweepSessions_cons_of_ok hfirst' (rest.filter (owns owner u))
        rw [List.filter_cons_of_pos (owns_of_eq hown), hmonitor', hresult', hfirstMonitor, hrest,
          hrestMonitor, hkept]
        exact ⟨rfl, rfl⟩
      · have hdropped : found.toList.filter (fun one => one.session.userId == u) = [] :=
          List.filter_eq_nil_iff.mpr fun one hone hsame =>
            hown ((hfound one hone).symm.trans (beq_iff_eq.mp hsame))
        -- It does not look at this one, whose end does not show.
        rw [List.filter_cons_of_neg (Bool.eq_false_iff.mp (owns_of_ne hown)), hdropped,
          List.nil_append, ← sweepOne_only howned hown now]
        exact ⟨hrest, hrestMonitor⟩

/-- Pruning does the same to a history whatever others there are. -/
theorem pruneHistories_only (cutoff : Moment) {most : Int} (hmost : 0 ≤ most)
    (p : String → Bool) (histories : Table (List Session)) :
    pruneHistories cutoff most (histories.only p) =
      ((pruneHistories cutoff most histories).1.only p, .ok ()) := by
  have hnever : ¬ most < 0 := Int.not_lt.mpr hmost
  induction histories with
  | nil => rfl
  | cons entry rest ih =>
    obtain ⟨user, sessions⟩ := entry
    rw [Table.only_cons, pruneHistories, if_neg hnever]
    by_cases hleft : p user = true
    · rw [if_pos hleft, pruneHistories, if_neg hnever, ih]
      simp only
      split
      · rfl
      · rw [Table.only_cons, if_pos hleft]
    · rw [if_neg hleft, ih]
      simp only
      split
      · rfl
      · rw [Table.only_cons, if_neg hleft]

/-- What pruning comes to if the window of the histories has a beginning. -/
theorem prune_of_cutoff {now cutoff : Moment} (h : m.cutoff now = .ok cutoff) :
    m.prune now =
      ⟨{ m with history := (pruneHistories cutoff m.config.maxRecentSessions m.history).1 },
        (pruneHistories cutoff m.config.maxRecentSessions m.history).2, []⟩ := by
  unfold prune
  simp only [h]

/-- Pruning that has a result does the same to the history of the user. -/
theorem only_prune {now : Moment} (h : (m.prune now).result = .ok ()) :
    (m.only owner u).prune now = (m.prune now).only owner u := by
  obtain ⟨⟨cutoff, hcutoff⟩, hmost⟩ := prune_isOk_iff.mp h
  have hcutoff' : (m.only owner u).cutoff now = .ok cutoff := hcutoff
  have hok : (pruneHistories cutoff m.config.maxRecentSessions m.history).2 = .ok () :=
    pruneHistories_isOk_iff.mpr hmost
  have hpruned : pruneHistories cutoff m.config.maxRecentSessions (m.history.only (· == u)) =
      ((pruneHistories cutoff m.config.maxRecentSessions m.history).1.only (· == u), .ok ()) := by
    -- A history cannot be shorter than nothing, but where there is none it need not be.
    obtain hmost | hempty := hmost
    · exact pruneHistories_only cutoff hmost (· == u) m.history
    · rw [hempty]
      rfl
  rw [prune_of_cutoff hcutoff, prune_of_cutoff hcutoff', hok]
  unfold only Outcome.only only
  simp only [hpruned]

/-- **A sweep of the restricted monitor** stops the sessions of the user that the sweep of all
    stops, and leaves of the user what that one leaves. -/
theorem only_sweep (howned : m.Owned owner) {now : Timestamp} {stopped : List StopResult}
    (h : (m.sweep now).result = .ok stopped) :
    (m.sweep now).monitor.Owned owner ∧
      ((m.only owner u).sweep now).result =
        .ok (stopped.filter fun one => one.session.userId == u) ∧
      ((m.only owner u).sweep now).monitor = (m.sweep now).monitor.only owner u := by
  obtain ⟨hswept, hpruned, hmonitor⟩ := sweep_cases h
  obtain ⟨howned', hresult', hmonitor'⟩ := only_sweepSessions (u := u) howned hswept
  have hkeys : (m.only owner u).active.keys = m.active.keys.filter (owns owner u) :=
    Table.keys_only (owns owner u) m.active
  refine ⟨?_, ?_⟩
  · rw [hmonitor]
    refine howned'.turnover (prune_turnover _ _ (.sweepOn 0)) fun _ _ _ hmove => ?_
    cases hmove
  · unfold sweep
    simp only
    rw [hkeys, (Outcome.andThen_of_ok hresult' _).1, (Outcome.andThen_of_ok hresult' _).2,
      hmonitor']
    simp only [Outcome.map]
    rw [only_prune hpruned, (Outcome.andThen_of_ok hswept _).1]
    refine ⟨?_, rfl⟩
    show Except.map _ (Monitor.prune _ _).result = _
    rw [hpruned]
    rfl

end Monitor

end StreamWatch
