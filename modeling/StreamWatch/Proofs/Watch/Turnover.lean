import StreamWatch.Proofs.Watch.Records

namespace StreamWatch

/-!
# Where the sessions of a monitor come from

A call with a fault leaves the sessions of a monitor alone, except that a pruning keeps what it
did before.  So whatever is done with a monitor, each of its sessions goes back to a session of
the moment before:

* `Monitor.Turnover` — everything that a move can do to the active sessions and to the histories,
  whether its call has a fault or not;
* `Watch.after_turnover` — every move does one of these things;
* `Monitor.Turnover.active_origin`, `Monitor.Turnover.history_origin` — where an active session
  comes from after a move, and where one in a history does;
* `Monitor.Keyed`, `Watch.keyed_run` — each active session is there once, under its own id, and
  `Monitor.Keyed.filter_set`, by which this holds of one that is registered.
-/

namespace Monitor

variable {τ : Type} {m m' : Monitor τ}

/-! ### Calls with a fault -/

/-- A registration with a fault only lets reports change the session. -/
theorem register_of_error {session : Session} {user : User} {now : Timestamp} {fault : Fault}
    (h : (m.register session user now).result = .error fault) :
    (m.register session user now).monitor = m.addLock session.id := by
  unfold register at h ⊢
  cases hadmitted : m.admitted session now.assumeUniversal with
  | error fault => simp only [hadmitted]
  | ok admitted => simp only [hadmitted, unchanged, reduceCtorEq] at h

/-- An end with a fault changes nothing. -/
theorem finish_of_error {last : Session} {stoppedAt : Moment} {forced : Datum} {fault : Fault}
    (h : (m.finish last stoppedAt forced).result = .error fault) :
    (m.finish last stoppedAt forced).monitor = m := by
  cases hstop : last.stop stoppedAt (m.stopMode last forced) with
  | error fault => rw [finish_of_fault hstop]
  | ok stopped =>
    rw [finish_of_stop hstop] at h
    cases h

/-- A stop with a fault changes nothing. -/
theorem stopSession_of_error {id : Datum} {stoppedAt : Timestamp} {forced : Datum} {fault : Fault}
    (h : (m.stopSession id stoppedAt forced).result = .error fault) :
    (m.stopSession id stoppedAt forced).monitor = m := by
  unfold stopSession at h ⊢
  split at h
  · rfl
  · rfl
  · exact finish_of_error (eq_error_of_map h)

/-- A report with a fault changes nothing. -/
theorem update_of_error {id : Datum} {stateName : String} {position : Datum} {now : Timestamp}
    {fault : Fault} (h : (m.update id stateName position now).result = .error fault) :
    (m.update id stateName position now).monitor = m := by
  unfold update at h ⊢
  split at h
  · rfl
  · split at h
    · rfl
    · rfl
    · have hreport := eq_error_of_map h
      simp only [Outcome.map]
      unfold report at hreport ⊢
      split at hreport
      · rfl
      · split at hreport
        · rename_i hends
          rw [if_pos hends]
          exact finish_of_error (eq_error_of_map hreport)
        · cases hreport

/-- A look at one session in a sweep that has a fault changes nothing. -/
theorem sweepOne_of_error {id : String} {now : Moment} {fault : Fault}
    (h : (m.sweepOne id now).result = .error fault) : (m.sweepOne id now).monitor = m := by
  unfold sweepOne at h ⊢
  split at h
  · rfl
  · split at h
    · rfl
    · rfl
    · have hfinish := eq_error_of_map h
      exact finish_of_error hfinish

/-! ### Turnover -/

/-- What a move can do to the active sessions and to the histories, whether its call has a fault
    or not. -/
inductive Turnover (m m' : Monitor τ) : Move τ → Prop
  /-- A session is registered. -/
  | registered (session : Session) (user : User) (now : Timestamp) (context : SessionContext)
      (hcontext : (m.register session user now).result = .ok context)
      (hactive : m'.active = m.active.set session.id context.session)
      (hhistory : m'.history = m.history) : Turnover m m' (.start session user now)
  /-- An active session is heard of, and goes on. -/
  | reported (id stateName : String) (position : Datum) (now : Timestamp) (live updated : Session)
      (state : PlaybackState) (hlive : m.find? id = some live)
      (hupdated : live.advance state now.assumeUniversal position = .ok updated)
      (hactive : m'.active = m.active.set live.id updated) (hhistory : m'.history = m.history) :
      Turnover m m' (.report (.text id) stateName position now)
  /-- An active session ends, maybe after a last report. -/
  | ended {move : Move τ} (id : String) (live last : Session) (stoppedAt : Timestamp)
      (mode : StopMode) (result : StopResult) (hlive : m.find? id = some live)
      (hlast : last = live ∨ ∃ now position, live.advance .stopped now position = .ok last)
      (hstop : last.stop stoppedAt mode = .ok result)
      (hactive : m'.active = m.active.erase last.id)
      (hhistory : m'.history = (m.archive result.session).history) : Turnover m m' move
  /-- The histories are pruned, all of them or those in front of a fault. -/
  | pruned {move : Move τ} (cutoff : Moment) (hactive : m'.active = m.active)
      (hhistory : m'.history = (pruneHistories cutoff m.config.maxRecentSessions m.history).1) :
      Turnover m m' move
  /-- The sessions are left alone. -/
  | same {move : Move τ} (hactive : m'.active = m.active) (hhistory : m'.history = m.history) :
      Turnover m m' move

namespace Turnover

/-- Nothing happens to the sessions. -/
theorem refl (m : Monitor τ) (move : Move τ) : m.Turnover m move := .same rfl rfl

/-- The end of an active session is all that happens. -/
theorem of_finish {move : Move τ} {id : String} {live last : Session} {stoppedAt : Moment}
    {forced : Datum} {result : StopResult} (hlive : m.find? id = some live)
    (hlast : last = live ∨ ∃ now position, live.advance .stopped now position = .ok last)
    (h : (m.finish last stoppedAt forced).result = .ok result) :
    m.Turnover (m.finish last stoppedAt forced).monitor move := by
  obtain ⟨hstop, hmonitor⟩ := finish_eq_ok h
  rw [hmonitor]
  exact .ended id live last stoppedAt _ result hlive hlast hstop rfl rfl

end Turnover

/-- What a start does to the sessions. -/
theorem register_turnover (m : Monitor τ) (session : Session) (user : User) (now : Timestamp) :
    m.Turnover (m.register session user now).monitor (.start session user now) := by
  cases hresult : (m.register session user now).result with
  | error fault =>
    rw [register_of_error hresult]
    exact .same (m.addLock_active _) (m.addLock_history _)
  | ok context =>
    obtain ⟨_, hmonitor⟩ := register_cases hresult
    rw [hmonitor]
    exact .registered session user now context hresult rfl (m.addLock_history _)

/-- What a report does to the sessions. -/
theorem update_turnover (m : Monitor τ) (id : Datum) (stateName : String) (position : Datum)
    (now : Timestamp) :
    m.Turnover (m.update id stateName position now).monitor
      (.report id stateName position now) := by
  cases hresult : (m.update id stateName position now).result with
  | error fault =>
    rw [update_of_error hresult]
    exact .refl m _
  | ok result =>
    obtain ⟨_, hmonitor, _⟩ |
      ⟨name, live, state, reported, rfl, hlive, _, _, hreported, hmonitor⟩ := update_cases hresult
    · rw [hmonitor]
      exact .refl m _
    · rw [hmonitor]
      obtain ⟨updated, hupdated, ⟨_, _, hgoesOn⟩ | ⟨rfl, stopped, _, hstopped, hends⟩⟩ :=
        report_cases hreported
      · rw [hgoesOn]
        exact .reported name stateName position now live updated state hlive hupdated rfl rfl
      · rw [hends]
        exact .of_finish hlive (.inr ⟨_, _, hupdated⟩) hstopped

/-- What a stop does to the sessions. -/
theorem stopSession_turnover (m : Monitor τ) (id : Datum) (stoppedAt : Timestamp)
    (forced : Datum) (move : Move τ) :
    m.Turnover (m.stopSession id stoppedAt forced).monitor move := by
  cases hresult : (m.stopSession id stoppedAt forced).result with
  | error fault =>
    rw [stopSession_of_error hresult]
    exact .refl m _
  | ok result =>
    obtain ⟨_, hmonitor⟩ | ⟨name, live, stopped, _, hlive, _, hstopped, hmonitor⟩ :=
      stopSession_cases hresult
    · rw [hmonitor]
      exact .refl m _
    · rw [hmonitor]
      exact .of_finish hlive (.inl rfl) hstopped

/-- What a look at one session in a sweep does to the sessions. -/
theorem sweepOne_turnover (m : Monitor τ) (id : String) (now : Moment) (move : Move τ) :
    m.Turnover (m.sweepOne id now).monitor move := by
  cases hresult : (m.sweepOne id now).result with
  | error fault =>
    rw [sweepOne_of_error hresult]
    exact .refl m _
  | ok result =>
    obtain ⟨_, hmonitor⟩ | ⟨live, stopped, hlive, _, _, hstopped, hmonitor⟩ :=
      sweepOne_cases hresult
    · rw [hmonitor]
      exact .refl m _
    · rw [hmonitor]
      exact .of_finish hlive (.inl rfl) hstopped

/-- What the pruning of the histories does to the sessions. -/
theorem prune_turnover (m : Monitor τ) (now : Moment) (move : Move τ) :
    m.Turnover (m.prune now).monitor move := by
  unfold prune
  split
  · exact .refl m _
  · rename_i cutoff _
    exact .pruned cutoff rfl rfl

end Monitor

/-- **What a move does to the sessions**, whether its call has a fault or not. -/
theorem Watch.after_turnover {τ : Type} [Sub τ] [LE τ] [DecidableLE τ] (registry : Registry)
    (w : Watch τ) (move : Move τ) : w.monitor.Turnover (w.after registry move).monitor move := by
  cases hmove : move.onSessions with
  | false =>
    obtain ⟨hactive, _, hhistory⟩ := after_sameSessions registry w hmove
    exact .same hactive hhistory
  | true =>
    cases move with
    | start session user now =>
      rw [after_start_monitor]
      exact w.monitor.register_turnover session user now
    | report id stateName position now =>
      exact w.monitor.update_turnover id stateName position now
    | stop id stoppedAt forced => exact w.monitor.stopSession_turnover id stoppedAt forced _
    | sweepOn slot =>
      simp only [Watch.after]
      split
      · exact .refl _ _
      · rename_i sweep _
        simp only [Watch.sweepOn]
        split
        · exact w.monitor.prune_turnover sweep.now _
        · exact w.monitor.sweepOne_turnover _ sweep.now _
    | evaluated | flush | received | refused | interrupted | sweep | setRules | failure =>
      cases hmove

/-! ### Origins -/

namespace Monitor

variable {τ : Type} {m m' : Monitor τ} {move : Move τ}

/-- A session that is found is one of the active sessions. -/
theorem mem_active_of_find? {id : String} {live : Session} (h : m.find? id = some live) :
    live ∈ m.activeSessions :=
  Table.mem_values_of_get? (get?_of_find? h)

/-- Where an active session comes from after a move: it was active before, or it is the one that
    was registered, or it goes on after a report. -/
theorem Turnover.active_origin (h : m.Turnover m' move) {s : Session}
    (hs : s ∈ m'.activeSessions) :
    s ∈ m.activeSessions ∨
    (∃ session user now context, move = .start session user now ∧
      (m.register session user now).result = .ok context ∧ s = context.session) ∨
    ∃ id stateName position now live state, move = .report (.text id) stateName position now ∧
      live ∈ m.activeSessions ∧ live.advance state now.assumeUniversal position = .ok s := by
  unfold activeSessions at hs
  cases h with
  | registered session user now context hcontext hactive hhistory =>
    rw [hactive] at hs
    obtain rfl | hbefore := Table.mem_values_of_set hs
    · exact .inr (.inl ⟨session, user, now, context, rfl, hcontext, rfl⟩)
    · exact .inl hbefore
  | reported id stateName position now live updated state hlive hupdated hactive hhistory =>
    rw [hactive] at hs
    obtain rfl | hbefore := Table.mem_values_of_set hs
    · exact .inr (.inr ⟨id, stateName, position, now, live, state, rfl,
        mem_active_of_find? hlive, hupdated⟩)
    · exact .inl hbefore
  | ended id live last stoppedAt mode result hlive hlast hstop hactive hhistory =>
    rw [hactive] at hs
    exact .inl (Table.mem_values_of_erase hs)
  | pruned cutoff hactive hhistory =>
    rw [hactive] at hs
    exact .inl hs
  | same hactive hhistory =>
    rw [hactive] at hs
    exact .inl hs

/-- Where a session in a history comes from after a move: it was there before, or it was active
    and has ended, maybe after a last report. -/
theorem Turnover.history_origin (h : m.Turnover m' move) (hfiled : m.Filed) {userId : String}
    {s : Session} (hs : s ∈ m'.historyOf userId) :
    s ∈ m.historyOf userId ∨
    ∃ live last stoppedAt mode result, live ∈ m.activeSessions ∧
      (last = live ∨ ∃ now position, live.advance .stopped now position = .ok last) ∧
      last.stop stoppedAt mode = .ok result ∧ s = result.session := by
  unfold historyOf at hs
  cases h with
  | registered session user now context hcontext hactive hhistory =>
    rw [hhistory] at hs
    exact .inl hs
  | reported id stateName position now live updated state hlive hupdated hactive hhistory =>
    rw [hhistory] at hs
    exact .inl hs
  | ended id live last stoppedAt mode result hlive hlast hstop hactive hhistory =>
    rw [hhistory] at hs
    -- Only the history of the user whose session it was has got longer.
    have hmem : s ∈ (m.archive result.session).historyOf userId := hs
    rw [historyOf_archive] at hmem
    split at hmem
    · obtain hbefore | hlast' := List.mem_append.mp hmem
      · exact .inl hbefore
      · exact .inr ⟨live, last, stoppedAt, mode, result, mem_active_of_find? hlive, hlast, hstop,
          List.mem_singleton.mp hlast'⟩
    · exact .inl hmem
  | pruned cutoff hactive hhistory =>
    rw [hhistory] at hs
    exact .inl ((pruneHistories_suffix cutoff _ hfiled.distinct userId).subset hs)
  | same hactive hhistory =>
    rw [hhistory] at hs
    exact .inl hs

/-! ### Ids -/

/-- Is each active session there once, under its own id? -/
structure Keyed (m : Monitor τ) : Prop where
  distinct : m.active.keys.Nodup
  ownId : ∀ id s, m.active.get? id = some s → s.id = id

namespace Keyed

/-- A monitor that has not seen anything yet has no active session. -/
theorem fresh (server : Server) (config : MonitorConfig) (rules : List Rule)
    (hasReceiver : Bool) (cooldown : τ) :
    Keyed (.fresh server config rules hasReceiver cooldown) where
  distinct := .nil
  ownId _ _ h := absurd h (Option.some_ne_none _).symm

/-- Active sessions that are the same are there under the same ids. -/
theorem congr (h : m.Keyed) (hactive : m'.active = m.active) : m'.Keyed :=
  ⟨hactive ▸ h.distinct, fun id s hs => h.ownId id s (hactive ▸ hs)⟩

/-- A session that is put under its own id is there once. -/
theorem set (h : m.Keyed) {id : String} {s : Session} (hid : s.id = id)
    (hactive : m'.active = m.active.set id s) : m'.Keyed := by
  refine ⟨hactive ▸ Table.nodup_keys_set h.distinct, fun other s' hs => ?_⟩
  rw [hactive] at hs
  by_cases heq : other = id
  · subst heq
    rw [Table.get?_set_self] at hs
    exact Option.some.inj hs ▸ hid
  · rw [Table.get?_set_of_ne _ _ heq] at hs
    exact h.ownId other s' hs

/-- **Every move keeps each active session under its own id**, whether its call has a fault or
    not. -/
theorem turnover (h : m.Keyed) (hturnover : m.Turnover m' move) : m'.Keyed := by
  cases hturnover with
  | registered session user now context hcontext hactive hhistory =>
    exact h.set (Accounted.admitted_facts (register_cases hcontext).1).1 hactive
  | reported id stateName position now live updated state hlive hupdated hactive hhistory =>
    exact h.set (Session.advance_eq_ok hupdated).1 hactive
  | ended id live last stoppedAt mode result hlive hlast hstop hactive hhistory =>
    refine ⟨hactive ▸ Table.nodup_keys_erase h.distinct, fun other s hs => ?_⟩
    rw [hactive] at hs
    exact h.ownId other s (Accounted.get?_of_erase hs)
  | pruned cutoff hactive hhistory => exact h.congr hactive
  | same hactive hhistory => exact h.congr hactive

/-- A session that is put under its own id is the only one of that id. -/
theorem filter_set (h : m.Keyed) {s : Session} :
    (m.active.set s.id s).values.filter (fun other => other.id = s.id) = [s] := by
  have hothers : (m.active.erase s.id).values.filter (fun other => other.id = s.id) = [] := by
    refine List.filter_eq_nil_iff.mpr fun other hother hsame => ?_
    obtain ⟨id, hfound⟩ :=
      Table.exists_get?_of_mem_values (Table.nodup_keys_erase h.distinct) hother
    -- What is found under its own id is found under the one that was removed.
    obtain rfl : other.id = id := h.ownId id other (Accounted.get?_of_erase hfound)
    rw [of_decide_eq_true hsame, Table.get?_erase_self] at hfound
    cases hfound
  have hperm := (Table.values_set_perm h.distinct s.id s).filter fun other => other.id = s.id
  rw [List.filter_cons_of_pos (by simp), hothers] at hperm
  exact List.perm_singleton.mp hperm

end Keyed

end Monitor

/-- Each active session of a monitor in use is there once, under its own id. -/
theorem Watch.keyed_run {τ : Type} [Sub τ] [LE τ] [DecidableLE τ] (registry : Registry)
    {w : Watch τ} (h : w.monitor.Keyed) (moves : List (Move τ)) :
    (w.run registry moves).monitor.Keyed := by
  induction moves generalizing w with
  | nil => exact h
  | cons move rest ih => exact ih (h.turnover (Watch.after_turnover registry w move))

end StreamWatch
