import StreamWatch.Proofs.Table
import StreamWatch.Proofs.Watch.Basic

namespace StreamWatch

/-!
# Every registration ends once

What the results of starts, reports, stops and sweeps tell is enough to say which sessions are
active: those that were registered, and neither registered again nor ended since.

* `Ledger` — an account of the registrations, kept from the results alone;
* `Accounted` — the invariant that ties a monitor to its ledger;
* `Accounted.step` — an operation without a fault keeps it, case by case;
* `Watch.Accounted.run` — so does every run without a fault, whatever the order of its moves.
-/

/-! ### Ledgers -/

/-- An account of registrations.  The number of a registration is its place among all of
    them. -/
structure Ledger where
  /-- The sessions as they were registered, the first one in front. -/
  starts : List Session
  /-- The numbers of the registrations that live, by the ids of their sessions. -/
  live : Table Nat
  /-- The numbers of those whose session was registered again while it was active. -/
  replaced : List Nat
  /-- The numbers of those that ended, with the snapshots that they left behind. -/
  ended : List (Nat × Session)
  /-- The snapshots of ends that no registration fits. -/
  stray : List Session

namespace Ledger

/-- A ledger without any registration. -/
def blank : Ledger := ⟨[], [], [], [], []⟩

/-- A ledger after a session was registered. -/
def register (l : Ledger) (session : Session) : Ledger :=
  { l with
    starts := l.starts ++ [session]
    live := l.live.set session.id l.starts.length
    replaced := l.replaced ++ (l.live.get? session.id).toList }

/-- A ledger after a session has ended. -/
def close (l : Ledger) (session : Session) : Ledger :=
  match l.live.get? session.id with
  | some number =>
    { l with
      live := l.live.erase session.id
      ended := l.ended ++ [(number, session)] }
  | none => { l with stray := l.stray ++ [session] }

/-- A ledger after something that a result told, if it told anything. -/
def after (l : Ledger) : Option Deed → Ledger
  | some (.registered session) => l.register session
  | some (.ended session) => l.close session
  | none => l

end Ledger

/-! ### Histories -/

/-- A session that is archived is put behind the others of its user. -/
theorem Monitor.historyOf_archive {τ : Type} (m : Monitor τ) (stopped : Session)
    (userId : String) :
    (m.archive stopped).historyOf userId =
      if stopped.userId = userId then m.historyOf userId ++ [stopped] else m.historyOf userId := by
  unfold Monitor.historyOf Monitor.archive
  by_cases howner : stopped.userId = userId
  · rw [if_pos howner, howner, Table.get?_set_self, Option.getD_some]
    rfl
  · rw [if_neg howner, Table.get?_set_of_ne _ _ fun e => howner e.symm]

/-- What is kept of a history are its last sessions. -/
theorem Monitor.kept_suffix (cutoff : Moment) (most : Nat) (sessions : List Session) :
    kept cutoff most sessions <:+ sessions :=
  (List.drop_suffix _ _).trans (List.dropWhile_suffix _)

/-- Pruning adds no history. -/
theorem Monitor.keys_pruneHistories (cutoff : Moment) (most : Int)
    (histories : Table (List Session)) :
    (pruneHistories cutoff most histories).1.keys.Sublist histories.keys := by
  induction histories with
  | nil => exact .refl _
  | cons entry rest ih =>
    obtain ⟨user, sessions⟩ := entry
    simp only [pruneHistories]
    split
    · exact .refl _
    · simp only
      split
      · exact ih.cons user
      · exact ih.cons_cons user

/-- Pruning leaves each user the history of what is kept, and none where nothing is kept, if each
    user has one history. -/
theorem Monitor.get?_pruneHistories (cutoff : Moment) {most : Int} (hmost : 0 ≤ most)
    {histories : Table (List Session)} (hdistinct : histories.keys.Nodup) (userId : String) :
    (pruneHistories cutoff most histories).1.get? userId =
      ((histories.get? userId).map (kept cutoff most.toNat)).filter (!·.isEmpty) := by
  induction histories with
  | nil => rfl
  | cons entry rest ih =>
    obtain ⟨user, sessions⟩ := entry
    obtain ⟨hnew, hrest⟩ := List.nodup_cons.mp hdistinct
    simp only [pruneHistories, if_neg (Int.not_lt.mpr hmost)]
    by_cases howner : user = userId
    · subst howner
      -- There is no second history of this user that could come to light.
      have hnone : (pruneHistories cutoff most rest).1.get? user = none :=
        (Table.get?_eq_none_iff _).mpr fun hold =>
          hnew ((keys_pruneHistories cutoff most rest).subset hold)
      simp only [Table.get?, if_true, Option.map_some]
      cases hempty : (kept cutoff most.toNat sessions).isEmpty with
      | true => rw [if_pos rfl, hnone, Option.filter_some_neg (by rw [hempty]; decide)]
      | false =>
        rw [if_neg Bool.false_ne_true, Option.filter_some_pos (by rw [hempty]; rfl), Table.get?,
          if_pos rfl]
    · simp only [Table.get?, howner, if_false]
      split
      · exact ih hrest
      · simpa only [Table.get?, howner, if_false] using ih hrest

/-- Pruning keeps of each history what is kept of it, if each user has one history. -/
theorem Monitor.getD_pruneHistories (cutoff : Moment) {most : Int} (hmost : 0 ≤ most)
    {histories : Table (List Session)} (hdistinct : histories.keys.Nodup) (userId : String) :
    ((pruneHistories cutoff most histories).1.get? userId).getD [] =
      kept cutoff most.toNat ((histories.get? userId).getD []) := by
  rw [get?_pruneHistories cutoff hmost hdistinct]
  cases histories.get? userId with
  | none =>
    simp only [kept, Option.map_none, Option.filter_none, Option.getD_none, List.dropWhile_nil,
      List.drop_nil]
  | some sessions =>
    simp only [Option.map_some, Option.getD_some]
    cases hempty : (kept cutoff most.toNat sessions).isEmpty with
    | true =>
      rw [Option.filter_some_neg (by rw [hempty]; decide), List.isEmpty_iff.mp hempty,
        Option.getD_none]
    | false => rw [Option.filter_some_pos (by rw [hempty]; rfl), Option.getD_some]

/-- Pruning keeps the last sessions of each history, if each user has one history. -/
theorem Monitor.pruneHistories_suffix (cutoff : Moment) (most : Int)
    {histories : Table (List Session)} (hdistinct : histories.keys.Nodup) (userId : String) :
    ((pruneHistories cutoff most histories).1.get? userId).getD [] <:+
      (histories.get? userId).getD [] := by
  by_cases hfaulty : most < 0
  · -- The first history is emptied, and then there is a fault.
    cases histories with
    | nil => exact List.suffix_refl _
    | cons entry rest =>
      simp only [pruneHistories, if_pos hfaulty, Table.get?]
      split
      · exact List.nil_suffix
      · exact List.suffix_refl _
  · rw [getD_pruneHistories cutoff (Int.not_lt.mp hfaulty) hdistinct]
    exact kept_suffix cutoff most.toNat _

/-! ### The invariant -/

/-- Does a ledger account for the sessions of a monitor? -/
structure Accounted {τ : Type} (m : Monitor τ) (l : Ledger) : Prop where
  /-- Exactly the active sessions have a lock. -/
  locks : m.locks = m.active.keys
  distinct : m.active.keys.Nodup
  /-- Every active session is kept under its own id. -/
  ownId : ∀ id s, m.active.get? id = some s → s.id = id
  /-- Exactly the active sessions have a registration that lives. -/
  live : l.live.keys = m.active.keys
  owner : ∀ id number s, l.live.get? id = some number → m.active.get? id = some s →
    ∃ started, l.starts[number]? = some started ∧ started.id = id ∧ started.userId = s.userId
  /-- Each registration lives, or was replaced, or ended, and only once. -/
  once : (l.live.values ++ l.replaced ++ l.ended.map Prod.fst).Perm
    (List.range l.starts.length)
  noStray : l.stray = []
  /-- What ended is stopped, and the session of its registration. -/
  endings : ∀ number s, (number, s) ∈ l.ended → s.state = .stopped ∧
    ∃ started, l.starts[number]? = some started ∧ started.id = s.id ∧ started.userId = s.userId
  filed : m.history.keys.Nodup
  /-- A history has only sessions of its user that ended, in their order, up to the last. -/
  histories : ∀ userId, m.historyOf userId <:+
    (l.ended.map Prod.snd).filter fun s => decide (s.userId = userId)

namespace Accounted

variable {τ : Type} {m : Monitor τ} {l : Ledger}

/-- A monitor that has not seen anything yet is accounted for by a blank ledger. -/
theorem fresh (server : Server) (config : MonitorConfig) (rules : List Rule)
    (hasReceiver : Bool) (cooldown : τ) :
    Accounted (.fresh server config rules hasReceiver cooldown) .blank where
  locks := rfl
  distinct := .nil
  ownId _ _ h := absurd h (Option.some_ne_none _).symm
  live := rfl
  owner _ _ _ h := absurd h (Option.some_ne_none _).symm
  once := .nil
  noStray := rfl
  endings _ _ h := absurd h List.not_mem_nil
  filed := .nil
  histories _ := ⟨[], rfl⟩

/-- A list keeps what is in its places when something is put behind it. -/
theorem getElem?_concat {α : Type} {xs : List α} {x y : α} {n : Nat} (h : xs[n]? = some x) :
    (xs ++ [y])[n]? = some x := by
  rw [List.getElem?_append_left (List.getElem?_eq_some_iff.mp h).1, h]

/-- A session that is registered has the id and the user that it came with. -/
theorem admitted_facts {session admitted : Session} {now : Moment}
    (h : m.admitted session now = .ok admitted) :
    admitted.id = session.id ∧ admitted.userId = session.userId := by
  obtain ⟨link, rfl, _⟩ := Monitor.admits_of_admitted h
  exact ⟨rfl, rfl⟩

/-- Reports may change every active session. -/
theorem find?_eq (h : Accounted m l) (id : String) : m.find? id = m.active.get? id := by
  unfold Monitor.find? Monitor.isLocked
  rw [h.locks]
  split
  · rfl
  · rename_i hnone
    rw [List.contains_iff_mem] at hnone
    exact ((Table.get?_eq_none_iff _).mpr hnone).symm

/-- An active session that reports may change is found under its own id. -/
theorem get?_of_find? (h : Accounted m l) {id : String} {live : Session}
    (hlive : m.find? id = some live) : live.id = id ∧ m.active.get? live.id = some live := by
  rw [h.find?_eq] at hlive
  have hid := h.ownId id live hlive
  exact ⟨hid, hid ▸ hlive⟩

/-- A registration is entered. -/
theorem registered (h : Accounted m l) {session admitted : Session} {now : Moment}
    (hadmitted : m.admitted session now = .ok admitted) :
    Accounted { m.addLock session.id with active := m.active.set session.id admitted }
      (l.register admitted) := by
  obtain ⟨hid, huser⟩ := admitted_facts hadmitted
  -- The lock is made as the entry of the table is: behind the others, unless it is there.
  have hlocks : (m.addLock session.id).locks =
      if session.id ∈ m.active.keys then m.active.keys else m.active.keys ++ [session.id] := by
    unfold Monitor.addLock Monitor.isLocked
    rw [h.locks]
    by_cases hactive : session.id ∈ m.active.keys
    · simp only [List.contains_iff_mem, hactive, if_true, h.locks]
    · simp only [List.contains_iff_mem, hactive, if_false]
  have hdistinct : l.live.keys.Nodup := h.live ▸ h.distinct
  have hlast : (l.starts ++ [admitted])[l.starts.length]? = some admitted :=
    List.getElem?_concat_length
  refine ⟨?_, ?_, ?_, ?_, ?_, ?_, h.noStray, ?_, ?_, ?_⟩
  · show (m.addLock session.id).locks = (m.active.set session.id admitted).keys
    rw [hlocks, Table.keys_set]
  · exact Table.nodup_keys_set h.distinct
  · intro id s hs
    by_cases heq : id = session.id
    · subst heq
      rw [Table.get?_set_self] at hs
      rw [← Option.some.inj hs, hid]
    · rw [Table.get?_set_of_ne _ _ heq] at hs
      exact h.ownId id s hs
  · show (l.live.set admitted.id l.starts.length).keys = (m.active.set session.id admitted).keys
    rw [Table.keys_set, Table.keys_set, h.live, hid]
  · intro id number s hnumber hs
    simp only [Ledger.register, hid] at hnumber ⊢
    by_cases heq : id = session.id
    · subst heq
      rw [Table.get?_set_self] at hnumber hs
      rw [← Option.some.inj hnumber, ← Option.some.inj hs]
      exact ⟨admitted, hlast, hid, rfl⟩
    · rw [Table.get?_set_of_ne _ _ heq] at hnumber hs
      obtain ⟨started, hstarted, howns⟩ := h.owner id number s hnumber hs
      exact ⟨started, getElem?_concat hstarted, howns⟩
  · -- The registration under this id, if one lived, goes over to those that were replaced.
    refine List.perm_iff_count.mpr fun n => ?_
    have honce := h.once.count_eq n
    have hbefore := (Table.values_perm hdistinct admitted.id).count_eq n
    have hafter := (Table.values_set_perm hdistinct admitted.id l.starts.length).count_eq n
    simp only [Ledger.register, List.length_append, List.length_singleton, List.range_succ,
      List.count_append, List.count_cons, List.count_nil] at *
    omega
  · intro number s hs
    obtain ⟨hstate, started, hstarted, howns⟩ := h.endings number s hs
    exact ⟨hstate, started, getElem?_concat hstarted, howns⟩
  · show (m.addLock session.id).history.keys.Nodup
    rw [Monitor.addLock_history]
    exact h.filed
  · intro userId
    show ((m.addLock session.id).history.get? userId).getD [] <:+ _
    rw [Monitor.addLock_history]
    exact h.histories userId

/-- What is left after a removal was there before. -/
theorem get?_of_erase {α : Type} {key other : String} {value : α} {table : Table α}
    (h : (table.erase key).get? other = some value) : table.get? other = some value := by
  by_cases heq : other = key
  · subst heq
    rw [Table.get?_erase_self] at h
    cases h
  · rwa [Table.get?_erase_of_ne _ heq] at h

/-- A report changes no entry. -/
theorem reported (h : Accounted m l) {id : String} {live updated : Session}
    (hlive : m.find? id = some live) (hid : updated.id = live.id)
    (huser : updated.userId = live.userId) :
    Accounted { m with active := m.active.set live.id updated } l := by
  obtain ⟨_, hfound⟩ := h.get?_of_find? hlive
  have hkeys : (m.active.set live.id updated).keys = m.active.keys := by
    have hactive : live.id ∈ m.active.keys := by
      by_contra hnone
      rw [(Table.get?_eq_none_iff _).mpr hnone] at hfound
      cases hfound
    rw [Table.keys_set, if_pos hactive]
  refine ⟨h.locks.trans hkeys.symm, ?_, ?_, h.live.trans hkeys.symm, ?_, h.once, h.noStray,
    h.endings, h.filed, h.histories⟩
  · exact Table.nodup_keys_set h.distinct
  · intro other s hs
    by_cases heq : other = live.id
    · subst heq
      rw [Table.get?_set_self] at hs
      rw [← Option.some.inj hs, hid]
    · rw [Table.get?_set_of_ne _ _ heq] at hs
      exact h.ownId other s hs
  · intro other number s hnumber hs
    by_cases heq : other = live.id
    · subst heq
      rw [Table.get?_set_self] at hs
      rw [← Option.some.inj hs, huser]
      exact h.owner live.id number live hnumber hfound
    · rw [Table.get?_set_of_ne _ _ heq] at hs
      exact h.owner other number s hnumber hs

/-- An end is entered with the registration that lives. -/
theorem ended (h : Accounted m l) {id : String} {live stopped : Session}
    (hlive : m.find? id = some live) (hid : stopped.id = live.id)
    (huser : stopped.userId = live.userId) (hstate : stopped.state = .stopped) :
    Accounted ((m.release live.id).archive stopped) (l.close stopped) := by
  obtain ⟨_, hfound⟩ := h.get?_of_find? hlive
  have hdistinct : l.live.keys.Nodup := h.live ▸ h.distinct
  -- An active session has a registration that lives, so that its end is no stray one.
  obtain ⟨number, hnumber⟩ : ∃ number, l.live.get? stopped.id = some number := by
    rw [hid]
    refine Option.ne_none_iff_exists'.mp fun hnone => ?_
    rw [Table.get?_eq_none_iff, h.live, ← Table.get?_eq_none_iff, hfound] at hnone
    cases hnone
  obtain ⟨started, hstarted, hsame, howns⟩ :=
    h.owner live.id number live (hid ▸ hnumber) hfound
  unfold Ledger.close
  rw [hnumber]
  refine ⟨?_, ?_, ?_, ?_, ?_, ?_, h.noStray, ?_, ?_, ?_⟩
  · show m.locks.filter (· ≠ live.id) = (m.active.erase live.id).keys
    rw [Table.keys_erase, h.locks]
  · exact Table.nodup_keys_erase h.distinct
  · intro other s hs
    exact h.ownId other s (get?_of_erase hs)
  · show (l.live.erase stopped.id).keys = (m.active.erase live.id).keys
    rw [Table.keys_erase, Table.keys_erase, h.live, hid]
  · intro other n s hn hs
    exact h.owner other n s (get?_of_erase hn) (get?_of_erase hs)
  · -- Its number goes over from those that live to those that ended.
    refine List.perm_iff_count.mpr fun n => ?_
    have honce := h.once.count_eq n
    have hbefore := (Table.values_perm hdistinct stopped.id).count_eq n
    rw [hnumber] at hbefore
    simp only [List.map_append, List.map_cons, List.map_nil, Option.toList_some,
      List.count_append, List.count_cons, List.count_nil] at *
    omega
  · intro n s hs
    obtain hs | hs := List.mem_append.mp hs
    · exact h.endings n s hs
    · obtain ⟨rfl, rfl⟩ := Prod.mk.inj (List.mem_singleton.mp hs)
      exact ⟨hstate, started, hstarted, hsame.trans hid.symm, howns.trans huser.symm⟩
  · exact Table.nodup_keys_set h.filed
  · intro userId
    rw [Monitor.historyOf_archive, List.map_append, List.filter_append]
    by_cases howner : stopped.userId = userId
    · have hlast : [stopped].filter (fun s => decide (s.userId = userId)) = [stopped] := by
        simp only [List.filter_cons, howner, decide_true, if_true, List.filter_nil]
      rw [if_pos howner, List.map_singleton, hlast]
      exact List.suffix_append_self_iff.mpr (h.histories userId)
    · have hlast : [stopped].filter (fun s => decide (s.userId = userId)) = [] := by
        simp only [List.filter_cons, howner, decide_false, Bool.false_eq_true, if_false,
          List.filter_nil]
      rw [if_neg howner, List.map_singleton, hlast, List.append_nil]
      exact h.histories userId

/-- The pruning of the histories changes no entry. -/
theorem pruned (h : Accounted m l) (cutoff : Moment) (most : Int) :
    Accounted { m with history := (Monitor.pruneHistories cutoff most m.history).1 } l :=
  { h with
    filed := (Monitor.keys_pruneHistories cutoff most m.history).nodup h.filed
    histories := fun userId =>
      (Monitor.pruneHistories_suffix cutoff most h.filed userId).trans (h.histories userId) }

/-- What happens elsewhere changes no entry. -/
theorem of_sameSessions {m' : Monitor τ} (h : Accounted m l) (hsame : m.SameSessions m') :
    Accounted m' l := by
  obtain ⟨hactive, hlocks, hhistory⟩ := hsame
  obtain ⟨hl, hdistinct, hown, hlive, howner, honce, hstray, hendings, hfiled, hhistories⟩ := h
  refine ⟨?_, ?_, ?_, ?_, ?_, honce, hstray, hendings, ?_, ?_⟩
  · rw [hactive, hlocks, hl]
  · rw [hactive]
    exact hdistinct
  · rw [hactive]
    exact hown
  · rw [hactive]
    exact hlive
  · rw [hactive]
    exact howner
  · rw [hhistory]
    exact hfiled
  · unfold Monitor.historyOf
    rw [hhistory]
    exact hhistories

/-- **A step keeps the account.** -/
theorem step {deed : Option Deed} {m' : Monitor τ} (h : Accounted m l) (hstep : m.Step deed m') :
    Accounted m' (l.after deed) := by
  cases hstep with
  | registered session admitted now hadmitted => exact h.registered hadmitted
  | reported id live updated state now position hlive hgoesOn hupdated =>
    obtain ⟨hid, huser, _⟩ := Session.advance_eq_ok hupdated
    exact h.reported hlive hid huser
  | ended id live last stoppedAt forced result hlive hlast hresult =>
    obtain ⟨hid, huser⟩ : last.id = live.id ∧ last.userId = live.userId := by
      obtain rfl | ⟨now, position, hadvance⟩ := hlast
      · exact ⟨rfl, rfl⟩
      · obtain ⟨hid, huser, _⟩ := Session.advance_eq_ok hadvance
        exact ⟨hid, huser⟩
    obtain ⟨hid', huser', hstate⟩ := Session.stop_facts hresult
    -- The last report may have changed the session, but not the id under which it is kept.
    rw [hid]
    exact h.ended hlive (hid'.trans hid) (huser'.trans huser) hstate
  | pruned cutoff hpruned => exact h.pruned cutoff _
  | elsewhere m' hsame => exact h.of_sameSessions hsame

end Accounted

/-! ### What a step does to histories and what it ignores -/

namespace Monitor

variable {τ : Type} {m m' : Monitor τ}

/-- An end puts its snapshot into the history of its user, and into no other one. -/
theorem Step.historyOf_ended {stopped : Session} (h : m.Step (some (.ended stopped)) m')
    (userId : String) :
    m'.historyOf userId =
      m.historyOf userId ++ if stopped.userId = userId then [stopped] else [] := by
  cases h with
  | ended id live last stoppedAt forced result hlive hlast hresult =>
    rw [historyOf_archive]
    split
    · rfl
    · exact (List.append_nil _).symm

/-- What is no end puts nothing into a history. -/
theorem Step.historyOf_suffix {deed : Option Deed} (h : m.Step deed m')
    (hdeed : ∀ stopped, deed ≠ some (.ended stopped)) (hfiled : m.history.keys.Nodup)
    (userId : String) : m'.historyOf userId <:+ m.historyOf userId := by
  cases h with
  | registered session admitted now hadmitted =>
    have hsame : ((m.addLock session.id).history.get? userId).getD [] = m.historyOf userId := by
      rw [addLock_history, historyOf]
    exact hsame ▸ List.suffix_refl _
  | reported => exact List.suffix_refl _
  | ended id live last stoppedAt forced result hlive hlast hresult => exact absurd rfl (hdeed _)
  | pruned cutoff hpruned => exact pruneHistories_suffix cutoff _ hfiled userId
  | elsewhere m' hsame =>
    have hsame' : m'.historyOf userId = m.historyOf userId := by
      rw [historyOf, hsame.history, historyOf]
    exact hsame' ▸ List.suffix_refl _

/-- Does a monitor ignore an id: do stops and reports return nothing, do sweeps skip it, and does
    nothing change? -/
structure Ignores (m : Monitor τ) (id : String) : Prop where
  stop : ∀ stoppedAt forced, (m.stopSession (.text id) stoppedAt forced).result = .ok none ∧
    (m.stopSession (.text id) stoppedAt forced).monitor = m
  report : ∀ stateName position now,
    (m.update (.text id) stateName position now).result = .ok none ∧
      (m.update (.text id) stateName position now).monitor = m
  sweep : ∀ now, (m.sweepOne id now).result = .ok none ∧ (m.sweepOne id now).monitor = m

/-- An id of which no session is active is ignored. -/
theorem ignores_of_inactive {id : String} (h : m.active.get? id = none) : m.Ignores id := by
  have hfind : m.find? id = none := by
    unfold find?
    split
    · exact h
    · rfl
  refine ⟨fun stoppedAt forced => ?_, fun stateName position now => ?_, fun now => ?_⟩
  · simp only [stopSession, findGiven_text, hfind]
    exact ⟨rfl, rfl⟩
  · simp only [update, findGiven_text, hfind]
    split <;> exact ⟨rfl, rfl⟩
  · simp only [sweepOne, hfind]
    exact ⟨rfl, rfl⟩

end Monitor

/-! ### Runs -/

/-- Does a move work on sessions?  The others queue matches, hand them over or set the rules. -/
def Move.onSessions {τ : Type} : Move τ → Bool
  | .start .. | .report .. | .stop .. | .sweepOn _ => true
  | _ => false

namespace Watch

variable {τ : Type} [Sub τ] [LE τ] [DecidableLE τ]

/-- What the result of a move tells of registrations, unless its call has a fault. -/
def deed (w : Watch τ) : Move τ → Except Fault (Option Deed)
  | .start session user now =>
    (w.monitor.register session user now).result.map fun context =>
      some (.registered context.session)
  | .report id stateName position now =>
    (w.monitor.update id stateName position now).result.map Deed.ofReport
  | .stop id stoppedAt forced =>
    (w.monitor.stopSession id stoppedAt forced).result.map Deed.ofStop
  | .sweepOn slot =>
    match w.sweeps[slot]? with
    | none => .ok none
    | some ⟨now, []⟩ => (w.monitor.prune now).result.map fun _ => none
    | some ⟨now, id :: _⟩ => (w.monitor.sweepOne id now).result.map Deed.ofStop
  | _ => .ok none

/-- What the results of a run tell, unless one of its calls has a fault. -/
def deeds (registry : Registry) (w : Watch τ) : List (Move τ) → Except Fault (List (Option Deed))
  | [] => .ok []
  | move :: rest => do
    let deed ← w.deed move
    let others ← (w.after registry move).deeds registry rest
    return deed :: others

/-- Handing a batch on does not change the sessions. -/
theorem handOver_sameSessions (w : Watch τ) (now : τ) (batch : List Match)
    (numbers : List Nat) : w.monitor.SameSessions (w.handOver now batch numbers).monitor := by
  unfold Watch.handOver
  simp only
  split <;> exact w.monitor.offer_sameSessions now batch

/-- A flush that goes on does not change the sessions. -/
theorem goOn_sameSessions (w : Watch τ) (slot : Nat) (offeredAt : τ)
    (noted : Match → Monitor τ) (hnoted : ∀ first, w.monitor.SameSessions (noted first)) :
    w.monitor.SameSessions (w.goOn slot offeredAt noted).monitor := by
  unfold Watch.goOn
  split
  · exact .refl _
  · split
    · exact .refl _
    · rename_i flush _ _ first rest _
      exact (hnoted first).trans
        (handOver_sameSessions (w.settle slot flush (noted first)) offeredAt rest _)

/-- What does not work on sessions leaves them alone. -/
theorem after_sameSessions (registry : Registry) (w : Watch τ) {move : Move τ}
    (h : move.onSessions = false) : w.monitor.SameSessions (w.after registry move).monitor := by
  cases move with
  | start | report | stop | sweepOn => cases h
  | evaluated slot =>
    simp only [Watch.after]
    split
    · exact .refl _
    · simp only [Watch.enqueue, Monitor.enqueue]
      split <;> exact ⟨rfl, rfl, rfl⟩
  | flush takenAt offeredAt =>
    have htaken := w.monitor.takePending_sameSessions takenAt
    simp only [Watch.after, Watch.flush]
    split
    · exact htaken
    · exact htaken.trans (handOver_sameSessions (w.taking _) offeredAt _ _)
  | received slot offeredAt =>
    exact goOn_sameSessions w slot offeredAt _ fun _ => ⟨rfl, rfl, rfl⟩
  | refused slot settledAt offeredAt error =>
    exact goOn_sameSessions w slot offeredAt _ fun _ => ⟨rfl, rfl, rfl⟩
  | interrupted slot =>
    simp only [Watch.after]
    split <;> exact ⟨rfl, rfl, rfl⟩
  | sweep | setRules | failure => exact ⟨rfl, rfl, rfl⟩

/-- What a start leaves behind is what the registration leaves behind. -/
theorem after_start_monitor (registry : Registry) (w : Watch τ) (session : Session) (user : User)
    (now : Timestamp) : (w.after registry (.start session user now)).monitor =
      (w.monitor.register session user now).monitor := by
  simp only [Watch.after, Watch.start]
  split <;> rfl

/-- **A move is a step** of the monitor, and tells what the step does, unless it has a fault. -/
theorem step_of_deed (registry : Registry) (w : Watch τ) {move : Move τ} {deed : Option Deed}
    (h : w.deed move = .ok deed) : w.monitor.Step deed (w.after registry move).monitor := by
  cases move with
  | start session user now =>
    obtain ⟨context, hresult, rfl⟩ := eq_ok_of_map h
    rw [after_start_monitor]
    exact Monitor.register_step hresult
  | report id stateName position now =>
    obtain ⟨result, hresult, rfl⟩ := eq_ok_of_map h
    exact Monitor.update_step hresult
  | stop id stoppedAt forced =>
    obtain ⟨result, hresult, rfl⟩ := eq_ok_of_map h
    exact Monitor.stopSession_step hresult
  | sweepOn slot =>
    simp only [Watch.deed, Watch.after] at h ⊢
    cases hslot : w.sweeps[slot]? with
    | none =>
      simp only [hslot] at h
      cases h
      exact .refl _
    | some sweep =>
      obtain ⟨now, left⟩ := sweep
      cases left with
      | nil =>
        simp only [hslot] at h
        obtain ⟨_, hresult, rfl⟩ := eq_ok_of_map h
        exact Monitor.prune_step hresult
      | cons id rest =>
        simp only [hslot] at h
        obtain ⟨result, hresult, rfl⟩ := eq_ok_of_map h
        exact Monitor.sweepOne_step hresult
  | evaluated | flush | received | refused | interrupted | sweep | setRules | failure =>
    cases h
    exact .elsewhere _ (after_sameSessions registry w rfl)

/-- The results of a run are those of its first move and those of the others. -/
theorem deeds_cons_eq_ok {registry : Registry} {w : Watch τ} {move : Move τ}
    {rest : List (Move τ)} {told : List (Option Deed)}
    (h : w.deeds registry (move :: rest) = .ok told) :
    ∃ deed others, w.deed move = .ok deed ∧
      (w.after registry move).deeds registry rest = .ok others ∧ told = deed :: others := by
  unfold Watch.deeds at h
  cases hdeed : w.deed move with
  | error fault => simp only [hdeed, bind, Except.bind, reduceCtorEq] at h
  | ok deed =>
    cases hothers : (w.after registry move).deeds registry rest with
    | error fault => simp only [hdeed, hothers, bind, Except.bind, reduceCtorEq] at h
    | ok others =>
      simp only [hdeed, hothers, bind, Except.bind, pure, Except.pure, Except.ok.injEq] at h
      exact ⟨deed, others, rfl, rfl, h.symm⟩

/-- The results of a run are those of all its moves but the last, and that of the last. -/
theorem deeds_concat_eq_ok {registry : Registry} {w : Watch τ} {moves : List (Move τ)}
    {move : Move τ} {told : List (Option Deed)}
    (h : w.deeds registry (moves ++ [move]) = .ok told) :
    ∃ earlier deed, w.deeds registry moves = .ok earlier ∧
      (w.run registry moves).deed move = .ok deed ∧ told = earlier ++ [deed] := by
  induction moves generalizing w told with
  | nil =>
    obtain ⟨deed, others, hdeed, hothers, rfl⟩ := deeds_cons_eq_ok h
    obtain rfl := Except.ok.inj hothers
    exact ⟨[], deed, rfl, hdeed, rfl⟩
  | cons first rest ih =>
    obtain ⟨deed, others, hdeed, hothers, rfl⟩ := deeds_cons_eq_ok h
    obtain ⟨earlier, last, hearlier, hlast, rfl⟩ := ih hothers
    refine ⟨deed :: earlier, last, ?_, hlast, rfl⟩
    simp only [Watch.deeds, hdeed, hearlier, bind, Except.bind, pure, Except.pure]

/-- A run without a fault keeps the account. -/
theorem accounted_run (registry : Registry) {w : Watch τ} {l : Ledger}
    (h : Accounted w.monitor l) {moves : List (Move τ)} {told : List (Option Deed)}
    (htold : w.deeds registry moves = .ok told) :
    Accounted (w.run registry moves).monitor (told.foldl Ledger.after l) := by
  induction moves generalizing w l told with
  | nil =>
    obtain rfl := Except.ok.inj htold
    exact h
  | cons move rest ih =>
    obtain ⟨deed, others, hdeed, hothers, rfl⟩ := deeds_cons_eq_ok htold
    exact ih (h.step (step_of_deed registry w hdeed)) hothers

/-- **Every registration ends once.**  A monitor is used in any way in which no call has a
    fault: starts, reports, stops, sweeps and the rest take turns in any order.  Then exactly
    the active sessions have a lock, each is kept under its own id, and the ledger of what the
    results told accounts for all of them.  So the snapshots that ended and the active sessions
    are as many as the registrations that were not replaced.  A move that ends a session puts
    its snapshot into the history of its user and changes no other one, any other move puts
    nothing into a history, and an id of which no session is active is ignored. -/
theorem registrations_accounted (registry : Registry) (server : Server) (config : MonitorConfig)
    (rules : List Rule) (hasReceiver : Bool) (cooldown : τ) (moves : List (Move τ))
    {told : List (Option Deed)}
    (h : (fresh (.fresh server config rules hasReceiver cooldown)).deeds registry moves =
      .ok told) :
    let w := (fresh (.fresh server config rules hasReceiver cooldown)).run registry moves
    let l := told.foldl Ledger.after .blank
    Accounted w.monitor l ∧
    l.ended.length + w.monitor.active.length = l.starts.length - l.replaced.length ∧
    (∀ move stopped, w.deed move = .ok (some (.ended stopped)) → ∀ userId,
      (w.after registry move).monitor.historyOf userId =
        w.monitor.historyOf userId ++ if stopped.userId = userId then [stopped] else []) ∧
    (∀ move deed, w.deed move = .ok deed → (∀ stopped, deed ≠ some (.ended stopped)) →
      ∀ userId, (w.after registry move).monitor.historyOf userId <:+
        w.monitor.historyOf userId) ∧
    ∀ id, w.monitor.active.get? id = none → w.monitor.Ignores id := by
  intro w l
  have haccounted : Accounted w.monitor l :=
    accounted_run registry (Accounted.fresh server config rules hasReceiver cooldown) h
  refine ⟨haccounted, ?_, fun move stopped hdeed userId => ?_,
    fun move deed hdeed hnoEnd userId => ?_, fun id => Monitor.ignores_of_inactive⟩
  · -- The sizes of the places add up to that of the whole.
    have hall := haccounted.once.length_eq
    have hlive := congrArg List.length haccounted.live
    simp only [List.length_append, List.length_map, List.length_range, Table.values,
      Table.keys] at hall hlive
    omega
  · exact (step_of_deed registry w hdeed).historyOf_ended userId
  · exact (step_of_deed registry w hdeed).historyOf_suffix hnoEnd haccounted.filed userId

/-- Two sessions start, one of them twice.  A sweep comes upon them a day later, but before it
    has looked at them one is stopped by a report.  Then another session starts. -/
def evening : List (Move Nat) :=
  let start id userId second : Move Nat :=
    .start (Session.starting id userId "server" (.universal (second * Duration.second)))
      ⟨userId, none, 50, .universal 0, none⟩ ⟨second * Duration.second, some 0⟩
  [start "film" "ann" 0, start "song" "bob" 1, .evaluated 1, start "film" "ann" 2,
    .sweep ⟨Duration.day, some 0⟩,
    .report (.text "film") "stopped" .null ⟨3 * Duration.second, some 0⟩, .sweepOn 0, .sweepOn 0,
    .stop (.text "song") ⟨Duration.day, some 0⟩ (.bool false), .sweepOn 0, start "news" "ann" 4]

/-- A monitor for that evening. -/
def home : Monitor Nat := .fresh ⟨"server", "Home", none⟩ .standard [] true 60

/-- A user of that monitor. -/
def ann : User := ⟨"ann", none, 50, .universal 0, none⟩

/-- The account of that evening: of four registrations one was replaced, two ended, and one
    lives. -/
theorem registrations_accounted_evening :
    ∃ told, (fresh home).deeds .standard evening = .ok told ∧
      (told.foldl Ledger.after .blank).starts.length = 4 ∧
      (told.foldl Ledger.after .blank).replaced = [0] ∧
      (told.foldl Ledger.after .blank).ended.map Prod.fst = [2, 1] ∧
      Accounted ((fresh home).run .standard evening).monitor (told.foldl Ledger.after .blank) := by
  obtain ⟨told, htold⟩ : ∃ told, (fresh home).deeds .standard evening = .ok told := ⟨_, rfl⟩
  have hfacts : ((fresh home).deeds .standard evening).toOption.map (fun told =>
      ((told.foldl Ledger.after .blank).starts.length,
        (told.foldl Ledger.after .blank).replaced,
        (told.foldl Ledger.after .blank).ended.map Prod.fst)) = some (4, [0], [2, 1]) := by
    decide +kernel
  rw [htold] at hfacts
  obtain ⟨hstarts, hothers⟩ := Prod.mk.inj (Option.some.inj hfacts)
  obtain ⟨hreplaced, hended⟩ := Prod.mk.inj hothers
  have haccounted := registrations_accounted .standard ⟨"server", "Home", none⟩ .standard [] true
    60 evening htold
  exact ⟨told, htold, hstarts, hreplaced, hended, haccounted.1⟩

end Watch

end StreamWatch
