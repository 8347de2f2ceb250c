import StreamWatch.Proofs.Watch.Turnover

namespace StreamWatch

/-!
# Every active session can be changed

A report, a stop and a sweep only come to a session that has a lock.  Every active session has
one, whatever was done with the monitor and whichever calls failed, so that each of them is found:

* `Monitor.Guarded` — each active session is there once, under its own id, and has a lock;
* `Monitor.Step.locked`, `Watch.locks_of_error` — what a call does to the locks if it has no
  fault, and if it has one;
* `Watch.guarded_after`, `Watch.guarded_run`, `Watch.guarded_sweep` — every move, every run and
  every sweep keep the active sessions guarded.
-/

namespace Monitor

variable {τ : Type} {m m' : Monitor τ} {id : String}

/-! ### Locks -/

/-- A session that has a lock still has it once another one has been made. -/
theorem isLocked_addLock_of_isLocked (h : m.isLocked id = true) (other : String) :
    (m.addLock other).isLocked id = true := by
  unfold addLock
  split
  · exact h
  · rw [isLocked, List.contains_iff_mem] at h ⊢
    exact List.mem_append_left _ h

/-- A session has a lock once one has been made for it. -/
theorem isLocked_addLock_self (m : Monitor τ) (id : String) : (m.addLock id).isLocked id = true := by
  unfold addLock
  split
  · assumption
  · rw [isLocked, List.contains_iff_mem]
    exact List.mem_append_right _ (List.mem_singleton_self id)

/-- The end of one session does not keep reports from another one. -/
theorem isLocked_release_of_ne {other : String} (hne : id ≠ other) :
    (m.release other).isLocked id = m.isLocked id := by
  rw [Bool.eq_iff_iff, isLocked, isLocked, List.contains_iff_mem, List.contains_iff_mem]
  exact List.mem_filter.trans (and_iff_left (decide_eq_true hne))

/-- After the end of one session another one is found as before. -/
theorem find?_release_of_ne {other : String} (hne : id ≠ other) :
    (m.release other).find? id = m.find? id := by
  rw [find?, find?, isLocked_release_of_ne hne]
  exact if_congr Iff.rfl (Table.get?_erase_of_ne _ hne) rfl

/-- Is each active session there once, under its own id, and may reports change it? -/
structure Guarded (m : Monitor τ) : Prop extends m.Keyed where
  locked : ∀ id s, m.active.get? id = some s → m.isLocked id = true

namespace Guarded

/-- A monitor that has not seen anything yet has no active session. -/
theorem fresh (server : Server) (config : MonitorConfig) (rules : List Rule)
    (hasReceiver : Bool) (cooldown : τ) :
    Guarded (.fresh server config rules hasReceiver cooldown) where
  toKeyed := .fresh server config rules hasReceiver cooldown
  locked _ _ h := absurd h (Option.some_ne_none _).symm

/-- Every active session is found. -/
theorem find?_eq (h : m.Guarded) (id : String) : m.find? id = m.active.get? id := by
  unfold find?
  cases hactive : m.active.get? id with
  | none => split <;> rfl
  | some s => rw [if_pos (h.locked id s hactive)]

/-- Each entry of the active sessions is found, and stands under the id of its session. -/
theorem find?_of_mem (h : m.Guarded) {entry : String × Session} (hentry : entry ∈ m.active) :
    m.find? entry.1 = some entry.2 ∧ entry.2.id = entry.1 := by
  have hactive := Table.get?_of_mem h.distinct hentry
  exact ⟨(h.find?_eq entry.1).trans hactive, h.ownId entry.1 entry.2 hactive⟩

end Guarded

/-- An operation without a fault keeps reports from a session only when it ends. -/
theorem Step.locked {deed : Option Deed} (hstep : m.Step deed m') (h : m.Guarded) {s : Session}
    (hs : m'.active.get? id = some s) : m'.isLocked id = true := by
  cases hstep with
  | registered session admitted now hadmitted =>
    show (m.addLock session.id).isLocked id = true
    by_cases hid : id = session.id
    · rw [hid]
      exact m.isLocked_addLock_self _
    · rw [Table.get?_set_of_ne _ _ hid] at hs
      exact isLocked_addLock_of_isLocked (h.locked id s hs) _
  | reported name live updated state now position hlive hgoesOn hupdated =>
    show m.isLocked id = true
    by_cases hid : id = live.id
    · rw [h.find?_eq] at hlive
      rw [hid, h.ownId name live hlive]
      exact h.locked name live hlive
    · rw [Table.get?_set_of_ne _ _ hid] at hs
      exact h.locked id s hs
  | ended name live last stoppedAt forced result hlive hlast hresult =>
    show (m.release last.id).isLocked id = true
    have hid : id ≠ last.id := by
      rintro rfl
      exact absurd (hs.symm.trans (Table.get?_erase_self last.id m.active)) (Option.some_ne_none s)
    rw [isLocked_release_of_ne hid]
    exact h.locked id s (Accounted.get?_of_erase hs)
  | pruned cutoff hpruned => exact h.locked id s hs
  | elsewhere m' hsame =>
    rw [hsame.active] at hs
    rw [isLocked, hsame.locks]
    exact h.locked id s hs

/-- Pruning leaves the active sessions and the locks alone. -/
theorem prune_active (m : Monitor τ) (now : Moment) :
    (m.prune now).monitor.active = m.active ∧ (m.prune now).monitor.locks = m.locks := by
  unfold prune
  split <;> exact ⟨rfl, rfl⟩

end Monitor

namespace Watch

variable {τ : Type} [Sub τ] [LE τ] [DecidableLE τ]

/-- A call with a fault leaves the active sessions alone, and keeps no reports from them. -/
theorem locks_of_error (registry : Registry) (w : Watch τ) {move : Move τ} {fault : Fault}
    (h : w.deed move = .error fault) :
    (w.after registry move).monitor.active = w.monitor.active ∧
      ∀ id, w.monitor.isLocked id = true → (w.after registry move).monitor.isLocked id = true := by
  have hsame : (w.after registry move).monitor = w.monitor →
      (w.after registry move).monitor.active = w.monitor.active ∧ ∀ id,
        w.monitor.isLocked id = true → (w.after registry move).monitor.isLocked id = true := by
    intro hmonitor
    rw [hmonitor]
    exact ⟨rfl, fun _ hlocked => hlocked⟩
  cases move with
  | start session user now =>
    rw [after_start_monitor, Monitor.register_of_error (eq_error_of_map h)]
    exact ⟨Monitor.addLock_active _ _, fun id hid => Monitor.isLocked_addLock_of_isLocked hid _⟩
  | report id stateName position now => exact hsame (Monitor.update_of_error (eq_error_of_map h))
  | stop id stoppedAt forced => exact hsame (Monitor.stopSession_of_error (eq_error_of_map h))
  | sweepOn slot =>
    simp only [Watch.deed] at h
    cases hslot : w.sweeps[slot]? with
    | none =>
      simp only [hslot] at h
      cases h
    | some sweep =>
      obtain ⟨now, left⟩ := sweep
      cases left with
      | nil =>
        obtain ⟨hactive, hlocks⟩ := w.monitor.prune_active now
        have hmonitor : (w.after registry (.sweepOn slot)).monitor =
            (w.monitor.prune now).monitor := by simp only [after, hslot, sweepOn]
        rw [hmonitor, hactive]
        refine ⟨rfl, fun id hid => ?_⟩
        rwa [Monitor.isLocked, hlocks]
      | cons id rest =>
        simp only [hslot] at h
        refine hsame ?_
        simp only [after, hslot, sweepOn, Monitor.sweepOne_of_error (eq_error_of_map h)]
  | evaluated | flush | received | refused | interrupted | sweep | setRules | failure => cases h

/-- Every move keeps the active sessions guarded, whether its call has a fault or not. -/
theorem guarded_after (registry : Registry) {w : Watch τ} (h : w.monitor.Guarded)
    (move : Move τ) : (w.after registry move).monitor.Guarded where
  toKeyed := h.turnover (after_turnover registry w move)
  locked id s hs := by
    cases hdeed : w.deed move with
    | ok deed => exact (step_of_deed registry w hdeed).locked h hs
    | error fault =>
      obtain ⟨hactive, hlocks⟩ := locks_of_error registry w hdeed
      exact hlocks id (h.locked id s (hactive ▸ hs))

/-- **Every active session of a monitor in use can be changed**, whatever was done with it. -/
theorem guarded_run (registry : Registry) {w : Watch τ} (h : w.monitor.Guarded)
    (moves : List (Move τ)) : (w.run registry moves).monitor.Guarded := by
  induction moves generalizing w with
  | nil => exact h
  | cons move rest ih => exact ih (guarded_after registry h move)

/-- A sweep that nothing interrupts keeps the active sessions guarded. -/
theorem guarded_sweep (registry : Registry) {w : Watch τ} (h : w.monitor.Guarded)
    (now : Timestamp) : (w.monitor.sweep now).monitor.Guarded := by
  have hrun := guarded_run registry h (.sweep now ::
    List.replicate (w.monitor.active.keys.length + 1) (.sweepOn w.sweeps.length))
  rwa [sweep_eq_run] at hrun

end Watch

end StreamWatch
