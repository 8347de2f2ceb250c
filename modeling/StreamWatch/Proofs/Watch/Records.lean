import StreamWatch.Proofs.Monitor.Aftermath
import StreamWatch.Proofs.Watch.Registration

namespace StreamWatch

/-!
# What a run does to the settings and to the histories

Every move, with a fault or not, leaves the settings as they are, and of the histories only what
`Monitor.Aftermath` says.  So two things hold of a monitor in use whatever was done with it:

* `Watch.run_config` — it has the settings that it began with;
* `Monitor.Filed`, `Watch.filed_run` — each user has one history, of sessions that are this
  user's and have stopped.
-/

/-! ### Filed histories -/

namespace Monitor

variable {τ : Type} {m m' : Monitor τ}

/-- Does each user have one history, of sessions that are this user's and have stopped? -/
structure Filed (m : Monitor τ) : Prop where
  distinct : m.history.keys.Nodup
  owner : ∀ userId, ∀ s ∈ m.historyOf userId, s.userId = userId
  stopped : ∀ userId, ∀ s ∈ m.historyOf userId, s.stoppedAt = some s.endedAt

namespace Filed

/-- A monitor that has not seen anything yet has no histories. -/
theorem fresh (server : Server) (config : MonitorConfig) (rules : List Rule)
    (hasReceiver : Bool) (cooldown : τ) :
    Filed (.fresh server config rules hasReceiver cooldown) where
  distinct := .nil
  owner _ _ h := absurd h List.not_mem_nil
  stopped _ _ h := absurd h List.not_mem_nil

/-- Histories that are the same are filed the same. -/
theorem congr (h : m.Filed) (hhistory : m'.history = m.history) : m'.Filed := by
  have hsame : ∀ userId, m'.historyOf userId = m.historyOf userId := fun userId => by
    rw [historyOf, hhistory, historyOf]
  refine ⟨hhistory ▸ h.distinct, fun userId s hs => ?_, fun userId s hs => ?_⟩
  · exact h.owner userId s (hsame userId ▸ hs)
  · exact h.stopped userId s (hsame userId ▸ hs)

/-- A session that was stopped is filed with its user. -/
theorem archive (h : m.Filed) {last : Session} {stoppedAt : Timestamp} {mode : StopMode}
    {result : StopResult} (hstop : last.stop stoppedAt mode = .ok result) :
    (m.archive result.session).Filed := by
  have hended : result.session.stoppedAt = some result.session.endedAt := by
    obtain ⟨watched, shortSession, hsession⟩ := Session.stop_session_eq hstop
    rw [hsession]
    rfl
  have hmem : ∀ userId, ∀ s ∈ (m.archive result.session).historyOf userId,
      s ∈ m.historyOf userId ∨ (s = result.session ∧ s.userId = userId) := by
    intro userId s hs
    rw [historyOf_archive] at hs
    split at hs
    · rename_i howner
      obtain hs | hs := List.mem_append.mp hs
      · exact .inl hs
      · obtain rfl := List.mem_singleton.mp hs
        exact .inr ⟨rfl, howner⟩
    · exact .inl hs
  refine ⟨Table.nodup_keys_set h.distinct, fun userId s hs => ?_, fun userId s hs => ?_⟩
  · obtain hs | ⟨_, howner⟩ := hmem userId s hs
    · exact h.owner userId s hs
    · exact howner
  · obtain hs | ⟨rfl, _⟩ := hmem userId s hs
    · exact h.stopped userId s hs
    · exact hended

/-- What is kept of a history was filed before. -/
theorem prune (h : m.Filed) (cutoff : Moment) (most : Int)
    (hhistory : m'.history = (pruneHistories cutoff most m.history).1) : m'.Filed := by
  have hkept : ∀ userId, m'.historyOf userId <:+ m.historyOf userId := fun userId => by
    rw [historyOf, hhistory]
    exact pruneHistories_suffix cutoff most h.distinct userId
  refine ⟨?_, fun userId s hs => ?_, fun userId s hs => ?_⟩
  · rw [hhistory]
    exact (keys_pruneHistories cutoff most m.history).nodup h.distinct
  · exact h.owner userId s ((hkept userId).subset hs)
  · exact h.stopped userId s ((hkept userId).subset hs)

/-- **An operation keeps the histories filed**, whether it has a fault or not. -/
theorem aftermath (h : m.Filed) (hafter : m.Aftermath m') : m'.Filed := by
  cases hafter with
  | same hsame => exact h.congr hsame.history
  | archived last stoppedAt mode result hstop hconfig hhistory =>
    exact (h.archive hstop).congr hhistory
  | pruned cutoff hconfig hhistory => exact h.prune cutoff _ hhistory

end Filed

end Monitor

/-! ### Runs -/

namespace Watch

variable {τ : Type} [Sub τ] [LE τ] [DecidableLE τ]

/-- Handing a batch on does not change the records. -/
theorem handOver_sameRecords (w : Watch τ) (now : τ) (batch : List Match)
    (numbers : List Nat) : w.monitor.SameRecords (w.handOver now batch numbers).monitor := by
  unfold Watch.handOver
  simp only
  split <;> exact w.monitor.offer_sameRecords now batch

/-- A flush that goes on does not change the records. -/
theorem goOn_sameRecords (w : Watch τ) (slot : Nat) (offeredAt : τ)
    (noted : Match → Monitor τ) (hnoted : ∀ first, w.monitor.SameRecords (noted first)) :
    w.monitor.SameRecords (w.goOn slot offeredAt noted).monitor := by
  unfold Watch.goOn
  split
  · exact .refl _
  · split
    · exact .refl _
    · rename_i flush _ _ first rest _
      exact (hnoted first).trans
        (handOver_sameRecords (w.settle slot flush (noted first)) offeredAt rest _)

/-- What a move leaves behind of the settings and of the histories. -/
theorem after_aftermath (registry : Registry) (w : Watch τ) (move : Move τ) :
    w.monitor.Aftermath (w.after registry move).monitor := by
  cases move with
  | start session user now =>
    rw [after_start_monitor]
    exact w.monitor.register_aftermath session user now
  | report id stateName position now => exact w.monitor.update_aftermath id stateName position now
  | stop id stoppedAt forced => exact w.monitor.stopSession_aftermath id stoppedAt forced
  | sweepOn slot =>
    simp only [Watch.after]
    split
    · exact .refl _
    · rename_i sweep _
      simp only [Watch.sweepOn]
      split
      · exact w.monitor.prune_aftermath sweep.now
      · exact w.monitor.sweepOne_aftermath _ sweep.now
  | evaluated slot =>
    simp only [Watch.after]
    split
    · exact .refl _
    · exact .same (w.monitor.enqueue_sameRecords _ _)
  | flush takenAt offeredAt =>
    have htaken := w.monitor.takePending_sameRecords takenAt
    refine .same ?_
    simp only [Watch.after, Watch.flush]
    split
    · exact htaken
    · exact htaken.trans (handOver_sameRecords (w.taking _) offeredAt _ _)
  | received slot offeredAt =>
    exact .same (goOn_sameRecords w slot offeredAt _ fun _ => ⟨rfl, rfl⟩)
  | refused slot settledAt offeredAt error =>
    exact .same (goOn_sameRecords w slot offeredAt _ fun _ => ⟨rfl, rfl⟩)
  | interrupted slot =>
    refine .same ?_
    simp only [Watch.after]
    split <;> exact ⟨rfl, rfl⟩
  | sweep | setRules | failure => exact .same ⟨rfl, rfl⟩

/-- A monitor in use keeps its settings. -/
theorem run_config (registry : Registry) (w : Watch τ) (moves : List (Move τ)) :
    (w.run registry moves).monitor.config = w.monitor.config := by
  induction moves generalizing w with
  | nil => rfl
  | cons move rest ih =>
    exact (ih (w.after registry move)).trans (after_aftermath registry w move).config

/-- The histories of a monitor in use stay filed. -/
theorem filed_run (registry : Registry) {w : Watch τ} (h : w.monitor.Filed)
    (moves : List (Move τ)) : (w.run registry moves).monitor.Filed := by
  induction moves generalizing w with
  | nil => exact h
  | cons move rest ih => exact ih (h.aftermath (after_aftermath registry w move))

end Watch

end StreamWatch
