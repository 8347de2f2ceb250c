import StreamWatch.Proofs.Monitor.Queue

namespace StreamWatch.Monitor

/-!
# What an operation does to the settings and to the histories of a monitor

No operation changes the settings, and there are two ways only to change a history: a session
that was stopped is put behind the others of its user, or the histories are pruned.  This holds
of operations that have a fault as well:

* `SameRecords` — the settings and the histories are left alone;
* `Aftermath` — everything that an operation can leave behind of them;
* `register_aftermath`, `update_aftermath`, `stopSession_aftermath`, `sweepOne_aftermath`,
  `prune_aftermath` — one lemma per operation on sessions;
* `offer_sameRecords`, `takePending_sameRecords` — the two operations of a flush.
-/

variable {τ : Type}

/-- Do two monitors have the same settings and the same histories? -/
structure SameRecords (m m' : Monitor τ) : Prop where
  config : m'.config = m.config
  history : m'.history = m.history

namespace SameRecords

/-- A monitor has the same records as itself. -/
theorem refl (m : Monitor τ) : m.SameRecords m := ⟨rfl, rfl⟩

/-- What leaves the records alone twice leaves them alone. -/
theorem trans {m m' m'' : Monitor τ} (h : m.SameRecords m') (h' : m'.SameRecords m'') :
    m.SameRecords m'' :=
  ⟨h'.config.trans h.config, h'.history.trans h.history⟩

end SameRecords

/-- What an operation can leave behind of the settings and of the histories, whether it has a
    fault or not. -/
inductive Aftermath (m m' : Monitor τ) : Prop
  /-- They are as they were. -/
  | same (h : m.SameRecords m')
  /-- A session was stopped, and is put behind the others of its user. -/
  | archived (last : Session) (stoppedAt : Timestamp) (mode : StopMode) (result : StopResult)
      (hstop : last.stop stoppedAt mode = .ok result) (hconfig : m'.config = m.config)
      (hhistory : m'.history = (m.archive result.session).history)
  /-- The histories were pruned, all of them or those in front of a fault. -/
  | pruned (cutoff : Moment) (hconfig : m'.config = m.config)
      (hhistory : m'.history = (pruneHistories cutoff m.config.maxRecentSessions m.history).1)

namespace Aftermath

/-- Nothing is left behind where nothing happens. -/
theorem refl (m : Monitor τ) : m.Aftermath m := .same (.refl m)

/-- No operation changes the settings. -/
theorem config {m m' : Monitor τ} (h : m.Aftermath m') : m'.config = m.config := by
  cases h with
  | same h => exact h.config
  | archived last stoppedAt mode result hstop hconfig hhistory => exact hconfig
  | pruned cutoff hconfig hhistory => exact hconfig

end Aftermath

/-! ### Operations on sessions -/

/-- A registration leaves the records alone. -/
theorem register_aftermath (m : Monitor τ) (session : Session) (user : User) (now : Timestamp) :
    m.Aftermath (m.register session user now).monitor := by
  have hheld : m.SameRecords (m.addLock session.id) := by
    unfold addLock
    split <;> exact ⟨rfl, rfl⟩
  unfold register
  simp only
  split
  · exact .same hheld
  · exact .same ⟨hheld.config, hheld.history⟩

/-- The end of a session archives it, unless it has a fault. -/
theorem finish_aftermath (m : Monitor τ) (session : Session) (stoppedAt : Moment)
    (forced : Datum) : m.Aftermath (m.finish session stoppedAt forced).monitor := by
  unfold finish
  split
  · exact .refl m
  · rename_i result hstop
    exact .archived session stoppedAt _ result hstop rfl rfl

/-- A stop leaves the records alone or archives a session. -/
theorem stopSession_aftermath (m : Monitor τ) (id : Datum) (stoppedAt : Timestamp)
    (forced : Datum) : m.Aftermath (m.stopSession id stoppedAt forced).monitor := by
  unfold stopSession
  split
  · exact .refl m
  · exact .refl m
  · exact m.finish_aftermath _ _ _

/-- A report leaves the records alone or archives a session. -/
theorem update_aftermath (m : Monitor τ) (id : Datum) (stateName : String) (position : Datum)
    (now : Timestamp) : m.Aftermath (m.update id stateName position now).monitor := by
  unfold update
  split
  · exact .refl m
  · split
    · exact .refl m
    · exact .refl m
    · simp only [Outcome.map, report]
      split
      · exact .refl m
      · split
        · exact m.finish_aftermath _ _ _
        · exact .same ⟨rfl, rfl⟩

/-- A look at one session in a sweep leaves the records alone or archives a session. -/
theorem sweepOne_aftermath (m : Monitor τ) (id : String) (now : Moment) :
    m.Aftermath (m.sweepOne id now).monitor := by
  unfold sweepOne
  split
  · exact .refl m
  · split
    · exact .refl m
    · exact .refl m
    · exact m.finish_aftermath _ _ _

/-- The pruning of the histories prunes them, unless there is no cutoff. -/
theorem prune_aftermath (m : Monitor τ) (now : Moment) :
    m.Aftermath (m.prune now).monitor := by
  unfold prune
  split
  · exact .refl m
  · rename_i cutoff _
    exact .pruned cutoff rfl rfl

/-- The matches of a session do not change the records. -/
theorem enqueue_sameRecords (m : Monitor τ) (session : Session) (found : List Verdict) :
    m.SameRecords (m.enqueue session found).monitor := by
  unfold enqueue
  split <;> exact ⟨rfl, rfl⟩

/-! ### Flushes -/

section
variable [Sub τ] [LE τ] [DecidableLE τ]

/-- The rest of a batch does not change the records. -/
theorem offer_sameRecords (m : Monitor τ) (now : τ) (batch : List Match) :
    m.SameRecords (m.offer now batch).value.2 := by
  unfold offer
  split
  · exact .refl m
  · simp only [Recorded.bind_value, Recorded.pure_value]
    split <;> exact ⟨rfl, rfl⟩

/-- A flush that begins does not change the records. -/
theorem takePending_sameRecords (m : Monitor τ) (now : τ) :
    m.SameRecords (m.takePending now).value.2 := by
  unfold takePending
  split
  · simp only [Recorded.bind_value, Recorded.pure_value]
    split <;> exact ⟨rfl, rfl⟩
  · exact ⟨rfl, rfl⟩

end

end StreamWatch.Monitor
