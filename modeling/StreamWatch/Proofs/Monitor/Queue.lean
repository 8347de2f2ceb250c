import StreamWatch.Monitor.Dispatch
import StreamWatch.Proofs.Monitor.Step

namespace StreamWatch.Monitor

/-!
# What an operation does to the matches of a monitor

The matches that wait change in three ways only: found matches are queued behind them, a flush
takes them all, and the rest of a batch is put back in front of them:

* `SameQueue` — everything else leaves the matches alone, whether it has a fault or not;
* `offer_cases`, `takePending_cases` — what comes of a flush that asks for its next match, and
  of one that begins;
* `offer_sameSessions`, `takePending_sameSessions` — both leave the sessions alone.
-/

variable {τ : Type}

/-- Do two monitors have the same matches waiting, for the same receiver? -/
structure SameQueue (m m' : Monitor τ) : Prop where
  pending : m'.pending = m.pending
  hasReceiver : m'.hasReceiver = m.hasReceiver

namespace SameQueue

/-- Nothing happens to the matches where nothing happens. -/
theorem refl (m : Monitor τ) : m.SameQueue m := ⟨rfl, rfl⟩

end SameQueue

/-! ### Operations on sessions -/

/-- A registration leaves the matches alone. -/
theorem register_sameQueue (m : Monitor τ) (session : Session) (user : User) (now : Timestamp) :
    m.SameQueue (m.register session user now).monitor := by
  have hheld : m.SameQueue (m.addLock session.id) := by
    unfold addLock
    split <;> exact ⟨rfl, rfl⟩
  unfold register
  simp only
  split
  · exact hheld
  · exact ⟨hheld.pending, hheld.hasReceiver⟩

/-- The end of a session leaves the matches alone. -/
theorem finish_sameQueue (m : Monitor τ) (session : Session) (stoppedAt : Moment)
    (forced : Datum) : m.SameQueue (m.finish session stoppedAt forced).monitor := by
  unfold finish
  split <;> exact ⟨rfl, rfl⟩

/-- A stop leaves the matches alone. -/
theorem stopSession_sameQueue (m : Monitor τ) (id : Datum) (stoppedAt : Timestamp)
    (forced : Datum) : m.SameQueue (m.stopSession id stoppedAt forced).monitor := by
  unfold stopSession
  split
  · exact .refl m
  · exact .refl m
  · exact m.finish_sameQueue _ _ _

/-- A report leaves the matches alone. -/
theorem update_sameQueue (m : Monitor τ) (id : Datum) (stateName : String) (position : Datum)
    (now : Timestamp) : m.SameQueue (m.update id stateName position now).monitor := by
  unfold update
  split
  · exact .refl m
  · split
    · exact .refl m
    · exact .refl m
    · simp only [Outcome.map, report]
      split
      · exact .refl m
      · split
        · exact m.finish_sameQueue _ _ _
        · exact ⟨rfl, rfl⟩

/-- A look at one session in a sweep leaves the matches alone. -/
theorem sweepOne_sameQueue (m : Monitor τ) (id : String) (now : Moment) :
    m.SameQueue (m.sweepOne id now).monitor := by
  unfold sweepOne
  split
  · exact .refl m
  · split
    · exact .refl m
    · exact .refl m
    · exact m.finish_sameQueue _ _ _

/-- The pruning of the histories leaves the matches alone. -/
theorem prune_sameQueue (m : Monitor τ) (now : Moment) :
    m.SameQueue (m.prune now).monitor := by
  unfold prune
  split <;> exact ⟨rfl, rfl⟩

/-! ### Flushes -/

section
variable [Sub τ] [LE τ] [DecidableLE τ]

/-- What comes of the rest of a batch: it is handed on as it is, or it is put back in front of
    the matches that wait. -/
theorem offer_cases (m : Monitor τ) (now : τ) (batch : List Match) :
    ∃ m', m'.hasReceiver = m.hasReceiver ∧
      ((batch ≠ [] ∧ (m.offer now batch).value = (batch, m') ∧ m'.pending = m.pending) ∨
        ((m.offer now batch).value = ([], m') ∧ m'.pending = batch ++ m.pending)) := by
  unfold offer
  cases batch with
  | nil => exact ⟨m, rfl, .inr ⟨rfl, rfl⟩⟩
  | cons first rest =>
    -- Whether the breaker is open or not, reading it leaves the matches alone.
    let read := (m.readBreaker now).value.2
    simp only [List.isEmpty_cons, Bool.false_eq_true, if_false, Recorded.bind_value,
      Recorded.pure_value]
    split
    · exact ⟨read.requeue (first :: rest), rfl, .inr ⟨rfl, rfl⟩⟩
    · exact ⟨read, rfl, .inl ⟨nofun, rfl, rfl⟩⟩

/-- The rest of a batch does not change the sessions. -/
theorem offer_sameSessions (m : Monitor τ) (now : τ) (batch : List Match) :
    m.SameSessions (m.offer now batch).value.2 := by
  unfold offer
  split
  · exact .refl m
  · simp only [Recorded.bind_value, Recorded.pure_value]
    split <;> exact ⟨rfl, rfl, rfl⟩

/-- What comes of a flush that begins for a receiver: it takes all the matches that wait, or
    none, which then still wait. -/
theorem takePending_cases (m : Monitor τ) (now : τ) (h : m.hasReceiver = true) :
    ∃ m', m'.hasReceiver = true ∧
      (((m.takePending now).value = (m.pending, m') ∧ m'.pending = []) ∨
        ((m.takePending now).value = ([], m') ∧ m'.pending = m.pending)) := by
  let read := (m.readBreaker now).value.2
  unfold takePending
  simp only [h, if_true, Recorded.bind_value, Recorded.pure_value]
  split
  · exact ⟨read, h, .inr ⟨rfl, rfl⟩⟩
  · exact ⟨{ read with pending := [] }, h, .inl ⟨rfl, rfl⟩⟩

/-- A flush that begins does not change the sessions, whether there is a receiver or not. -/
theorem takePending_sameSessions (m : Monitor τ) (now : τ) :
    m.SameSessions (m.takePending now).value.2 := by
  unfold takePending
  split
  · simp only [Recorded.bind_value, Recorded.pure_value]
    split <;> exact ⟨rfl, rfl, rfl⟩
  · exact ⟨rfl, rfl, rfl⟩

end

end StreamWatch.Monitor
