import StreamWatch.Proofs.Fault
import StreamWatch.Proofs.Lifecycle.Course

namespace StreamWatch

/-!
# A stop that is said twice

A stop may reach the monitor more than once.  One that is said again changes nothing, although the
first one has closed the pause that was open and may have decided that the session was watched:

* `Session.stopDuration_ending` — a session that has ended has the lengths of time that its end gave
  it;
* `Session.ending_ending`, `Session.watchedAfter_ending` — a second end does what the first one did,
  and a second decision is the first one;
* `Session.stop_again` — stopping twice at one time is stopping once, and so is stopping any number
  of times.
-/

/-- What is put in place of a datum that does not count as true is put there once only. -/
theorem Datum.orElse_orElse (d other : Datum) :
    (d.orElse other).orElse other = d.orElse other := by
  cases htruthy : d.truthy <;> simp [orElse, htruthy]

namespace Session

/-- The pause that is open when a session ends is among its pauses from then on, so that the lengths
    of time stay as they were. -/
theorem stopDuration_ending (s : Session) (stoppedAt : Timestamp) (mode : StopMode)
    (watched : Bool) :
    (s.ending stoppedAt mode watched).session.stopDuration stoppedAt =
      s.stopDuration stoppedAt := by
  simp only [ending, stopDuration, pauses, PauseRecord.openFor, Int.add_zero]

/-- A session that ends again, and is watched as it was, comes to what it came to. -/
theorem ending_ending (s : Session) (stoppedAt : Timestamp) (mode : StopMode) (watched : Bool) :
    (s.ending stoppedAt mode watched).session.ending stoppedAt mode watched =
      s.ending stoppedAt mode watched := by
  have hlengths := s.stopDuration_ending stoppedAt mode watched
  have hforced := s.forceStopped.orElse_orElse mode.forceStopped
  unfold ending at hlengths ⊢
  simp only [hlengths, hforced]

/-- Whether a session was watched is decided the same way again: what was found to be watched stays
    so, and for what was not the same numbers are compared. -/
theorem watchedAfter_ending {s : Session} {mode : StopMode} {watched : Bool} {duration : Int}
    (h : s.watchedAfter mode duration = .ok watched) (stoppedAt : Timestamp) :
    (s.ending stoppedAt mode watched).session.watchedAfter mode duration = .ok watched := by
  unfold watchedAfter at h ⊢
  by_cases hkept : (mode.preserveWatched || s.watched) = true
  · rw [if_pos hkept] at h
    obtain rfl := Except.ok.inj h
    exact if_pos hkept
  · rw [if_neg hkept] at h
    obtain ⟨hpreserve, -⟩ := Bool.or_eq_false_iff.mp (Bool.eq_false_iff.mpr hkept)
    cases watched with
    | true => exact if_pos (Bool.or_true _)
    | false =>
      -- Neither flag stands in the way, and the same length is compared with the same threshold.
      rw [hpreserve]
      exact h

/-- What changes nothing once changes nothing however often it happens. -/
theorem trace_replicate {s : Session} {event : LifeEvent} (h : s.after event = .ok s) (n : Nat) :
    s.trace (List.replicate n event) = List.replicate n (.ok s) := by
  induction n with
  | zero => rfl
  | succ n ih =>
    rw [List.replicate_succ, List.replicate_succ, trace, h]
    exact congrArg _ ih

/-- **Stopping twice at one time is stopping once.**  Where a stop has a result, the session that it
    leaves comes to the same result when it is stopped again at that time and in that way, and so
    it does after any number of stops. -/
theorem stop_again {s : Session} {stoppedAt : Option Timestamp} {mode : StopMode}
    {result : StopResult} (h : s.stopAt stoppedAt mode = .ok result) :
    result.session.stopAt stoppedAt mode = .ok result ∧
      ∀ n, s.trace (List.replicate n (.stop stoppedAt mode)) =
        List.replicate n (.ok result.session) := by
  have hagain : result.session.stopAt stoppedAt mode = .ok result := by
    cases stoppedAt with
    | none => cases h
    | some t =>
      rw [stopAt_some, stop_eq_map] at h ⊢
      obtain ⟨watched, hwatched, rfl⟩ := eq_ok_of_map h
      rw [stopDuration_ending, watchedAfter_ending hwatched]
      exact congrArg Except.ok (s.ending_ending t mode watched)
  refine ⟨hagain, fun n => ?_⟩
  cases n with
  | zero => rfl
  | succ n =>
    have hfirst : s.after (.stop stoppedAt mode) = .ok result.session :=
      congrArg (Except.map StopResult.session) h
    have hlater : result.session.after (.stop stoppedAt mode) = .ok result.session :=
      congrArg (Except.map StopResult.session) hagain
    rw [List.replicate_succ, List.replicate_succ, trace, hfirst]
    exact congrArg _ (trace_replicate hlater n)

/-- A film of an hour with ten minutes of pauses, and one that is open from the fiftieth minute on
    by the clock of the player. -/
def pausedFilm : Session :=
  { starting "film" "ann" "server" (.universal 0) with
    state := .paused
    totalDuration := some 3600000
    lastPausedAt := some (.universal (50 * Duration.minute))
    pausedDuration := 600000 }

/-- A stop that was forced, with which an item counts as watched that was played to the half. -/
def forcedStop : StopMode :=
  { StopMode.standard with forceStopped := .bool true, watchThreshold := some (.real 0.5) }

/-- By another clock the film stops in the minute 45, before its pause opens.  Forty minutes were
    played and five are left of the pauses, so that it was watched.  It is stopped again, and
    nothing changes. -/
theorem stop_again_film :
    ∃ result, pausedFilm.stopAt (some ⟨45 * Duration.minute, none⟩) forcedStop = .ok result ∧
      (result.duration, result.session.pausedDuration, result.watched) =
        (2400000, 300000, true) ∧
      result.session.stopAt (some ⟨45 * Duration.minute, none⟩) forcedStop = .ok result := by
  have hwatched : pausedFilm.watchedAfter forcedStop 2400000 = .ok true :=
    eq_ok_of_toOption (by decide +kernel)
  have hstopped : pausedFilm.stopAt (some ⟨45 * Duration.minute, none⟩) forcedStop =
      .ok (pausedFilm.ending ⟨45 * Duration.minute, none⟩ forcedStop true) :=
    (pausedFilm.stop_eq_map _ _).trans (congrArg _ hwatched)
  exact ⟨_, hstopped, rfl, (stop_again hstopped).1⟩

end Session

end StreamWatch
