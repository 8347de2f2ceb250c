import StreamWatch.Proofs.Lifecycle.Moments
import StreamWatch.Unchecked

namespace StreamWatch

/-!
# No time without an offset meets one with an offset

The length between two times and their order are faults if only one of them has an offset.  Nothing
that happens to a session has such a fault, whatever the times are that are given:

* `Unmixed` — a result that is no such fault, with what follows on one;
* `PauseData.unmixed_advanceAt`, `Session.unmixed_stopDurationAt`, `Session.unmixed_advanceNamed`,
  `Session.unmixed_stopAt`, `unmixed_isStaleOf`, `Session.unmixed_resumeLink` — the functions of a
  session's life.
-/

/-- Is a result not the fault that a time with an offset met one without? -/
def Unmixed {α : Type} (r : Except Fault α) : Prop :=
  ∀ operation, r ≠ .error (.misuse (.mixedOffsets operation))

namespace Unmixed

variable {α β : Type} {r : Except Fault α}

theorem ok (a : α) : Unmixed (.ok a) := nofun

/-- What becomes of the value has no such fault either. -/
theorem map (h : Unmixed r) (f : α → β) : Unmixed (r.map f) :=
  fun operation hr => h operation (eq_error_of_map hr)

/-- What follows has no such fault, if it has none for any value. -/
theorem bind (h : Unmixed r) {f : α → Except Fault β} (hf : ∀ a, Unmixed (f a)) :
    Unmixed (r >>= f) := by
  cases r with
  | error fault => exact fun operation hr => h operation (by rw [Except.error.inj hr])
  | ok a => exact hf a

end Unmixed

/-! ### Orders and lengths -/

namespace Datum

mutual

/-- The order of data has nothing to do with times. -/
theorem unmixed_stands (relation : OrderRelation) (a b : Datum) :
    Unmixed (a.stands relation b) := by
  unfold stands
  split
  · exact .ok _
  · exact unmixed_itemsStand relation _ _
  · split
    · exact .ok _
    · nofun

theorem unmixed_itemsStand (relation : OrderRelation) (as bs : List Datum) :
    Unmixed (itemsStand relation as bs) := by
  unfold itemsStand
  split
  · split
    · exact unmixed_itemsStand relation _ _
    · exact unmixed_stands relation _ _
  · exact .ok _

end

end Datum

/-- A length that is not allowed is no such fault. -/
theorem Duration.unmixed_checked (length : Duration) : Unmixed (checked length) := by
  unfold checked
  simp only
  split
  · nofun
  · split
    · nofun
    · exact .ok _

/-- A number of seconds that is no length is no such fault. -/
theorem Duration.unmixed_ofSeconds (count : Number) : Unmixed (ofSeconds count) := by
  unfold ofSeconds
  split
  · exact unmixed_checked _
  · split
    · nofun
    · nofun
    · exact unmixed_checked _

/-- A moment outside the calendar is no such fault. -/
theorem Moment.unmixed_shift (t : Moment) (length : Duration) : Unmixed (t.shift length) := by
  unfold shift
  split
  · exact .ok _
  · nofun

/-- A number that no double comes near to is no such fault. -/
theorem Number.unmixed_double (n : Number) : Unmixed n.double := by
  unfold double
  split
  · exact .ok _
  · nofun

/-! ### The life of a session -/

/-- Between moments a pause has a length, unless one of them is missing. -/
theorem unmixed_openPause (began now : Option Moment) :
    Unmixed (openPause (began.map Moment.toTimestamp) (now.map Moment.toTimestamp)) := by
  unfold openPause
  cases began with
  | none => exact .ok _
  | some start =>
    cases now with
    | none => nofun
    | some t =>
      -- Both are moments here: with times as they are given the length might be a fault.
      simp only [Option.map_some, elapsed_toTimestamp]
      exact .ok _

/-- **Pauses** begin and end at times of all kinds. -/
theorem PauseData.unmixed_advanceAt (pauses : PauseData) (previous new : Option PlaybackState)
    (now : Option Timestamp) : Unmixed (pauses.advanceAt previous new now) := by
  unfold advanceAt
  split
  · exact .ok _
  · exact (unmixed_openPause _ _).bind fun _ => .ok _
  · exact .ok _

/-- **Staleness** is asked for at times of all kinds. -/
theorem unmixed_isStaleOf (lastHeardAt : Option Timestamp) (timeoutSeconds : Datum)
    (now : Timestamp) : Unmixed (isStaleOf lastHeardAt timeoutSeconds now) := by
  unfold isStaleOf
  split
  · exact .ok _
  · rw [isStale_eq]
    exact (Duration.unmixed_ofSeconds _).map _
  · nofun

/-- What part was played has nothing to do with times. -/
theorem unmixed_playedPart (progress total : Number) : Unmixed (playedPart progress total) := by
  unfold playedPart
  split
  · split
    · exact .ok _
    · nofun
  · exact (Number.unmixed_double _).bind fun _ => (Number.unmixed_double _).bind fun _ => .ok _

namespace Session

/-- **The time watched** is known for stops at times of all kinds. -/
theorem unmixed_stopDurationAt (s : Session) (stoppedAt : Option Timestamp) :
    Unmixed (s.stopDurationAt stoppedAt) := by
  cases stoppedAt with
  | none => nofun
  | some t =>
    rw [stopDurationAt_some]
    exact .ok _

/-- What a stop decides has nothing to do with times. -/
theorem unmixed_watchedAfter (s : Session) (mode : StopMode) (duration : Int) :
    Unmixed (s.watchedAfter mode duration) := by
  unfold watchedAfter watchCompleted
  simp only
  split
  · exact .ok _
  · split
    · split
      · exact (unmixed_playedPart _ _).bind fun _ => Datum.unmixed_stands _ _ _
      · exact .ok _
    · exact .ok _

/-- **Stops** happen at times of all kinds. -/
theorem unmixed_stopAt (s : Session) (stoppedAt : Option Timestamp) (mode : StopMode) :
    Unmixed (s.stopAt stoppedAt mode) := by
  cases stoppedAt with
  | none => nofun
  | some t =>
    rw [stopAt_some, stop_eq_map]
    exact (s.unmixed_watchedAfter mode _).map _

/-- Where a session is in its item has nothing to do with times. -/
theorem unmixed_movedTo (s : Session) (position : Datum) : Unmixed (s.movedTo position) := by
  unfold movedTo
  split
  · exact .ok _
  · apply Unmixed.map
    unfold clampReported
    split
    · exact .ok _
    · split
      · exact .ok _
      · exact (Datum.unmixed_stands _ _ _).bind fun _ => .ok _

/-- **Reports** come in at times of all kinds. -/
theorem unmixed_advanceNamed (s : Session) (name : String) (now : Option Timestamp)
    (position : Datum) : Unmixed (s.advanceNamed name now position) := by
  unfold advanceNamed PlaybackState.ofName
  -- The name, then the pauses, and the position last.
  refine Unmixed.bind ?_ fun new =>
    Unmixed.bind (s.pauses.data.unmixed_advanceAt _ _ _ |>.map _) fun heard =>
      heard.unmixed_movedTo position
  split
  · exact .ok _
  · nofun

/-- Whether a session goes on where another one ended is known at every moment. -/
theorem unmixed_continuedAt (previous : Session) (stoppedAt : Moment)
    (newProgress threshold : Datum) (now : Moment) :
    Unmixed (previous.continuedAt stoppedAt newProgress threshold now) := by
  rw [continuedAt_eq]
  refine (Datum.unmixed_stands _ _ _).bind fun late => ?_
  split
  · exact .ok _
  · split
    · exact .ok _
    · exact (Datum.unmixed_stands _ _ _).bind fun _ => .ok _

/-- **Resuming** is asked for at times of all kinds. -/
theorem unmixed_resumeLink (previous : Session) (newProgress : Datum) (threshold : Option Datum)
    (now : Timestamp) (limits : SessionLimits) :
    Unmixed (previous.resumeLink newProgress threshold now limits) := by
  rw [resumeLink_eq]
  split
  · exact .ok _
  · refine (Duration.unmixed_checked _).bind fun gap => (Moment.unmixed_shift _ _).bind fun u => ?_
    split
    · exact .ok _
    · refine (previous.unmixed_continuedAt _ _ _ _).bind fun continued => ?_
      split
      · exact .ok _
      · exact .ok _

end Session

end StreamWatch
