import StreamWatch.Time.Timestamp

namespace StreamWatch

/-!
# Lengths of time that are allowed

A length of time may be too many days, and a moment that is shifted by one may leave the
calendar:

* `Duration.checked_eq_ok`, `Duration.checked_isOk_iff` — what is allowed is as long as it was, and
  which lengths are, and the same for numbers of hours;
* `Moment.shift_eq_ok`, `Moment.shift_isOk_iff` — where a moment is shifted to, and when it can be;
* `Fault.OutOfRange` — the faults of all others.
-/

/-- Is a fault that of a length of time, or of a date, that is out of range? -/
def Fault.OutOfRange : Fault → Prop
  | .dayCount _ | .dayCountTooLarge | .dateOutOfRange => True
  | _ => False

/-- A length that is no fault is the one that was asked for. -/
theorem Duration.checked_eq_ok {length allowed : Duration} (h : checked length = .ok allowed) :
    allowed = length := by
  unfold checked at h
  simp only at h
  split at h
  · cases h
  · split at h
    · cases h
    · exact (Except.ok.inj h).symm

/-- A length that is a fault is out of range. -/
theorem Duration.checked_eq_error {length : Duration} {fault : Fault}
    (h : checked length = .error fault) : fault.OutOfRange := by
  unfold checked at h
  simp only at h
  split at h
  · exact Except.error.inj h ▸ trivial
  · split at h
    · exact Except.error.inj h ▸ trivial
    · cases h

/-- A length that is no fault is as many hours as were asked for. -/
theorem Duration.ofHours_eq_ok {hours : Int} {length : Duration}
    (h : ofHours hours = .ok length) : length = hours * hour :=
  checked_eq_ok h

/-- A length of time is allowed if it has at most 999999999 days, rounded down, either way. -/
theorem Duration.checked_isOk_iff {length : Duration} :
    (∃ checked, Duration.checked length = .ok checked) ↔
      -999999999 ≤ length / day ∧ length / day ≤ 999999999 := by
  have hpower : twoPow 31 = 2147483648 := by decide
  unfold checked
  simp only [hpower]
  -- From here on the days are compared as the integers that they are.
  delta Duration at length ⊢
  split
  · rename_i hlarge
    exact iff_of_false (fun ⟨_, h⟩ => nomatch h) (by omega)
  · split
    · rename_i hlarge
      exact iff_of_false (fun ⟨_, h⟩ => nomatch h) (by omega)
    · exact iff_of_true ⟨length, rfl⟩ (by omega)

/-- A number of hours is allowed if it makes at most 999999999 days, rounded down, either way. -/
theorem Duration.ofHours_isOk_iff {hours : Int} :
    (∃ length, ofHours hours = .ok length) ↔ -999999999 ≤ hours / 24 ∧ hours / 24 ≤ 999999999 := by
  have hdays : hours * hour / day = hours / 24 := by
    simp only [day, hour, second]
    delta Duration
    omega
  rw [← hdays]
  exact checked_isOk_iff

/-- A moment that was shifted without a fault has the instant so much later. -/
theorem Moment.shift_eq_ok {t u : Moment} {length : Duration} (h : t.shift length = .ok u) :
    u = ⟨⟨t.instant + length, t.offset⟩, t.placed⟩ := by
  unfold shift at h
  split at h
  · exact (Except.ok.inj h).symm
  · cases h

/-- A moment that cannot be shifted would be out of range. -/
theorem Moment.shift_eq_error {t : Moment} {length : Duration} {fault : Fault}
    (h : t.shift length = .error fault) : fault.OutOfRange := by
  unfold shift at h
  split at h
  · cases h
  · exact Except.error.inj h ▸ trivial

/-- A moment can be shifted if its own clock stays in the calendar. -/
theorem Moment.shift_isOk_iff {t : Moment} {length : Duration} :
    (∃ shifted, t.shift length = .ok shifted) ↔
      Timestamp.clockInRange (t.localClock + length) = true := by
  unfold shift
  split
  · rename_i hrange
    exact iff_of_true ⟨_, rfl⟩ hrange
  · rename_i hrange
    exact iff_of_false (fun ⟨_, h⟩ => nomatch h) hrange

end StreamWatch
