import StreamWatch.Field.Observe
import StreamWatch.Proofs.Evaluation.Agreement
import StreamWatch.Proofs.Lifecycle.Course
import StreamWatch.Proofs.Number.Nearest

namespace StreamWatch

/-!
# Whole units of a length of time

The whole units in a length are counted by the double nearest to the quotient, which is rounded down.
A length that is only just short of a whole number of units is rounded to that number first.

* `Duration.roundingReach` — how far below a whole number of units a length is rounded to it, which
  is half a unit of the last place that is kept;
* `Duration.wholeUnits_eq` — whole units are those of the length rounded down, once it has grown by
  that much;
* `SessionContext.daysSince_floored_iff` — hence when the days between two times of the calendar are
  rounded down, and `SessionContext.not_daysSince_floored_yearOne`, by which they are not always.
-/

/-! ### Whole units -/

namespace Duration

/-- How far below a whole number of units a length is still rounded to it: half a unit of the last
    place that the double of the quotient keeps. -/
def roundingReach (length unit : Duration) : Duration :=
  unit / twoPow (53 - Nat.log2 (length.natAbs / unit.natAbs))

/-- Whole units are those of the nearest quotient rounded down. -/
theorem wholeUnits_eq_floor {length unit : Duration} (hunit : 0 < unit) {places : Nat}
    (hplaces : places ≤ 1000) (hlength : length.natAbs < twoPow places) :
    wholeUnits length unit = ⌊roundedQuotient length unit⌋ := by
  obtain ⟨x, hx⟩ := Option.isSome_iff_exists.mp
    (quotient?_isSome hplaces (Int.ne_of_gt hunit) hlength)
  rw [wholeUnits, dividedBy, hx, Option.getD_some,
    ExactValue.floor?_of_toExtended? (toExtended?_quotient hunit hx), Option.getD_some]

/-- **Whole units are rounded down once the length has grown by the reach of the rounding.** -/
theorem wholeUnits_eq {length unit : Duration} (hunit : 0 < unit) (hsmall : unit < twoPow 53)
    (hlength : length.natAbs < unit.natAbs * twoPow 52) :
    wholeUnits length unit = (length + roundingReach length unit) / unit := by
  have hden : 0 < unit.natAbs := Int.natAbs_pos.mpr (Int.ne_of_gt hunit)
  have hunits : unit.natAbs < twoPow 53 := by
    apply Int.ofNat_lt.mp
    rw [Int.natAbs_of_nonneg (Int.le_of_lt hunit)]
    exact hsmall
  have hplaces : length.natAbs < twoPow 105 :=
    calc length.natAbs < unit.natAbs * twoPow 52 := hlength
      _ ≤ twoPow 53 * twoPow 52 := Nat.mul_le_mul_right _ (Nat.le_of_lt hunits)
      _ = twoPow 105 := (twoPow_add 53 52).symm
  rw [wholeUnits_eq_floor hunit (by decide) hplaces, roundingReach]
  rcases Nat.lt_or_ge length.natAbs unit.natAbs with hpart | hwhole
  · -- Less than one unit has so many places behind the point that nothing is left of the reach.
    have hplace := lastPlace_of_lt hpart
    obtain ⟨n, hn⟩ : ∃ n : Nat, lastPlace length.natAbs unit.natAbs = -((53 + n : Nat) : Int) :=
      ⟨(-lastPlace length.natAbs unit.natAbs).toNat - 53, by omega⟩
    have hnone (k : Nat) (hk : 53 ≤ k) : unit / (twoPow k : Int) = 0 := by
      apply Int.ediv_eq_zero_of_lt (Int.le_of_lt hunit)
      exact Int.lt_of_lt_of_le hsmall (Int.ofNat_le.mpr (twoPow_le hk))
    rw [floor_roundedQuotient hunit (by omega) hn, Nat.div_eq_of_lt hpart, hnone _ (by omega),
      hnone _ (by decide)]
  · -- The number of whole units tells how many places are in front of the point.
    have hplace := lastPlace_of_le hden hwhole
    have hlog : Nat.log2 (length.natAbs / unit.natAbs) < 52 := by
      rw [Nat.log2_lt (Nat.ne_of_gt (Nat.div_pos hwhole hden))]
      exact Nat.div_lt_of_lt_mul hlength
    generalize Nat.log2 (length.natAbs / unit.natAbs) = k at hplace hlog ⊢
    rw [floor_roundedQuotient hunit (show 0 < 52 - k by omega) (by omega),
      show 52 - k + 1 = 53 - k by omega]

/-- The reach of the rounding of less than `2 ^ k` units is below the share of a unit that goes with
    `k`. -/
theorem roundingReach_le {length unit : Duration} {k : Nat} (hunit : 0 < unit) (hk : 0 < k)
    (hk' : k ≤ 54) (hlength : length.natAbs < unit.natAbs * twoPow k) :
    roundingReach length unit ≤ unit / twoPow (54 - k) := by
  have hlog : Nat.log2 (length.natAbs / unit.natAbs) < k := by
    by_cases hzero : length.natAbs / unit.natAbs = 0
    · rw [hzero]
      exact hk
    · rw [Nat.log2_lt hzero]
      exact Nat.div_lt_of_lt_mul hlength
  have hpower (j : Nat) : (0 : Int) < twoPow j := Int.natCast_pos.mpr (twoPow_pos j)
  have hshare : 0 ≤ roundingReach length unit :=
    Int.ediv_nonneg (Int.le_of_lt hunit) (Int.le_of_lt (hpower _))
  have hfewer : (twoPow (54 - k) : Int) ≤
      twoPow (53 - Nat.log2 (length.natAbs / unit.natAbs)) :=
    Int.ofNat_le.mpr (twoPow_le (by omega))
  rw [Int.le_ediv_iff_mul_le (hpower _)]
  calc roundingReach length unit * twoPow (54 - k)
      ≤ roundingReach length unit * twoPow (53 - Nat.log2 (length.natAbs / unit.natAbs)) :=
        Int.mul_le_mul_of_nonneg_left hfewer hshare
    _ ≤ unit := Int.ediv_mul_le unit (Int.ne_of_gt (hpower _))

end Duration

/-! ### Days between times of the calendar -/

/-- Two moments that can be shown are fewer than `2 ^ 22` days apart. -/
theorem Moment.since_lt {t start : Moment} (ht : t.Shown) (hstart : start.Shown) :
    (t.since start).natAbs < Duration.day.natAbs * twoPow 22 := by
  obtain ⟨hclock, hoffset⟩ := ht
  obtain ⟨hclock', hoffset'⟩ := hstart
  have hdays : Date.dayCount = 3652059 := by decide
  have hpower : Duration.day.natAbs * twoPow 22 = 362387865600000000 := by decide
  simp only [Timestamp.clockInRange, Timestamp.localClock, hdays, Duration.minute, Duration.day,
    Duration.second, decide_eq_true_eq] at hclock hclock'
  rw [hpower, Moment.since]
  omega

/-- A quotient is rounded down to the same number after an addition that leaves the remainder below
    the divisor. -/
theorem div_add_eq_iff {a b c : Int} (hb : 0 < b) (hc : 0 ≤ c) :
    (a + c) / b = a / b ↔ a % b + c < b := by
  have hmono : a / b ≤ (a + c) / b := Int.ediv_le_ediv hb (by omega)
  have hnext : (a + c) / b < a / b + 1 ↔ a + c < (a / b + 1) * b := Int.ediv_lt_iff_lt_mul hb
  have hsplit : a / b * b + a % b = a := Int.ediv_mul_add_emod a b
  rw [Int.add_mul] at hnext
  omega

namespace SessionContext

/-- The days between two times that can be shown. -/
theorem daysSince_eq {c : SessionContext} {moment : Moment} (hnow : c.now.Shown)
    (hmoment : moment.Shown) :
    c.daysSince moment = (c.now.since moment +
      Duration.roundingReach (c.now.since moment) Duration.day) / Duration.day := by
  apply Duration.wholeUnits_eq (by decide) (by decide)
  refine Nat.lt_of_lt_of_le (Moment.since_lt hnow hmoment) ?_
  exact Nat.mul_le_mul_left _ (twoPow_le (by decide))

/-- **Days are rounded down where the length is not too close below a whole number of them.**
    Between two times of the calendar the length is rounded down once it has grown by the reach of
    the rounding, which is at most 20 microseconds.  So the whole days are those of the length
    exactly if it does not come to the next whole number of days by that, and they are so for every
    length of at most 131072 days. -/
theorem daysSince_floored_iff (c : SessionContext) {moment : Moment} (hnow : c.now.Shown)
    (hmoment : moment.Shown) :
    c.daysSince moment = (c.now.since moment +
        Duration.roundingReach (c.now.since moment) Duration.day) / Duration.day ∧
      (c.daysSince moment = c.now.since moment / Duration.day ↔
        c.now.since moment % Duration.day +
          Duration.roundingReach (c.now.since moment) Duration.day < Duration.day) ∧
      Duration.roundingReach (c.now.since moment) Duration.day ≤ 20 ∧
      ((c.now.since moment).natAbs ≤ Duration.day.natAbs * 131072 →
        c.daysSince moment = c.now.since moment / Duration.day) := by
  have hlength := Moment.since_lt hnow hmoment
  rw [daysSince_eq hnow hmoment]
  generalize c.now.since moment = length at hlength ⊢
  have hreach : Duration.roundingReach length Duration.day ≤ 20 :=
    Duration.roundingReach_le (k := 22) (by decide) (by decide) (by decide) hlength
  have hnonneg : 0 ≤ Duration.roundingReach length Duration.day :=
    Int.ediv_nonneg (by decide) (Int.natCast_nonneg _)
  have hfloor := div_add_eq_iff (a := length) (b := Duration.day) (by decide) hnonneg
  refine ⟨rfl, hfloor, hreach, fun hshort => hfloor.mpr ?_⟩
  rcases Nat.lt_or_eq_of_le hshort with hless | hmost
  · -- There is no reach below `2 ^ 17` days.
    have hnone : Duration.roundingReach length Duration.day ≤ 0 :=
      Duration.roundingReach_le (k := 17) (by decide) (by decide) (by decide) hless
    rw [Int.le_antisymm hnone hnonneg, Int.add_zero]
    exact Int.emod_lt_of_pos length (by decide)
  · -- So many days are a whole number of them.
    have hwhole : Duration.day ∣ length :=
      Int.natAbs_dvd_natAbs.mp (hmost ▸ Nat.dvd_mul_right _ _)
    rw [Int.emod_eq_zero_of_dvd hwhole, Int.zero_add]
    exact Int.lt_of_le_of_lt hreach (by decide)

/-- One microsecond short of some days after the start of the year 1, when the user was created. -/
def shortOf (days : Int) : SessionContext :=
  { quietContext with now := .universal (days * Duration.day - 1) }

/-- One microsecond short of the last whole number of days for which it is told. -/
theorem daysSince_floored_iff_lastTold :
    let c := shortOf 131072
    c.now.Shown ∧ c.user.createdAt.Shown ∧
      (c.now.since c.user.createdAt).natAbs ≤ Duration.day.natAbs * 131072 ∧
      c.daysSince c.user.createdAt = 131071 := by
  intro c
  have hnow : c.now.Shown := ⟨by decide, by decide⟩
  have hcreated : c.user.createdAt.Shown := ⟨by decide, by decide⟩
  have hshort : (c.now.since c.user.createdAt).natAbs ≤ Duration.day.natAbs * 131072 := by decide
  obtain ⟨-, -, -, hfloored⟩ := daysSince_floored_iff c hnow hcreated
  exact ⟨hnow, hcreated, hshort, (hfloored hshort).trans (by decide)⟩

/-- Days are not always rounded down: on a day in 2026, one microsecond before its end, a user with
    the first date of the calendar is taken to be a whole day older. -/
theorem not_daysSince_floored_yearOne :
    ¬ ∀ (c : SessionContext) (moment : Moment), c.now.Shown → moment.Shown →
      c.daysSince moment = c.now.since moment / Duration.day := by
  intro hfloored
  have hdays := hfloored (shortOf 739688) (shortOf 739688).user.createdAt
    ⟨by decide, by decide⟩ ⟨by decide, by decide⟩
  exact absurd hdays (by decide +kernel)

end SessionContext

end StreamWatch
