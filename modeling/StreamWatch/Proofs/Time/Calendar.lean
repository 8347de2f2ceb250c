import StreamWatch.Time.Calendar

namespace StreamWatch.Date

/-!
# Days and dates

Every day number is that of one date, which exists:

* `daysInYears_cycles`, `yearsBefore_cycles` — years and days by cycles of 400, 100, 4 years and
  1 year;
* `dayOfYear_lt` — a day belongs to the year that `yearsBefore` finds for it;
* `monthOfDay_spec` — and to the month that is counted for it;
* `dayNumber_ofDayNumber`, `isValid_ofDayNumber` — hence the date of a day exists and has its
  number;
* `dayNumber_lt` — and the dates that exist are those of the days of the calendar.
-/

/-- The days that a year has beyond 365. -/
def leapDays (year : Nat) : Nat := if isLeapYear year then 1 else 0

/-! ### Years by cycles -/

section Cycles

variable {q c f o : Nat}

/-- The days of some years, by their cycles. -/
theorem daysInYears_cycles (hc : c ≤ 3) (hf : f ≤ 24) (ho : o ≤ 3) :
    daysInYears (400 * q + 100 * c + 4 * f + o) =
      146097 * q + 36524 * c + 1461 * f + 365 * o := by
  have hfours : (400 * q + 100 * c + 4 * f + o) / 4 = 100 * q + 25 * c + f := by omega
  have hcenturies : (400 * q + 100 * c + 4 * f + o) / 100 = 4 * q + c := by omega
  have hcycles : (400 * q + 100 * c + 4 * f + o) / 400 = q := by omega
  rw [daysInYears, hfours, hcenturies, hcycles]
  omega

/-- The last of four years is a leap year, but of four centuries' last years only one is. -/
theorem leapDays_cycles (hc : c ≤ 3) (hf : f ≤ 24) (ho : o ≤ 3) :
    leapDays (400 * q + 100 * c + 4 * f + o + 1) =
      if o = 3 ∧ (f < 24 ∨ c = 3) then 1 else 0 := by
  have hleap : isLeapYear (400 * q + 100 * c + 4 * f + o + 1) = true ↔
      o = 3 ∧ (f < 24 ∨ c = 3) := by
    simp only [isLeapYear, Bool.and_eq_true, Bool.or_eq_true, bne_iff_ne, beq_iff_eq]
    omega
  rw [leapDays]
  by_cases h : o = 3 ∧ (f < 24 ∨ c = 3)
  · rw [if_pos h, if_pos (hleap.mpr h)]
  · rw [if_neg h, if_neg (mt hleap.mp h)]

end Cycles

/-- Every number of years is made of cycles. -/
theorem exists_cycles (years : Nat) : ∃ q c f o, c ≤ 3 ∧ f ≤ 24 ∧ o ≤ 3 ∧
    years = 400 * q + 100 * c + 4 * f + o :=
  ⟨years / 400, years % 400 / 100, years % 100 / 4, years % 4, by omega, by omega, by omega,
    by omega⟩

/-- The years that have passed by a day, by their cycles, with the days that have passed since. -/
theorem yearsBefore_cycles (n : Nat) : ∃ q c f o r, c ≤ 3 ∧ f ≤ 24 ∧ o ≤ 3 ∧
    r ≤ 365 ∧ (r = 365 → o = 3 ∧ (f < 24 ∨ c = 3)) ∧
    yearsBefore n = 400 * q + 100 * c + 4 * f + o ∧
    n = 146097 * q + 36524 * c + 1461 * f + 365 * o + r := by
  obtain ⟨a, ha⟩ : ∃ a, n % 146097 = a := ⟨_, rfl⟩
  obtain ⟨c, hc⟩ : ∃ c, min (a / 36524) 3 = c := ⟨_, rfl⟩
  obtain ⟨b, hb⟩ : ∃ b, a - c * 36524 = b := ⟨_, rfl⟩
  obtain ⟨o, ho⟩ : ∃ o, min (b % 1461 / 365) 3 = o := ⟨_, rfl⟩
  have hyears : yearsBefore n = n / 146097 * 400 + c * 100 + b / 1461 * 4 + o := by
    simp only [yearsBefore, ha, hc, hb, ho]
  refine ⟨n / 146097, c, b / 1461, o, b % 1461 - 365 * o, ?_, ?_, ?_, ?_, ?_, ?_, ?_⟩ <;> omega

/-- A year is followed by another one after its days. -/
theorem daysInYears_succ (years : Nat) :
    daysInYears (years + 1) = daysInYears years + 365 + leapDays (years + 1) := by
  obtain ⟨q, c, f, o, hc, hf, ho, rfl⟩ := exists_cycles years
  rw [leapDays_cycles hc hf ho, daysInYears_cycles hc hf ho]
  -- The year ends a year, four years, a century or four centuries.
  by_cases hyear : o < 3
  · have hnext := daysInYears_cycles (q := q) hc hf hyear
    rw [if_neg (by omega)]
    exact hnext.trans (by omega)
  · obtain rfl : o = 3 := by omega
    by_cases hfours : f < 24
    · have hnext := daysInYears_cycles (q := q) hc hfours (Nat.zero_le 3)
      rw [if_pos (by omega), show 400 * q + 100 * c + 4 * f + 3 + 1 =
        400 * q + 100 * c + 4 * (f + 1) + 0 by omega, hnext]
      omega
    · obtain rfl : f = 24 := by omega
      by_cases hcentury : c < 3
      · have hnext := daysInYears_cycles (q := q) hcentury (Nat.zero_le 24) (Nat.zero_le 3)
        rw [if_neg (by omega), show 400 * q + 100 * c + 4 * 24 + 3 + 1 =
          400 * q + 100 * (c + 1) + 4 * 0 + 0 by omega, hnext]
        omega
      · obtain rfl : c = 3 := by omega
        have hnext := daysInYears_cycles (q := q + 1) (Nat.zero_le 3) (Nat.zero_le 24)
          (Nat.zero_le 3)
        rw [if_pos (by omega), show 400 * q + 100 * 3 + 4 * 24 + 3 + 1 =
          400 * (q + 1) + 100 * 0 + 4 * 0 + 0 by omega, hnext]
        omega

/-- More years have more days. -/
theorem daysInYears_mono {a b : Nat} (h : a ≤ b) : daysInYears a ≤ daysInYears b := by
  induction h with
  | refl => exact Nat.le_refl _
  | step _ ih => exact Nat.le_trans ih (by rw [daysInYears_succ]; omega)

/-- The years that have passed by a day have no more days than have passed. -/
theorem daysInYears_yearsBefore_le (n : Nat) : daysInYears (yearsBefore n) ≤ n := by
  obtain ⟨q, c, f, o, r, hc, hf, ho, _, _, hyears, hn⟩ := yearsBefore_cycles n
  rw [hyears, daysInYears_cycles hc hf ho]
  omega

/-- A day is one of the year that `yearsBefore` finds for it. -/
theorem dayOfYear_lt (n : Nat) :
    n - daysInYears (yearsBefore n) < 365 + leapDays (yearsBefore n + 1) := by
  obtain ⟨q, c, f, o, r, hc, hf, ho, hr, hlast, hyears, hn⟩ := yearsBefore_cycles n
  rw [hyears, daysInYears_cycles hc hf ho, leapDays_cycles hc hf ho]
  by_cases hleap : o = 3 ∧ (f < 24 ∨ c = 3)
  · rw [if_pos hleap]
    omega
  · rw [if_neg hleap]
    have := mt hlast hleap
    omega

/-! ### Months -/

/-- The months of two years are alike if both are leap years or neither is. -/
theorem daysInMonth_congr {year other : Nat} (h : isLeapYear year = isLeapYear other) :
    daysInMonth year = daysInMonth other := by
  funext month
  rw [daysInMonth, daysInMonth, h]

/-- Months of alike years begin on the same days. -/
theorem daysBeforeMonth_congr {year other : Nat} (h : isLeapYear year = isLeapYear other) :
    daysBeforeMonth year = daysBeforeMonth other := by
  funext month
  simp only [daysBeforeMonth, daysInMonth_congr h]

/-- Every year is like the year 1 or the year 4. -/
theorem alike_one_or_four (year : Nat) :
    isLeapYear year = isLeapYear 1 ∨ isLeapYear year = isLeapYear 4 := by
  cases isLeapYear year
  · exact .inl rfl
  · exact .inr rfl

/-- The month of a day of a year: the months that have begun by then are counted. -/
def monthOfDay (year dayOfYear : Nat) : Nat :=
  ((List.range 12).filter fun i => decide (daysBeforeMonth year (i + 1) ≤ dayOfYear)).length

/-- Does a month hold a day of a year? -/
def MonthHolds (year dayOfYear month : Nat) : Prop :=
  1 ≤ month ∧ month ≤ 12 ∧ daysBeforeMonth year month ≤ dayOfYear ∧
    dayOfYear - daysBeforeMonth year month + 1 ≤ daysInMonth year month

instance (year dayOfYear month : Nat) : Decidable (MonthHolds year dayOfYear month) :=
  inferInstanceAs (Decidable (_ ∧ _ ∧ _ ∧ _))

/-- A day of a year belongs to the month that is counted for it. -/
theorem monthOfDay_spec {year dayOfYear : Nat} (h : dayOfYear < 365 + leapDays year) :
    MonthHolds year dayOfYear (monthOfDay year dayOfYear) := by
  -- All days of a common year and of a leap year are looked at.
  obtain halike | halike := alike_one_or_four year
  · have hone : ∀ day < 365, MonthHolds 1 day (monthOfDay 1 day) := by decide +kernel
    simp only [MonthHolds, monthOfDay, leapDays, daysBeforeMonth_congr halike,
      daysInMonth_congr halike, halike] at h ⊢
    exact hone dayOfYear h
  · have hfour : ∀ day < 366, MonthHolds 4 day (monthOfDay 4 day) := by decide +kernel
    simp only [MonthHolds, monthOfDay, leapDays, daysBeforeMonth_congr halike,
      daysInMonth_congr halike, halike] at h ⊢
    exact hfour dayOfYear h

/-- The days of a month belong to its year. -/
theorem daysBeforeMonth_add_le {year month : Nat} (hfrom : 1 ≤ month) (hto : month ≤ 12) :
    daysBeforeMonth year month + daysInMonth year month ≤ 365 + leapDays year := by
  obtain ⟨m, rfl⟩ : ∃ m, month = m + 1 := ⟨month - 1, by omega⟩
  obtain halike | halike := alike_one_or_four year
  · have hone : ∀ m < 12, daysBeforeMonth 1 (m + 1) + daysInMonth 1 (m + 1) ≤ 365 := by decide
    rw [daysBeforeMonth_congr halike, daysInMonth_congr halike, leapDays, halike]
    exact hone m (by omega)
  · have hfour : ∀ m < 12, daysBeforeMonth 4 (m + 1) + daysInMonth 4 (m + 1) ≤ 366 := by decide
    rw [daysBeforeMonth_congr halike, daysInMonth_congr halike, leapDays, halike]
    exact hfour m (by omega)

/-! ### Dates -/

/-- The year, the month and the day of the month of a day. -/
theorem ofDayNumber_eq (n : Nat) :
    let year := yearsBefore n + 1
    let dayOfYear := n - daysInYears (yearsBefore n)
    ofDayNumber n = ⟨year, monthOfDay year dayOfYear,
      dayOfYear - daysBeforeMonth year (monthOfDay year dayOfYear) + 1⟩ := rfl

/-- **The date of a day has its number.** -/
theorem dayNumber_ofDayNumber (n : Nat) : (ofDayNumber n).dayNumber = n := by
  have hyear := daysInYears_yearsBefore_le n
  obtain ⟨_, _, hbefore, _⟩ := monthOfDay_spec (dayOfYear_lt n)
  rw [ofDayNumber_eq, dayNumber]
  simp only [Nat.add_sub_cancel]
  omega

/-- **The date of a day of the calendar exists.** -/
theorem isValid_ofDayNumber {n : Nat} (h : n < dayCount) : (ofDayNumber n).isValid = true := by
  obtain ⟨hfrom, hto, _, hday⟩ := monthOfDay_spec (dayOfYear_lt n)
  have hyear : yearsBefore n < 9999 := by
    refine Nat.lt_of_not_le fun hlate => ?_
    have hdays := daysInYears_mono hlate
    have hpassed := daysInYears_yearsBefore_le n
    unfold dayCount at h
    omega
  rw [ofDayNumber_eq, isValid, decide_eq_true_eq]
  exact ⟨Nat.le_add_left 1 _, hyear, hfrom, hto, Nat.le_add_left 1 _, hday⟩

/-- A date that exists is one of the days of the calendar. -/
theorem dayNumber_lt {d : Date} (h : d.isValid = true) : d.dayNumber < dayCount := by
  obtain ⟨hyear, hlast, hfrom, hto, hday, hmonth⟩ := of_decide_eq_true h
  have hdays : daysBeforeMonth d.year d.month + daysInMonth d.year d.month ≤ _ :=
    daysBeforeMonth_add_le hfrom hto
  have hnext := daysInYears_succ (d.year - 1)
  have hmost := daysInYears_mono hlast
  rw [Nat.sub_add_cancel hyear] at hnext
  unfold dayNumber dayCount
  omega

end StreamWatch.Date
