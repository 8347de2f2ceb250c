import StreamWatch.Proofs.Time.Calendar
import StreamWatch.Time.Text

namespace StreamWatch.Timestamp

/-!
# Timestamps written and read

A timestamp with an offset whose clock shows a date of the calendar is read back from its written
form, whatever the form of the fraction of a second is:

* `InCalendar` — the timestamps with an offset of less than a day and a date of the calendar;
* `ReadsBack` — a form of the fraction of a second that is read back;
* `read?_charsWith` — such timestamps are read back from their written form;
* `inCalendar_of_read?`, `inCalendar_of_ofUnix?` — whatever is read is such a timestamp, once it
  has an offset.
-/

open Text

/-- Does a timestamp have an offset of less than a day either way, and does its clock show a date
    of the calendar? -/
structure InCalendar (t : Timestamp) : Prop where
  offset : ∃ minutes : Int, t.offset = some minutes ∧ minutes.natAbs < 1440
  clock : clockInRange t.localClock = true

/-- A timestamp of the calendar can be shown. -/
theorem InCalendar.shown {t : Timestamp} (h : t.InCalendar) : t.Shown where
  clock := h.clock
  offset := by
    obtain ⟨minutes, hoffset, hminutes⟩ := h.offset
    rwa [hoffset]

/-- A timestamp that can be shown stands for a moment of the calendar. -/
theorem Shown.inCalendar {t : Timestamp} (h : t.Shown) : t.assumeUniversal.InCalendar :=
  ⟨⟨_, rfl, h.offset⟩, h.clock⟩

/-! ### Digits -/

variable {width n : Nat} {rest : List Char}

/-- Padded numbers are made of digits. -/
theorem isDigit_of_mem_padded {c : Char} (h : c ∈ padded width n) : c.isDigit = true := by
  obtain hzero | hdigit := List.mem_append.mp h
  · rw [List.eq_of_mem_replicate hzero]
    rfl
  · exact Nat.isDigit_of_mem_toDigits (by decide) (by decide) hdigit

/-- Zeros in front of digits change nothing. -/
theorem digitsValue_replicate_append (k : Nat) (cs : List Char) :
    digitsValue (List.replicate k '0' ++ cs) = digitsValue cs := by
  induction k with
  | zero => rfl
  | succ k ih => exact ih

/-- A padded number is read back. -/
theorem decimal?_padded (width n : Nat) : decimal? (padded width n) = some n := by
  have hne : (padded width n).isEmpty = false :=
    List.isEmpty_eq_false_iff.mpr (List.append_ne_nil_of_right_ne_nil _ Nat.toDigits_ne_nil)
  have hdigits : (padded width n).all Char.isDigit = true :=
    List.all_eq_true.mpr fun _ => isDigit_of_mem_padded
  have hvalue : digitsValue (padded width n) = n :=
    (digitsValue_replicate_append _ _).trans Nat.ofDigitChars_ten_toDigits
  rw [decimal?, hne, hdigits, hvalue]
  rfl

/-- A number of few digits is padded to the width. -/
theorem length_padded (hwidth : 0 < width) (h : n < tenPow width) :
    (padded width n).length = width := by
  have hdigits : (decimalDigits n).length ≤ width :=
    (Nat.length_toDigits_le_iff (by decide) hwidth).mpr h
  rw [padded, padZeros, List.length_append, List.length_replicate, Nat.sub_add_cancel hdigits]

/-- A padded number is read from the front of a text. -/
theorem number?_padded (hwidth : 0 < width) (h : n < tenPow width) :
    number? width (padded width n ++ rest) = some (n, rest) := by
  have hlength := length_padded hwidth h
  simp only [number?, List.take_left' hlength, List.drop_left' hlength, hlength, if_true,
    decimal?_padded]
  rfl

/-! ### Dates and times of day -/

/-- A date that exists is read from the front of a text. -/
theorem date?_written {d : Date} (h : d.isValid = true) :
    date? (padded 4 d.year ++ ('-' :: (padded 2 d.month ++ ('-' :: (padded 2 d.day ++ rest))))) =
      some (d, rest) := by
  obtain ⟨_, hyear, _, hmonth, _, hday⟩ := of_decide_eq_true h
  have hlong : Date.daysInMonth d.year d.month ≤ 31 := by
    unfold Date.daysInMonth
    repeat' split
    all_goals decide
  have hyear : d.year < tenPow 4 := Nat.lt_of_le_of_lt hyear (by decide)
  have hmonth : d.month < tenPow 2 := Nat.lt_of_le_of_lt hmonth (by decide)
  have hday : d.day < tenPow 2 := Nat.lt_of_le_of_lt (Nat.le_trans hday hlong) (by decide)
  simp [date?, number?_padded, hyear, hmonth, hday, mark?, h]

/-- The sign stands in front of the digits of an offset. -/
theorem offsetText_eq (minutes : Int) : offsetText minutes =
    (if minutes < 0 then '-' else '+') ::
      (padded 2 (minutes.natAbs / 60) ++ (':' :: padded 2 (minutes.natAbs % 60))) := rfl

/-- An offset begins with a sign. -/
theorem offsetText_cons (minutes : Int) :
    ∃ sign digits, offsetText minutes = sign :: digits ∧ (sign = '+' ∨ sign = '-') := by
  refine ⟨_, _, offsetText_eq minutes, ?_⟩
  split
  · exact .inr rfl
  · exact .inl rfl

/-- Is a form of the fraction of a second read back in front of any offset? -/
def ReadsBack (fraction : Nat → List Char) : Prop :=
  ∀ micros < 1000000, ∀ minutes : Int,
    fraction? (fraction micros ++ offsetText minutes) = some (micros, offsetText minutes)

/-- A fraction with all its digits is read back. -/
theorem fullFraction_readsBack : ReadsBack fullFraction := by
  intro micros hmicros minutes
  have hlength : (padded 6 micros).length = 6 := length_padded (by decide) hmicros
  have hdigits : ∀ c ∈ padded 6 micros, c.isDigit = true := fun _ => isDigit_of_mem_padded
  obtain ⟨sign, digits, hoffset, hsign⟩ := offsetText_cons minutes
  have hend : sign.isDigit = false := by obtain rfl | rfl := hsign <;> rfl
  simp [fraction?, fullFraction, mark?, hoffset, List.takeWhile_append_of_pos hdigits,
    List.dropWhile_append_of_pos hdigits, hend, hlength, decimal?_padded, tenPow]

/-- A fraction that is left out where it is zero is read back. -/
theorem briefFraction_readsBack : ReadsBack briefFraction := by
  intro micros hmicros minutes
  by_cases hzero : micros = 0
  · subst hzero
    obtain ⟨sign, digits, hoffset, hsign⟩ := offsetText_cons minutes
    rw [hoffset]
    obtain rfl | rfl := hsign <;> rfl
  · rw [briefFraction, if_neg hzero]
    exact fullFraction_readsBack micros hmicros minutes

/-- A time of day is read from the front of a text. -/
theorem timeOfDay?_written {fraction : Nat → List Char} (hfraction : ReadsBack fraction)
    {hours minutes seconds micros : Nat} (hhours : hours < 24) (hminutes : minutes < 60)
    (hseconds : seconds < 60) (hmicros : micros < 1000000) (offset : Int) :
    timeOfDay? (padded 2 hours ++ (':' :: (padded 2 minutes ++ (':' :: (padded 2 seconds ++
      (fraction micros ++ offsetText offset)))))) =
      some ((hours * 3600 + minutes * 60 + seconds) * 1000000 + micros, offsetText offset) := by
  have hours_lt : hours < tenPow 2 := Nat.lt_trans hhours (by decide)
  have minutes_lt : minutes < tenPow 2 := Nat.lt_trans hminutes (by decide)
  have seconds_lt : seconds < tenPow 2 := Nat.lt_trans hseconds (by decide)
  have hread := hfraction micros hmicros offset
  have hlast : seconds ≤ 59 ∧ hours ≤ 23 ∧ minutes ≤ 59 := by omega
  simp [timeOfDay?, seconds?, number?_padded, hours_lt, minutes_lt, seconds_lt, mark?, hread, hlast]
  omega

/-! ### Offsets -/

/-- A number of minutes of less than a day is read back. -/
theorem offsetMinutes?_written {minutes : Nat} (h : minutes < 1440) :
    offsetMinutes? (padded 2 (minutes / 60) ++ (':' :: padded 2 (minutes % 60))) =
      some (minutes : Int) := by
  have hours_lt : minutes / 60 < tenPow 2 :=
    Nat.lt_of_le_of_lt (Nat.div_le_div_right (Nat.le_of_lt_succ h)) (by decide)
  have minutes_lt : minutes % 60 < tenPow 2 :=
    Nat.lt_trans (Nat.mod_lt _ (by decide)) (by decide)
  have hlast : minutes / 60 ≤ 23 ∧ minutes % 60 ≤ 59 := by omega
  have hlow : number? 2 (padded 2 (minutes % 60)) = some (minutes % 60, []) := by
    rw [← List.append_nil (padded 2 _)]
    exact number?_padded (by decide) minutes_lt
  simp [offsetMinutes?, number?_padded, hours_lt, hlow, mark?, hlast]
  omega

/-- An offset of less than a day is read back. -/
theorem offset?_offsetText {minutes : Int} (h : minutes.natAbs < 1440) :
    offset? (offsetText minutes) = some (some minutes) := by
  have hread := offsetMinutes?_written h
  rw [offsetText_eq]
  split
  · simp only [offset?, hread, Option.map_some, Option.some_inj]
    omega
  · simp only [offset?, hread, Option.map_some, Option.some_inj]
    omega

/-! ### Timestamps -/

/-- A clock in the calendar shows a day of it. -/
theorem day_lt_of_clockInRange {clock : Int} (h : clockInRange clock = true) :
    0 ≤ clock ∧ clock.toNat / 1000000 / 86400 < Date.dayCount := by
  obtain ⟨hfrom, huntil⟩ := of_decide_eq_true h
  have hday : Duration.day = 86400000000 := rfl
  rw [hday] at huntil
  omega

/-- The parts of a timestamp are read from a text. -/
theorem read?_parts {fraction : Nat → List Char} (hfraction : ReadsBack fraction) {d : Date}
    (hd : d.isValid = true) {hours minutes seconds micros : Nat} (hhours : hours < 24)
    (hminutes : minutes < 60) (hseconds : seconds < 60) (hmicros : micros < 1000000)
    {offset : Int} (hoffset : offset.natAbs < 1440) :
    read? (padded 4 d.year ++ ('-' :: (padded 2 d.month ++ ('-' :: (padded 2 d.day ++
      ('T' :: (padded 2 hours ++ (':' :: (padded 2 minutes ++ (':' :: (padded 2 seconds ++
        (fraction micros ++ offsetText offset)))))))))))) =
      some (ofLocalClock (d.dayNumber * Duration.day +
        ((hours * 3600 + minutes * 60 + seconds) * 1000000 + micros : Nat)) (some offset)) := by
  have htime := timeOfDay?_written hfraction hhours hminutes hseconds hmicros offset
  simp [read?, date?_written hd, mark?, htime, offset?_offsetText hoffset]

/-- **A timestamp is read back from its written form.** -/
theorem read?_charsWith {fraction : Nat → List Char} (hfraction : ReadsBack fraction)
    {t : Timestamp} (ht : t.InCalendar) : read? (t.charsWith fraction) = some t := by
  obtain ⟨minutes, hoffset, hminutes⟩ := ht.offset
  obtain ⟨hfrom, hday⟩ := day_lt_of_clockInRange ht.clock
  -- The clock is not negative, and its parts are taken as those of a natural number.
  obtain ⟨clock, hclock⟩ : ∃ clock, t.localClock.toNat = clock := ⟨_, rfl⟩
  rw [hclock] at hday
  have hread := read?_parts hfraction (Date.isValid_ofDayNumber hday)
    (show clock / 1000000 % 86400 / 3600 < 24 by omega)
    (show clock / 1000000 % 86400 / 60 % 60 < 60 by omega)
    (show clock / 1000000 % 86400 % 60 < 60 by omega)
    (show clock % 1000000 < 1000000 by omega) hminutes
  have hparts : (clock / 1000000 / 86400 : Nat) * Duration.day +
      ((clock / 1000000 % 86400 / 3600 * 3600 + clock / 1000000 % 86400 / 60 % 60 * 60 +
        clock / 1000000 % 86400 % 60) * 1000000 + clock % 1000000 : Nat) = t.localClock := by
    have hlength : Duration.day = 86400000000 := rfl
    rw [hlength]
    -- A duration is an integer, but `omega` does not look behind the name.
    delta Duration
    omega
  rw [Date.dayNumber_ofDayNumber, hparts] at hread
  have hback : ofLocalClock t.localClock (some minutes) = t := by
    rw [ofLocalClock, localClock, hoffset, Int.add_sub_cancel, ← hoffset]
  rw [hback] at hread
  simpa only [charsWith, hclock, hoffset, List.append_assoc, List.cons_append] using hread

/-! ### What is read -/

/-- The local clock is that from which a timestamp is made. -/
@[simp] theorem localClock_ofLocalClock (clock : Int) (offset : Option Int) :
    (ofLocalClock clock offset).localClock = clock := Int.sub_add_cancel clock _

/-- A timestamp of the calendar is one whether or not its offset is given. -/
theorem inCalendar_assumeUniversal {t : Timestamp} (hclock : clockInRange t.localClock = true)
    (hoffset : ∀ minutes ∈ t.offset, minutes.natAbs < 1440) : t.assumeUniversal.InCalendar := by
  refine ⟨⟨t.offset.getD 0, rfl, ?_⟩, hclock⟩
  cases h : t.offset with
  | none => decide
  | some minutes => exact hoffset minutes h

/-- The first digit counts as often as the power of ten of the digits behind it says. -/
theorem digitsValue_cons (c : Char) (cs : List Char) :
    digitsValue (c :: cs) = tenPow cs.length * (c.toNat - '0'.toNat) + digitsValue cs := by
  show Nat.ofDigitChars 10 cs (10 * 0 + (c.toNat - '0'.toNat)) = _
  rw [Nat.mul_zero, Nat.zero_add]
  exact Nat.ofDigitChars_eq_ofDigitChars_zero

/-- Digits count to less than the power of ten of their number. -/
theorem digitsValue_lt {cs : List Char} (h : cs.all Char.isDigit = true) :
    digitsValue cs < tenPow cs.length := by
  induction cs with
  | nil => exact Nat.zero_lt_one
  | cons c rest ih =>
    obtain ⟨hc, hrest⟩ := Bool.and_eq_true_iff.mp h
    have hdigit : c.toNat - '0'.toNat < 10 := by
      have hrange := Char.isDigit_iff_toNat.mp hc
      have hzero : '0'.toNat = 48 := rfl
      have hnine : '9'.toNat = 57 := rfl
      omega
    calc digitsValue (c :: rest)
        = tenPow rest.length * (c.toNat - '0'.toNat) + digitsValue rest :=
          digitsValue_cons c rest
      _ < tenPow rest.length * (c.toNat - '0'.toNat + 1) := Nat.add_lt_add_left (ih hrest) _
      _ ≤ tenPow rest.length * 10 := Nat.mul_le_mul_left _ hdigit

/-- What is read of some digits is less than the power of ten of their number. -/
theorem decimal?_lt {cs : List Char} (h : decimal? cs = some n) : n < tenPow cs.length := by
  unfold decimal? at h
  split at h
  · rename_i hdigits
    rw [← Option.some.inj h]
    exact digitsValue_lt (Bool.and_eq_true_iff.mp hdigits).2
  · cases h

/-- Six digits of the fraction of a second count. -/
theorem fraction?_lt {cs : List Char} {micros : Nat}
    (h : fraction? cs = some (micros, rest)) : micros < 1000000 := by
  unfold fraction? at h
  split at h
  · simp only [Option.some.injEq, Prod.mk.injEq] at h
    omega
  · rename_i written _
    obtain ⟨value, hvalue, h⟩ := Option.bind_eq_some_iff.mp h
    obtain ⟨digits, hdigits⟩ : ∃ digits, written.takeWhile Char.isDigit = digits := ⟨_, rfl⟩
    simp only [hdigits] at h hvalue
    have hbound := decimal?_lt hvalue
    obtain ⟨rfl, _⟩ := Prod.mk.inj (Option.some.inj h)
    split
    · -- Up to six digits are shifted to the left, and of more the first six are kept.
      rename_i hfew
      calc value * tenPow (6 - digits.length)
          < tenPow digits.length * tenPow (6 - digits.length) :=
            Nat.mul_lt_mul_of_pos_right hbound (tenPow_pos _)
        _ = tenPow (digits.length + (6 - digits.length)) := (Nat.pow_add 10 _ _).symm
        _ = tenPow 6 := by rw [Nat.add_sub_cancel' hfew]
    · rename_i hmany
      have hlength : digits.length = 6 + (digits.length - 6) := by omega
      rw [hlength] at hbound
      refine Nat.div_lt_of_lt_mul (Nat.lt_of_lt_of_eq hbound ?_)
      exact (Nat.pow_add 10 _ _).trans (Nat.mul_comm _ _)

/-- The seconds of a time of day are those of a minute. -/
theorem seconds?_lt {cs : List Char} {micros : Nat}
    (h : seconds? cs = some (micros, rest)) : micros < 60000000 := by
  unfold seconds? at h
  split at h
  · simp only [Option.some.injEq, Prod.mk.injEq] at h
    omega
  · simp only [Option.bind_eq_bind, Option.bind_eq_some_iff, Prod.exists] at h
    obtain ⟨seconds, _, _, fraction, _, hfraction, h⟩ := h
    have hfraction := fraction?_lt hfraction
    split at h
    · simp only [Option.some.injEq, Prod.mk.injEq] at h
      omega
    · cases h

/-- A time of day is one of the day. -/
theorem timeOfDay?_lt {cs : List Char} {micros : Nat}
    (h : timeOfDay? cs = some (micros, rest)) : micros < 86400000000 := by
  simp only [timeOfDay?, Option.bind_eq_bind, Option.bind_eq_some_iff, Prod.exists] at h
  obtain ⟨hours, _, _, _, _, minutes, _, _, ofMinute, _, hseconds, h⟩ := h
  have hseconds := seconds?_lt hseconds
  split at h
  · simp only [Option.some.injEq, Prod.mk.injEq] at h
    omega
  · cases h

/-- The hours and minutes of an offset are less than a day. -/
theorem offsetMinutes?_lt {cs : List Char} {minutes : Int}
    (h : offsetMinutes? cs = some minutes) : minutes.natAbs < 1440 := by
  simp only [offsetMinutes?, Option.bind_eq_bind, Option.bind_eq_some_iff, Prod.exists] at h
  obtain ⟨hours, _, _, rest, _, _, h⟩ := h
  split at h
  · rw [← Option.some.inj h]
    omega
  · cases h

/-- Offsets that are read are less than a day. -/
theorem offset?_lt {cs : List Char} {offset : Option Int} (h : offset? cs = some offset) :
    ∀ minutes ∈ offset, minutes.natAbs < 1440 := by
  intro minutes hminutes
  obtain rfl := Option.mem_def.mp hminutes
  have hnegative : ∀ digits, (offsetMinutes? digits).map (fun read => some (-read)) =
      some (some minutes) → minutes.natAbs < 1440 := by
    intro digits hdigits
    obtain ⟨read, hread, hsign⟩ := Option.map_eq_some_iff.mp hdigits
    rw [← Option.some.inj hsign, Int.natAbs_neg]
    exact offsetMinutes?_lt hread
  unfold offset? at h
  split at h
  case h_1 => cases h
  case h_2 | h_3 => cases h; decide
  case h_4 =>
    obtain ⟨read, hread, hsign⟩ := Option.map_eq_some_iff.mp h
    exact Option.some.inj hsign ▸ offsetMinutes?_lt hread
  case h_5 | h_6 => exact hnegative _ h
  case h_7 => cases h

/-- Dates that are read exist. -/
theorem isValid_of_date? {cs : List Char} {d : Date} (h : date? cs = some (d, rest)) :
    d.isValid = true := by
  simp only [date?, Option.bind_eq_bind, Option.bind_eq_some_iff, Prod.exists] at h
  obtain ⟨_, _, _, _, _, _, _, _, _, _, _, _, _, h⟩ := h
  split at h
  · rename_i hvalid
    rw [← (Prod.mk.inj (Option.some.inj h)).1]
    exact hvalid
  · cases h

/-- The clock at a time of a date that exists is in the calendar. -/
theorem clockInRange_of_date {d : Date} (hd : d.isValid = true) {micros : Nat}
    (h : micros < 86400000000) : clockInRange (d.dayNumber * Duration.day + micros) = true := by
  have hday := Date.dayNumber_lt hd
  have hlength : Duration.day = 86400000000 := rfl
  refine decide_eq_true ?_
  rw [hlength]
  delta Duration
  omega

/-- **A timestamp that is read is one of the calendar**, once it has an offset. -/
theorem inCalendar_of_read? {cs : List Char} {t : Timestamp} (h : read? cs = some t) :
    t.assumeUniversal.InCalendar := by
  simp only [read?, Option.bind_eq_bind, Option.bind_eq_some_iff, Prod.exists] at h
  obtain ⟨date, rest, hdate, h⟩ := h
  have hvalid := isValid_of_date? hdate
  split at h
  · rw [← Option.some.inj h]
    refine inCalendar_assumeUniversal ?_ fun _ hnone => absurd hnone (Option.not_mem_none _)
    rw [localClock_ofLocalClock]
    simpa using clockInRange_of_date hvalid (show 0 < 86400000000 by decide)
  · simp only [Option.bind_eq_some_iff, Prod.exists] at h
    obtain ⟨_, _, micros, _, htime, offset, hoffset, h⟩ := h
    rw [← Option.some.inj h]
    refine inCalendar_assumeUniversal ?_ (offset?_lt hoffset)
    rw [localClock_ofLocalClock]
    exact clockInRange_of_date hvalid (timeOfDay?_lt htime)

/-- **A timestamp that a number counts to is one of the calendar.** -/
theorem inCalendar_of_ofUnix? {count : Number} {t : Timestamp} (h : ofUnix? count = some t) :
    t.assumeUniversal.InCalendar := by
  have hread : ∀ length, ofUnixMicroseconds? length = some t → t.assumeUniversal.InCalendar := by
    intro length h
    unfold ofUnixMicroseconds? at h
    split at h
    · rename_i hclock
      rw [← Option.some.inj h]
      refine inCalendar_assumeUniversal ?_ fun minutes hminutes => ?_
      · show clockInRange (unixStart + length + 0 * Duration.minute) = true
        rw [Int.zero_mul, Int.add_zero]
        exact hclock
      · rw [← Option.some.inj hminutes]
        decide
    · cases h
  unfold ofUnix? at h
  simp only at h
  split at h
  · exact hread _ h
  · split at h
    · exact hread _ h
    · cases h

end StreamWatch.Timestamp
