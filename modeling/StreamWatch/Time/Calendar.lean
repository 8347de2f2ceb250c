namespace StreamWatch

/-! # The calendar

Days are numbered from 0 for the first of January of the year 1, by the leap rule of today
for all years:

* `Date.dayNumber`: the number of the day of a date;
* `Date.ofDayNumber`: the date of a day number;
* `Date.isValid`: which dates exist.
-/

/-- A date. -/
structure Date where
  year : Nat
  month : Nat
  day : Nat
  deriving Repr, DecidableEq

namespace Date

/-- Does a year have a 29th of February? -/
def isLeapYear (year : Nat) : Bool :=
  year % 4 == 0 && (year % 100 != 0 || year % 400 == 0)

/-- The days of a month. -/
def daysInMonth (year month : Nat) : Nat :=
  if month = 2 then (if isLeapYear year then 29 else 28)
  else if month = 4 ∨ month = 6 ∨ month = 9 ∨ month = 11 then 30
  else 31

/-- Does a date exist in the years 1 to 9999? -/
def isValid (d : Date) : Bool :=
  decide (1 ≤ d.year ∧ d.year ≤ 9999 ∧ 1 ≤ d.month ∧ d.month ≤ 12 ∧ 1 ≤ d.day ∧
    d.day ≤ daysInMonth d.year d.month)

/-- The days from the first of January of the year 1 to that of `years` years later. -/
def daysInYears (years : Nat) : Nat := 365 * years + years / 4 - years / 100 + years / 400

/-- The days of a year before a month. -/
def daysBeforeMonth (year month : Nat) : Nat :=
  (List.range (month - 1)).foldr (fun i total => daysInMonth year (i + 1) + total) 0

/-- The number of the day of a date. -/
def dayNumber (d : Date) : Nat :=
  daysInYears (d.year - 1) + daysBeforeMonth d.year d.month + (d.day - 1)

/-- The whole years that have passed by a day: by cycles of 400, 100, 4 years and 1 year.
    The last day of a cycle of 400 or 4 years still belongs to the year that it ends. -/
def yearsBefore (n : Nat) : Nat :=
  let in400 := n % 146097
  let centuries := min (in400 / 36524) 3
  let in100 := in400 - centuries * 36524
  let fours := in100 / 1461
  let in4 := in100 % 1461
  n / 146097 * 400 + centuries * 100 + fours * 4 + min (in4 / 365) 3

/-- The date of a day number. -/
def ofDayNumber (n : Nat) : Date :=
  let year := yearsBefore n + 1
  let dayOfYear := n - daysInYears (yearsBefore n)
  let month := ((List.range 12).filter fun i => decide (daysBeforeMonth year (i + 1) ≤ dayOfYear)).length
  ⟨year, month, dayOfYear - daysBeforeMonth year month + 1⟩

/-- The days of the years 1 to 9999. -/
def dayCount : Nat := daysInYears 9999

end Date

end StreamWatch
