import StreamWatch.Fault
import StreamWatch.Number.Basic

namespace StreamWatch

/-! # Lengths of time

A length of time is a count of microseconds. One that is built from a setting may not
exceed 999999999 days either way:

* `Duration.checked`: refuses a length of too many days;
* `Duration.ofHours`, `Duration.ofSeconds`: the length of a setting;
* `Duration.milliseconds`: whole milliseconds, rounded down.
-/

/-- A length of time in microseconds. -/
abbrev Duration := Int

namespace Duration

/-- The microseconds of a millisecond. -/
def millisecond : Duration := 1000

/-- The microseconds of a second. -/
def second : Duration := 1000000

/-- The microseconds of a minute. -/
def minute : Duration := 60 * second

/-- The microseconds of an hour. -/
def hour : Duration := 3600 * second

/-- The microseconds of a day. -/
def day : Duration := 86400 * second

/-- Whole milliseconds, rounded down. -/
def milliseconds (length : Duration) : Int := length / millisecond

/-- Refuses a length whose days, rounded down, exceed 999999999 either way. -/
def checked (length : Duration) : Except Fault Duration :=
  let days := length / day
  if days < -(twoPow 31 : Int) ∨ (twoPow 31 : Int) ≤ days then .error .dayCountTooLarge
  else if 999999999 < days.natAbs then .error (.dayCount days)
  else .ok length

/-- The length of a number of hours. -/
def ofHours (hours : Int) : Except Fault Duration := checked (hours * hour)

/-- The integer nearest to a double, a half going to the even neighbour; zero for what
    is not finite. -/
def nearestInteger (x : Float) : Int :=
  match ExactValue.ofFloat x with
  | .finite m e => m.sign * roundHalfEven (m.natAbs * twoPow e.toNat) (twoPow (-e).toNat)
  | _ => 0

/-- The microseconds of `num / den` seconds: those of the whole seconds, and the nearest
    ones to what is left over, which is first rounded to a double. -/
def microseconds (num : Int) (den : Nat) : Int :=
  let whole := num.tdiv den
  let rest := (quotient? (num.tmod den * second) den).getD 0.0
  whole * second + nearestInteger rest

/-- The length of a number of seconds, to the nearest microsecond. -/
def ofSeconds : Number → Except Fault Duration
  | .int n => checked (n * second)
  | .real x =>
    match ExactValue.ofFloat x with
    | .nan => .error .undefinedLength
    | .infinite _ => .error .infiniteLength
    | .finite m e => checked (microseconds (m * twoPow e.toNat) (twoPow (-e).toNat))

/-- A length divided by a unit, as the nearest double. -/
def dividedBy (length unit : Duration) : Float := (quotient? length unit).getD 0.0

/-- The whole units in a length, by its quotient with the unit rounded to a double first. -/
def wholeUnits (length unit : Duration) : Int :=
  ((ExactValue.ofFloat (dividedBy length unit)).floor?).getD 0

end Duration

end StreamWatch
