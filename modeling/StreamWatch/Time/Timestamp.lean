import StreamWatch.Time.Calendar
import StreamWatch.Time.Duration

namespace StreamWatch

/-! # Timestamps

A timestamp is an instant, with the offset from universal time that it was written with, a
fixed number of minutes. One without an offset stands for universal time, but that is only
settled when it is made a moment, which always has an offset. The local date of a timestamp
lies in the years 1 to 9999:

* `Timestamp.since`, `Timestamp.isBefore`: the length of time between two timestamps and their
  order. There is none between a timestamp with an offset and one without;
* `Timestamp.assumeUniversal`: the moment that a timestamp stands for;
* `Moment.universal`: the moment of an instant in universal time;
* `Moment.since`, `Moment.isBefore`: the same for moments, between which there always are a
  length and an order, whatever their offsets;
* `Moment.shift`: a moment some time later, with the same offset.
-/

/-- An instant in microseconds from the start of the year 1 in universal time, and an
    offset in minutes east of it, none when it is not given. -/
structure Timestamp where
  instant : Int
  offset : Option Int
  deriving Repr, DecidableEq

/-- A timestamp with an offset. -/
structure Moment extends Timestamp where
  placed : toTimestamp.offset.isSome = true
  deriving Repr, DecidableEq

instance : Coe Moment Timestamp := ⟨Moment.toTimestamp⟩

namespace Timestamp

/-- The microseconds from the start of the year 1 on the clock that the offset names. -/
def localClock (t : Timestamp) : Int := t.instant + t.offset.getD 0 * Duration.minute

/-- The timestamp that a clock with an offset shows. -/
def ofLocalClock (clock : Int) (offset : Option Int) : Timestamp :=
  ⟨clock - offset.getD 0 * Duration.minute, offset⟩

/-- Does a clock show a date of the years 1 to 9999? -/
def clockInRange (clock : Int) : Bool :=
  decide (0 ≤ clock ∧ clock < Date.dayCount * Duration.day)

/-- Can a timestamp be shown? Its own clock is in the years 1 to 9999, and the offset is less
    than a day. -/
structure Shown (t : Timestamp) : Prop where
  clock : clockInRange t.localClock = true
  offset : (t.offset.getD 0).natAbs < 1440

instance (t : Timestamp) : Decidable t.Shown :=
  decidable_of_iff (clockInRange t.localClock = true ∧ (t.offset.getD 0).natAbs < 1440)
    ⟨fun h => ⟨h.1, h.2⟩, fun h => ⟨h.clock, h.offset⟩⟩

/-- The same instant, in universal time when no offset is given. -/
def assumeUniversal (t : Timestamp) : Moment := ⟨⟨t.instant, some (t.offset.getD 0)⟩, rfl⟩

/-- The length of time from `start` to `t`. Both have an offset, or none has. -/
def since (t start : Timestamp) : Except Fault Duration :=
  if t.offset.isSome = start.offset.isSome then .ok (t.instant - start.instant)
  else .error (.misuse (.mixedOffsets "subtract"))

/-- Is `t` an earlier instant than `u`? Both have an offset, or none has. -/
def isBefore (t u : Timestamp) : Except Fault Bool :=
  if t.offset.isSome = u.offset.isSome then .ok (decide (t.instant < u.instant))
  else .error (.misuse (.mixedOffsets "compare"))

/-- The start of the year 1970, from which counts of seconds are taken. -/
def unixStart : Int := 719162 * Duration.day

/-- The timestamp of a count of microseconds from the start of 1970, in universal time; it
    has to lie in the calendar. -/
def ofUnixMicroseconds? (length : Int) : Option Timestamp :=
  if clockInRange (unixStart + length) then some ⟨unixStart + length, some 0⟩ else none

/-- The greatest count that is one of seconds; above it, either way, counts are of
    milliseconds. -/
def unixSecondsLimit : Int := 20000000000

/-- The microseconds of the unit that a count from the start of 1970 is in. -/
def unixUnit (count : Number) : Duration :=
  if count.atMost (.int unixSecondsLimit) && (Number.int (-unixSecondsLimit)).atMost count then
    Duration.second
  else Duration.millisecond

/-- The microseconds of the fraction `num / den` of a unit. The fraction and its product with
    the unit are doubles; a half goes up. -/
def fractionMicroseconds (unit num den : Nat) : Int :=
  let (num, den) := Number.nearestQuotient num den
  let (num, den) := Number.nearestQuotient (num * unit) den
  (2 * num + den) / (2 * den)

/-- The timestamp of a number of seconds from the start of 1970, or of milliseconds where the
    number is too great. A double is split into its floor and what is above it. -/
def ofUnix? (count : Number) : Option Timestamp :=
  let unit := unixUnit count
  match count with
  | .int n => ofUnixMicroseconds? (n * unit)
  | .real x =>
    match ExactValue.ofFloat x with
    | .finite m e =>
      let num := m * twoPow e.toNat
      let den : Int := twoPow (-e).toNat
      ofUnixMicroseconds?
        (num / den * unit + fractionMicroseconds unit.toNat (num % den).toNat den.toNat)
    | _ => none

end Timestamp

/-! ### Moments -/

namespace Moment

/-- The moment of an instant in universal time. -/
def universal (instant : Int) : Moment := ⟨⟨instant, some 0⟩, rfl⟩


/-- The length of time from `start` to `t`. -/
def since (t start : Moment) : Duration := t.instant - start.instant

/-- The whole milliseconds from `start` to `t`, rounded down. -/
def millisecondsSince (t start : Moment) : Int := (t.since start).milliseconds

/-- Is `t` an earlier instant than `u`? -/
def isBefore (t u : Moment) : Bool := decide (t.instant < u.instant)

/-- The moment a length of time later; its own clock has to stay in the calendar. -/
def shift (t : Moment) (length : Duration) : Except Fault Moment :=
  if Timestamp.clockInRange (t.localClock + length) then
    .ok ⟨⟨t.instant + length, t.offset⟩, t.placed⟩
  else .error .dateOutOfRange

/-- A moment stands for itself. -/
@[simp] theorem assumeUniversal_toTimestamp (t : Moment) : t.toTimestamp.assumeUniversal = t := by
  obtain ⟨⟨instant, offset⟩, placed⟩ := t
  obtain ⟨minutes, rfl⟩ := Option.isSome_iff_exists.mp placed
  rfl

/-- Moments that may be missing stand for themselves. -/
@[simp] theorem map_assumeUniversal_toTimestamp (t : Option Moment) :
    (t.map Moment.toTimestamp).map Timestamp.assumeUniversal = t := by
  cases t with
  | none => rfl
  | some t => exact congrArg some t.assumeUniversal_toTimestamp

/-- Between moments there always is a length of time. -/
@[simp] theorem since_toTimestamp (t start : Moment) :
    t.toTimestamp.since start.toTimestamp = .ok (t.since start) :=
  if_pos (t.placed.trans start.placed.symm)

/-- Between moments there always is an order. -/
@[simp] theorem isBefore_toTimestamp (t u : Moment) :
    t.toTimestamp.isBefore u.toTimestamp = .ok (t.isBefore u) :=
  if_pos (t.placed.trans u.placed.symm)

/-- The clock of a moment in universal time shows its instant. -/
@[simp] theorem localClock_universal (instant : Int) :
    (universal instant).localClock = instant := by
  show instant + 0 * Duration.minute = instant
  rw [Int.zero_mul, Int.add_zero]

/-- Moments in universal time are in the order of their instants. -/
@[simp] theorem isBefore_universal (t u : Int) :
    (universal t).isBefore (universal u) = decide (t < u) := rfl

end Moment

end StreamWatch
