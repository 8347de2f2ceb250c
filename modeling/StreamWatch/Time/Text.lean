import StreamWatch.Text.Fields
import StreamWatch.Time.Timestamp
import StreamWatch.Number.Notation

namespace StreamWatch.Timestamp

/-! # The written form of timestamps

* `text`: a date, a `T`, a time of day, six digits of microseconds unless they are zero,
  and the offset;
* `fullText`: the same with six digits of microseconds in any case;
* `read?`: reads such a text, with some freedom: the separator may also be a blank, the
  seconds and the offset may be missing, and so may the whole time of day.
-/

/-- A number in decimal with at least `width` digits. -/
def padded (width n : Nat) : List Char := padZeros width (decimalDigits n)

/-- The written form of an offset in minutes. -/
def offsetText (minutes : Int) : List Char :=
  (if minutes < 0 then '-' else '+') ::
    (padded 2 (minutes.natAbs / 60) ++ ':' :: padded 2 (minutes.natAbs % 60))

/-- The written form of a fraction of a second, which is left out if it is zero. -/
def briefFraction (micros : Nat) : List Char :=
  if micros = 0 then [] else '.' :: padded 6 micros

/-- The written form of a fraction of a second, always with its six digits. -/
def fullFraction (micros : Nat) : List Char := '.' :: padded 6 micros

/-- The characters of the written form of a timestamp, with that of the fraction of a second. -/
def charsWith (fraction : Nat → List Char) (t : Timestamp) : List Char :=
  let clock := t.localClock.toNat
  let micros := clock % 1000000
  let seconds := clock / 1000000
  let d := Date.ofDayNumber (seconds / 86400)
  let ofDay := seconds % 86400
  padded 4 d.year ++ '-' :: padded 2 d.month ++ '-' :: padded 2 d.day ++
    'T' :: padded 2 (ofDay / 3600) ++ ':' :: padded 2 (ofDay / 60 % 60) ++
    ':' :: padded 2 (ofDay % 60) ++ fraction micros ++
    (match t.offset with
      | some minutes => offsetText minutes
      | none => [])

/-- The written form of a timestamp. -/
def text (t : Timestamp) : String := String.ofList (t.charsWith briefFraction)

/-- Reads a number of exactly `width` digits. -/
def number? (width : Nat) (cs : List Char) : Option (Nat × List Char) := do
  let digits := cs.take width
  if digits.length = width then return (← Text.decimal? digits, cs.drop width) else none

/-- Reads one of the given characters. -/
def mark? (marks : List Char) : List Char → Option (List Char)
  | [] => none
  | c :: rest => if marks.contains c then some rest else none

/-- Reads a date that exists. -/
def date? (cs : List Char) : Option (Date × List Char) := do
  let (year, cs) ← number? 4 cs
  let (month, cs) ← number? 2 (← mark? ['-'] cs)
  let (day, cs) ← number? 2 (← mark? ['-'] cs)
  let date : Date := ⟨year, month, day⟩
  if date.isValid then some (date, cs) else none

/-- Reads the fraction of a second, of which six digits count, in microseconds. -/
def fraction? (cs : List Char) : Option (Nat × List Char) :=
  match mark? ['.', ','] cs with
  | none => some (0, cs)
  | some rest => do
    let digits := rest.takeWhile Char.isDigit
    let micros ← Text.decimal? digits
    let scaled :=
      if digits.length ≤ 6 then micros * tenPow (6 - digits.length)
      else micros / tenPow (digits.length - 6)
    return (scaled, rest.dropWhile Char.isDigit)

/-- Reads the seconds and their fraction, if there are any, in microseconds. -/
def seconds? (cs : List Char) : Option (Nat × List Char) :=
  match mark? [':'] cs with
  | none => some (0, cs)
  | some rest => do
    let (seconds, rest) ← number? 2 rest
    let (micros, rest) ← fraction? rest
    if seconds ≤ 59 then some (seconds * 1000000 + micros, rest) else none

/-- Reads a time of day, in microseconds from midnight. -/
def timeOfDay? (cs : List Char) : Option (Nat × List Char) := do
  let (hours, cs) ← number? 2 cs
  let (minutes, cs) ← number? 2 (← mark? [':'] cs)
  let (micros, cs) ← seconds? cs
  if hours ≤ 23 ∧ minutes ≤ 59 then
    some ((hours * 3600 + minutes * 60) * 1000000 + micros, cs)
  else none

/-- Reads the hours and minutes of an offset; the colon may be missing. -/
def offsetMinutes? (cs : List Char) : Option Int := do
  let (hours, cs) ← number? 2 cs
  let (minutes, cs) ← number? 2 ((mark? [':'] cs).getD cs)
  if cs.isEmpty ∧ hours ≤ 23 ∧ minutes ≤ 59 then some ((hours * 60 + minutes : Nat) : Int)
  else none

/-- Reads an offset up to the end of the text, or the end itself. -/
def offset? : List Char → Option (Option Int)
  | [] => some none
  | ['Z'] | ['z'] => some (some 0)
  | '+' :: rest => (offsetMinutes? rest).map some
  | '-' :: rest | '\u2212' :: rest => (offsetMinutes? rest).map fun minutes => some (-minutes)
  | _ => none

/-- Reads the written form of a timestamp. -/
def read? (cs : List Char) : Option Timestamp := do
  let (date, cs) ← date? cs
  let midnight : Int := date.dayNumber * Duration.day
  if cs.isEmpty then some (ofLocalClock midnight none)
  else
    let (micros, cs) ← timeOfDay? (← mark? ['T', 't', ' ', '_'] cs)
    let offset ← offset? cs
    return ofLocalClock (midnight + micros) offset

end StreamWatch.Timestamp
