import StreamWatch.Time.Text
import StreamWatch.Validation.Basic
import StreamWatch.Validation.Numeral

namespace StreamWatch.Validation

/-! # Reading single values

A value of a neighbouring kind is accepted where it can only mean one thing: a truth value
or a text for a number, a number or a word for a truth value, a number of seconds for a
timestamp. -/

/-- Reads a text. -/
def text : Read String
  | .text s => .accepted s
  | _ => .issue .stringType

/-- Reads a text of at least `least` and at most `most` characters. -/
def textOfLength (least most : Nat) (d : Given) : Checked String :=
  (text d).andThen fun s =>
    if most < s.length then .issue .stringTooLong
    else if s.length < least then .issue .stringTooShort
    else .accepted s

/-- Does an integer fit 64 bits with a sign? -/
def fitsWord (n : Int) : Bool := decide (-(twoPow 63 : Int) ≤ n ∧ n < twoPow 63)

/-- The integer that a double is; it has to be one and to lie between the ends of 64 bits. -/
def wholeNumber (x : Float) : Checked Int :=
  match (ExactValue.ofFloat x).floor? with
  | none => .issue .finiteNumber
  | some n =>
    if !(Number.int n).equals (.real x) then .issue .intFromFloat
    else if decide (n.natAbs < twoPow 63) then .accepted n
    else .issue .intParsingSize

/-- Reads an integer. -/
def int : Read Int
  | .int n => .accepted n
  | .bool b => .accepted (if b then 1 else 0)
  | .real x => wholeNumber x
  | .text s => integer s.toList
  | _ => .issue .intType

/-- Reads a double. An integer that no double comes near to is none. -/
def float : Read Float
  | .real x => .accepted x
  | .int n =>
    match quotient? n 1 with
    | some x => .accepted x
    | none => .issue .floatType
  | .bool b => .accepted (if b then 1.0 else 0.0)
  | .text s =>
    match double? s.toList with
    | some x => .accepted x
    | none => .issue .floatParsing
  | _ => .issue .floatType

/-- The words for yes. -/
def yesWords : List String := ["1", "t", "true", "y", "yes", "on"]

/-- The words for no. -/
def noWords : List String := ["0", "f", "false", "n", "no", "off"]

/-- The truth value that an integer stands for. -/
def integerAsBool (n : Int) : Checked Bool :=
  if n = 0 then .accepted false
  else if n = 1 then .accepted true
  else .issue .boolParsing

/-- Reads a truth value. A number that is no integer of 64 bits does not even look like one. -/
def bool : Read Bool
  | .bool b => .accepted b
  | .int n => if fitsWord n then integerAsBool n else .issue .boolType
  | .real x =>
    match wholeNumber x with
    | .accepted n => integerAsBool n
    | .refused _ => .issue .boolType
  | .text s =>
    if isWord yesWords s.toList then .accepted true
    else if isWord noWords s.toList then .accepted false
    else .issue .boolParsing
  | _ => .issue .boolType

/-! ### Bounds -/

/-- Reads an integer above a bound. -/
def intAbove (bound : Int) (d : Given) : Checked Int :=
  (int d).andThen (Checked.guarded (fun n => decide (bound < n)) .greaterThan)

/-- Reads an integer that is not below a bound. -/
def intFrom (bound : Int) (d : Given) : Checked Int :=
  (int d).andThen (Checked.guarded (fun n => decide (bound ≤ n)) .greaterThanEqual)

/-- Reads an integer of a closed interval. -/
def intBetween (low high : Int) (d : Given) : Checked Int :=
  ((int d).andThen (Checked.guarded (fun n => decide (n ≤ high)) .lessThanEqual)).andThen
    (Checked.guarded (fun n => decide (low ≤ n)) .greaterThanEqual)

/-- Reads a double from 0 to 1. -/
def unitFloat (d : Given) : Checked Float :=
  ((float d).andThen
      (Checked.guarded (fun x => (Number.real x).atMost (.int 1)) .lessThanEqual)).andThen
    (Checked.guarded (fun x => (Number.int 0).atMost (.real x)) .greaterThanEqual)

/-! ### Timestamps -/

/-- The number that a text writes: an integer, or a double whose digits are followed by a
    point, whatever comes after it. -/
def numberText? (cs : List Char) : Option Number :=
  let unsigned := if cs.head? = some '-' ∨ cs.head? = some '+' then cs.drop 1 else cs
  match unsigned.dropWhile Char.isDigit with
  | [] => (signedDecimal? (if cs.head? = some '+' then unsigned else cs)).map .int
  | '.' :: _ => (signedDouble? cs).map .real
  | _ => none

/-- Reads a timestamp, which may stand as such if it can be shown. A number counts seconds or
    milliseconds from the start of 1970; an integer that no double comes near to is none. -/
def timestamp : Read Timestamp
  | .time t => if t.Shown then .accepted t else .issue .timestampType
  | .text s =>
    match Timestamp.read? s.toList with
    | some t => .accepted t
    | none =>
      match numberText? s.toList with
      | some n =>
        match Timestamp.ofUnix? n with
        | some t => .accepted t
        | none => .issue .timestampOrDateParsing
      | none => .issue .timestampOrDateParsing
  | .int n =>
    match Timestamp.ofUnix? (.int n) with
    | some t => .accepted t
    | none => .issue (if (quotient? n 1).isSome then .timestampParsing else .timestampType)
  | .real x =>
    match Timestamp.ofUnix? (.real x) with
    | some t => .accepted t
    | none => .issue .timestampParsing
  | _ => .issue .timestampType

/-- Reads a moment: a timestamp, in universal time when it has no offset. -/
def moment (d : Given) : Checked Moment := Timestamp.assumeUniversal <$> timestamp d

/-! ### Choices -/

/-- Reads the name of one of some values. -/
def oneOf {α : Type} (kind : IssueKind) (name : α → String) (values : List α) : Read α
  | .text s =>
    match values.find? fun v => name v == s with
    | some v => .accepted v
    | none => .issue kind
  | _ => .issue kind

end StreamWatch.Validation
