import StreamWatch.Number.Rounding
import StreamWatch.Text.Blank
import StreamWatch.Text.Fields
import StreamWatch.Validation.Basic

namespace StreamWatch.Validation

/-! # Numbers written as texts

* `integer`: an integer in decimal, possibly with a sign, with zeros in front, with a
  fraction of zeros and with single underscores between its digits;
* `double?`: a decimal with or without a point and an exponent, or the name of what is not
  finite.
-/

open Text

/-- Removes underscores that stand singly inside a text; none if one stands otherwise. -/
def withoutUnderscores? (cs : List Char) : Option (List Char) :=
  if (fields '_' cs).any List.isEmpty then none else some (cs.filter (· != '_'))

/-- Drops the zeros in front of a number, but keeps the last digit before a point or the
    end. Underscores between the zeros go with them. A minus sign may follow the zeros. -/
def withoutLeadingZeros? : List Char → Option (List Char)
  | '0' :: rest =>
    let after := rest.dropWhile fun c => c == '0' || c == '_'
    let last := (rest.take (rest.length - after.length)).getLast?.getD '0'
    match after with
    | [] => some [last]
    | '.' :: _ => some (last :: after)
    | c :: _ => if c.isDigit || c == '-' then some after else none
  | c :: rest => if c.isDigit then some (c :: rest) else none
  | [] => none

/-- Drops a point and the zeros that end a number, of which there has to be one. -/
def withoutZeroFraction (cs : List Char) : List Char :=
  match cs.dropWhile (· != '.') with
  | '.' :: zeros =>
    if !zeros.isEmpty && zeros.all (· == '0') then cs.takeWhile (· != '.') else cs
  | _ => cs

/-- The digits of a written integer, with nothing else but a minus sign that zeros stood
    before. -/
def bareDigits? (cs : List Char) : Option (List Char) := do
  let cs := withoutZeroFraction (← withoutLeadingZeros? cs)
  return (withoutUnderscores? cs).getD cs

/-- Reads digits, of which there may not be too many, and which do not begin with a zero. -/
def natural? (cs : List Char) : Option Nat :=
  if maxIntegerLength < cs.length then none
  else
    match cs with
    | '0' :: _ :: _ => none
    | _ => decimal? cs

/-- Reads an integer whose sign has been taken off. A minus sign may stand behind zeros. -/
def unsignedInteger? (cs : List Char) : Option Int := do
  match ← bareDigits? cs with
  | '-' :: digits => (natural? digits).map fun n => -(n : Int)
  | digits => (natural? digits).map fun n => (n : Int)

/-- Reads an integer between blanks. There is one minus sign at most. -/
def signedInteger? (cs : List Char) : Option Int :=
  match trim isBlank cs with
  | '+' :: rest => unsignedInteger? rest
  | '-' :: rest => do
    let digits ← bareDigits? rest
    (natural? digits).map fun n => -(n : Int)
  | rest => unsignedInteger? rest

/-- Does a text begin with too many digits, as the digits of an integer are counted, which begin
    with no zero? -/
def beginsTooLong (cs : List Char) : Bool :=
  let digits := (if cs.head? = some '-' then cs.drop 1 else cs).takeWhile Char.isDigit
  digits.head? != some '0' && decide (maxIntegerLength < digits.length)

/-- Reads an integer. Of one that is too long this is only said where its digits are the first
    thing that is written. -/
def integer (cs : List Char) : Checked Int :=
  if beginsTooLong cs then .issue .intParsingSize
  else
    match signedInteger? cs with
    | some n => .accepted n
    | none => .issue .intParsing

/-! ### Doubles -/

/-- Reads decimal digits after an optional minus sign. -/
def signedDecimal? : List Char → Option Int
  | '-' :: rest => (decimal? rest).map fun n => -(n : Int)
  | cs => (decimal? cs).map fun n => (n : Int)

/-- Is a text one of some words, whatever the case of its ASCII letters? -/
def isWord (words : List String) (cs : List Char) : Bool :=
  words.contains (String.ofList (cs.map Char.toLower))

/-- Reads the exponent that may follow the digits of a decimal. -/
def exponent? : List Char → Option Int
  | [] => some 0
  | c :: rest =>
    if c == 'e' || c == 'E' then
      match rest with
      | '+' :: digits => (decimal? digits).map fun n => (n : Int)
      | _ => signedDecimal? rest
    else none

/-- Reads a decimal without a sign. -/
def unsignedDouble? (cs : List Char) : Option Float :=
  if isWord ["inf", "infinity"] cs then some positiveInfinity
  else if isWord ["nan"] cs then some (0.0 / 0.0)
  else do
    let whole := cs.takeWhile Char.isDigit
    let afterWhole := cs.dropWhile Char.isDigit
    let afterPoint := if afterWhole.head? = some '.' then afterWhole.drop 1 else afterWhole
    let fraction :=
      if afterWhole.head? = some '.' then afterPoint.takeWhile Char.isDigit else []
    let exponent ← exponent? (afterPoint.drop fraction.length)
    if whole.isEmpty && fraction.isEmpty then none
    else some (ofDecimal (digitsValue (whole ++ fraction)) (exponent - fraction.length))

/-- Reads a decimal with an optional sign. -/
def signedDouble? : List Char → Option Float
  | '-' :: rest => (unsignedDouble? rest).map fun x => -x
  | '+' :: rest => unsignedDouble? rest
  | cs => unsignedDouble? cs

/-- Reads a decimal between blanks, or one with single underscores inside. -/
def double? (cs : List Char) : Option Float :=
  (signedDouble? (trim isBlank cs)).or (withoutUnderscores? cs >>= signedDouble?)

end StreamWatch.Validation
