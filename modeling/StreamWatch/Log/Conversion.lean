import StreamWatch.Datum
import StreamWatch.Log.Fault

namespace StreamWatch.Log

/-! # Writing arguments

How an argument is written into a template, once its width and its precision are known:

* `Conversion`: the ways to write an argument, by their letters;
* `Numeral`: the parts of a written number;
* `Manner`: everything that a directive says about an argument;
* `Manner.write`: the text of an argument.
-/

/-- How a real number is written. -/
inductive RealForm where
  | fixed | power | general
  deriving Repr, DecidableEq

/-- How an argument is written: as a text, as a text in quotes and in ASCII alone where that is
    asked for, as an integer, as a real number, or as a character. -/
inductive Conversion where
  | shown
  | quoted (inAscii : Bool)
  | decimal
  | hexadecimal
  | octal
  | real (form : RealForm)
  | character
  deriving Repr, DecidableEq

/-- The conversion of a letter. -/
def Conversion.ofLetter? : Char → Option Conversion
  | 's' => some .shown
  | 'r' => some (.quoted false)
  | 'a' => some (.quoted true)
  | 'd' | 'i' | 'u' => some .decimal
  | 'x' | 'X' => some .hexadecimal
  | 'o' => some .octal
  | 'f' | 'F' => some (.real .fixed)
  | 'e' | 'E' => some (.real .power)
  | 'g' | 'G' => some (.real .general)
  | 'c' => some .character
  | _ => none

/-- The parts of a written number. -/
structure Numeral where
  isNegative : Bool
  /-- The mark of the base. -/
  mark : List Char
  digits : List Char

/-- A numeral in capital letters. -/
def Numeral.capitals (n : Numeral) : Numeral :=
  { n with mark := n.mark.map Char.toUpper, digits := n.digits.map Char.toUpper }

/-- What a directive says about its argument. -/
structure Manner where
  letter : Char
  flags : List Char
  /-- Does the argument stand on the left of its room? -/
  onLeft : Bool
  width : Nat
  precision : Option Nat

namespace Manner

/-- Is a flag set? -/
def hasFlag (m : Manner) (flag : Char) : Bool := m.flags.contains flag

/-! ### Filling up to the width -/

/-- A text, filled up with blanks. -/
def layText (m : Manner) (text : List Char) : List Char :=
  let blanks := List.replicate (m.width - text.length) ' '
  if m.onLeft then text ++ blanks else blanks ++ text

/-- The sign of a numeral. -/
def sign (m : Manner) (n : Numeral) : List Char :=
  if n.isNegative then ['-']
  else if m.hasFlag '+' then ['+']
  else if m.hasFlag ' ' then [' ']
  else []

/-- A numeral, filled up with blanks, or with zeros behind its sign and its mark. -/
def layNumeral (m : Manner) (n : Numeral) : List Char :=
  let front := m.sign n ++ n.mark
  if m.hasFlag '0' && !m.onLeft then
    let zeros := m.width - (front.length + n.digits.length)
    front ++ List.replicate zeros '0' ++ n.digits
  else m.layText (front ++ n.digits)

/-- A numeral, in capital letters if the letter is one. -/
def layCased (m : Manner) (n : Numeral) : List Char :=
  m.layNumeral (if m.letter.isUpper then n.capitals else n)

/-! ### Texts -/

/-- The start of a text, as long as the precision lets it be. -/
def cut (m : Manner) (text : List Char) : List Char :=
  match m.precision with
  | some most => text.take most
  | none => text

/-- A character in ASCII: any other one is written by its code point. -/
def inAscii (c : Char) : List Char := if c.toNat < 0x80 then [c] else Text.codePointEscape c

/-! ### Integers -/

/-- An integer to a base, with at least as many digits as the precision says. -/
def integerNumeral (m : Manner) (base : Nat) (mark : List Char) (n : Int) : Numeral where
  isNegative := decide (n < 0)
  mark := if m.hasFlag '#' then mark else []
  digits := padZeros (m.precision.getD 0) (Nat.toDigits base n.natAbs)

/-- The integer that an argument is without its fraction. -/
def truncated (m : Manner) (argument : Datum) : Except LogFault Int :=
  match argument.count? with
  | some (.int n) => .ok n
  | some (.real x) =>
    match ExactValue.ofFloat x with
    | .nan => .error .undefinedInteger
    | .infinite _ => .error .infiniteInteger
    | .finite mantissa exponent =>
      .ok ((mantissa * twoPow exponent.toNat).tdiv (twoPow (-exponent).toNat))
  | none => .error (.numberExpected m.letter argument.kindName)

/-- The integer that an argument is. -/
def integer (m : Manner) (argument : Datum) : Except LogFault Int :=
  match argument.count? with
  | some (.int n) => .ok n
  | _ => .error (.wholeNumberExpected m.letter argument.kindName)

/-! ### Real numbers -/

/-- The number of places or digits where nothing else is said. -/
def standardPrecision : Nat := 6

/-- The digits of the magnitude of a finite double. -/
def realDigits (m : Manner) (form : RealForm) (num den : Nat) : List Char :=
  let precision := m.precision.getD standardPrecision
  match form with
  | .fixed => fixedDigits (m.hasFlag '#') precision num den
  | .power => powerDigits (m.hasFlag '#') precision num den
  | .general => generalDigits (m.hasFlag '#') (max precision 1) num den

/-- A double. -/
def realNumeral (m : Manner) (form : RealForm) (x : Float) : Numeral :=
  match ExactValue.ofFloat x with
  | .nan => ⟨false, [], ['n', 'a', 'n']⟩
  | .infinite negative => ⟨negative, [], ['i', 'n', 'f']⟩
  | .finite m' e' =>
    let (num, den) := (ExactValue.finite m' e').magnitude
    ⟨signBit x, [], m.realDigits form num den⟩

/-- The double that an argument is. -/
def realNumber (argument : Datum) : Except LogFault Float :=
  match argument.count? with
  | some n =>
    match n.nearest? with
    | some x => .ok x
    | none => .error .integerTooLarge
  | none => .error (.misuse (.notReal argument.kindName))

/-! ### Characters -/

/-- The character that an argument is or has the code point of. -/
def characterOf (argument : Datum) : Except LogFault Char :=
  match argument, argument.count? with
  | .text s, _ =>
    match s.toList with
    | [c] => .ok c
    | _ => .error .characterExpected
  | _, some (.int n) =>
    if 0 ≤ n ∧ n < 0x110000 then .ok (Char.ofNat n.toNat) else .error .characterOutOfRange
  | _, _ => .error .characterExpected

/-! ### Arguments -/

/-- The text of an argument. -/
def write (m : Manner) (argument : Datum) : Conversion → Except LogFault (List Char)
  | .shown => .ok (m.layText (m.cut argument.display.toList))
  | .quoted false => .ok (m.layText (m.cut argument.displayInner.toList))
  | .quoted true => .ok (m.layText (m.cut (argument.displayInner.toList.flatMap inAscii)))
  | .decimal => (m.truncated argument).map fun n => m.layNumeral (m.integerNumeral 10 [] n)
  | .hexadecimal =>
    (m.integer argument).map fun n => m.layCased (m.integerNumeral 16 ['0', 'x'] n)
  | .octal => (m.integer argument).map fun n => m.layNumeral (m.integerNumeral 8 ['0', 'o'] n)
  | .real form => (realNumber argument).map fun x => m.layCased (m.realNumeral form x)
  | .character => (characterOf argument).map fun c => m.layText [c]

end Manner

end StreamWatch.Log
