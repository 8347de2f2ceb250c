import StreamWatch.Misuse
import StreamWatch.Text.Quoted

namespace StreamWatch

/-! # Faults of the log

Everything that can go wrong with a line of the log, one constructor per cause.
`LogFault.message` is the only place where a cause is put into words. -/

/-- Why an event cannot be logged. -/
inductive LogFault where
  /-- The name of a level that is the text of something else. -/
  | unknownLevel (name : String)
  /-- The name of a level that stands for something which is no text. -/
  | unusableLevel (shown : String)
  /-- A source without a name. -/
  | unnamedSource
  /-- A field with the name of a parameter of the method that logs. -/
  | parameterTwice (method parameter : String)
  /-- A datum of a kind that cannot be used. -/
  | misuse (cause : Misuse)
  /-- A key that nothing stands under. -/
  | unknownKey (key : String)
  /-- A position that a record has nothing at. -/
  | unknownPosition (position : Nat)
  /-- A template with more directives than arguments. -/
  | tooFewArguments
  /-- A template with fewer directives than arguments. -/
  | tooManyArguments
  /-- A key where there is no record. -/
  | recordExpected
  /-- A key whose parenthesis is not closed. -/
  | unclosedKey
  /-- A star that stands for something other than an integer. -/
  | integerExpected
  /-- A width or a precision out of range, written in a template. -/
  | tooWide
  | tooPrecise
  /-- A width or a precision out of range, given as an argument. -/
  | widthOutOfRange
  | precisionOutOfRange
  /-- A template that ends inside a directive. -/
  | unfinishedDirective
  /-- A directive that ends in a letter without a meaning. -/
  | unknownLetter (letter : Char) (index : Nat)
  /-- Something other than a number, for a directive of integers. -/
  | numberExpected (letter : Char) (kind : String)
  /-- Something other than an integer, for a directive of integers to some base. -/
  | wholeNumberExpected (letter : Char) (kind : String)
  /-- An infinite integer. -/
  | infiniteInteger
  /-- An integer that is not a number. -/
  | undefinedInteger
  /-- An integer that no double comes near to. -/
  | integerTooLarge
  /-- Something other than a character or its code point. -/
  | characterExpected
  /-- A code point that there is no character for. -/
  | characterOutOfRange
  deriving Repr, DecidableEq

namespace LogFault

/-- A letter in a message: one outside printable ASCII is not shown. -/
def shownLetter (letter : Char) : Char :=
  if 31 ≤ letter.toNat ∧ letter.toNat ≤ 126 then letter else '?'

/-- The wording of a fault. -/
def message : LogFault → String
  | unknownLevel name => "Unknown level: " ++ Text.quoted name
  | unusableLevel shown => "Level not an integer or a valid string: " ++ shown
  | unnamedSource => "A logger name must be a string"
  | parameterTwice method parameter =>
    "BoundLogger." ++ method ++ "() got multiple values for argument '" ++ parameter ++ "'"
  | misuse cause => cause.message
  | unknownKey key => Text.quoted key
  | unknownPosition position => toString position
  | tooFewArguments => "not enough arguments for format string"
  | tooManyArguments => "not all arguments converted during string formatting"
  | recordExpected => "format requires a mapping"
  | unclosedKey => "incomplete format key"
  | integerExpected => "* wants int"
  | tooWide => "width too big"
  | tooPrecise => "precision too big"
  | widthOutOfRange => "Python int too large to convert to C ssize_t"
  | precisionOutOfRange => "Python int too large to convert to C int"
  | unfinishedDirective => "incomplete format"
  | unknownLetter letter index =>
    "unsupported format character '" ++ String.singleton (shownLetter letter) ++ "' (0x" ++
      String.ofList (Nat.toDigits 16 letter.toNat) ++ ") at index " ++ toString index
  | numberExpected letter kind =>
    "%" ++ String.singleton letter ++ " format: a real number is required, not " ++ kind
  | wholeNumberExpected letter kind =>
    "%" ++ String.singleton letter ++ " format: an integer is required, not " ++ kind
  | infiniteInteger => "cannot convert float infinity to integer"
  | undefinedInteger => "cannot convert float NaN to integer"
  | integerTooLarge => "int too large to convert to float"
  | characterExpected => "%c requires int or char"
  | characterOutOfRange => "%c arg not in range(0x110000)"

end LogFault

end StreamWatch
