import StreamWatch.Misuse
import StreamWatch.Number.Basic
import StreamWatch.Text.Quoted

namespace StreamWatch

/-! # Faults

Everything that can stop a calculation, one constructor per cause. `Fault.message` is
the only place where a cause is put into words. -/

/-- Why a calculation has no result. -/
inductive Fault where
  /-- A playback state with an unknown name. -/
  | unknownState (name : String)
  /-- A field that no evaluator is registered for. -/
  | unknownField (name : String)
  /-- A datum of a kind that cannot be used. -/
  | misuse (cause : Misuse)
  /-- A function of a double outside its domain. -/
  | outsideDomain
  /-- A length of time of a day count that dates do not allow. -/
  | dayCount (days : Int)
  /-- A length of time whose day count does not even fit 32 bits. -/
  | dayCountTooLarge
  /-- A length of time that is infinite. -/
  | infiniteLength
  /-- A length of time that is not a number. -/
  | undefinedLength
  /-- A date outside the years 1 to 9999. -/
  | dateOutOfRange
  /-- A quotient of integers that no double comes near to. -/
  | quotientTooLarge
  /-- An integer, to be divided with a double, that no double comes near to. -/
  | integerTooLarge
  /-- An entry to be dropped from an empty history. -/
  | emptyHistory
  /-- An item outside a list. -/
  | noItem
  deriving Repr, DecidableEq

/-- The wording of a fault. -/
def Fault.message : Fault → String
  | .unknownState name => Text.quoted name ++ " is not a valid SessionState"
  | .unknownField name => Text.quoted name
  | .misuse cause => cause.message
  | .outsideDomain => "math domain error"
  | .dayCount days => "days=" ++ toString days ++ "; must have magnitude <= 999999999"
  | .dayCountTooLarge => "Python int too large to convert to C int"
  | .infiniteLength => "cannot convert float infinity to integer"
  | .undefinedLength => "cannot convert float NaN to integer"
  | .dateOutOfRange => "date value out of range"
  | .quotientTooLarge => "integer division result too large for a float"
  | .integerTooLarge => "int too large to convert to float"
  | .emptyHistory => "pop from an empty deque"
  | .noItem => "list index out of range"

/-- The double nearest to a number, or the fault that there is none. -/
def Number.double (n : Number) : Except Fault Float :=
  match n.nearest? with
  | some x => .ok x
  | none => .error .integerTooLarge

end StreamWatch
