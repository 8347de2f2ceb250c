import StreamWatch.Number.Exact
import StreamWatch.Number.Rounding

namespace StreamWatch

/-! # Numbers

A number is an integer of any size or a double. Two numbers are compared by their
exact values, so an integer and a double are never rounded to meet each other:

* `Number`: an integer or a double;
* `Number.order?`, `Number.equals`, `Number.lessThan`, `Number.atMost`: the exact order;
* `Number.toFloat`, `Number.nearest?`: the nearest double.
-/

/-- An integer of any size, or a double. -/
inductive Number where
  | int (value : Int)
  | real (value : Float)

namespace Number

/-- The exact value of a number. -/
def exact : Number → ExactValue
  | .int n => .finite n 0
  | .real x => .ofFloat x

/-- The exact order of two numbers, none when either is not a number. -/
def order? (a b : Number) : Option Ordering := a.exact.order? b.exact

/-- Do two numbers have the same value? -/
def equals (a b : Number) : Bool := a.order? b == some .eq

/-- Is `a` below `b`? -/
def lessThan (a b : Number) : Bool := a.order? b == some .lt

/-- Is `a` at most `b`? -/
def atMost (a b : Number) : Bool := a.lessThan b || a.equals b

/-- The nearest double; an integer out of range becomes an infinity of its sign. -/
def toFloat : Number → Float
  | .int n => (quotient? n 1).getD (if n < 0 then -positiveInfinity else positiveInfinity)
  | .real x => x

/-- The nearest double, none for an integer that is out of range. -/
def nearest? : Number → Option Float
  | .int n => quotient? n 1
  | .real x => some x

/-- The double nearest to a quotient of naturals, as a quotient again; one that is out of range
    counts as zero. -/
def nearestQuotient (num den : Nat) : Nat × Nat :=
  (ExactValue.ofFloat ((quotient? num den).getD 0.0)).magnitude

/-- Differences of integers are exact; any other difference is one of doubles. -/
instance : Sub Number where
  sub
    | .int a, .int b => .int (a - b)
    | a, b => .real (a.toFloat - b.toFloat)

/-- The order of exact values; what is not a number is at most nothing. -/
instance : LE Number where
  le a b := a.atMost b = true

instance : DecidableLE Number := fun a b => inferInstanceAs (Decidable (a.atMost b = true))

/-- Does a number differ from zero? What is not a number does. -/
def nonzero (a : Number) : Bool := !(a.equals (.int 0))

end Number

end StreamWatch
