import StreamWatch.Number.Power

namespace StreamWatch

/-! # Exact values of doubles

A double is decoded into the number it stands for, `mantissa * 2 ^ exponent`, so
that comparing it with an integer of any size is exact integer arithmetic:

* `ExactValue`: not a number, an infinity, or `mantissa * 2 ^ exponent`;
* `ExactValue.ofFloat`: the value of a double, read off its bits;
* `ExactValue.order?`: the order of two values, none when either is not a number;
* `ExactValue.floor?`: the greatest integer that is not above a value;
* `ExactValue.magnitude`: the magnitude of a value as a fraction.
-/

/-- The value of a number: not a number, an infinity, or `mantissa * 2 ^ exponent`. -/
inductive ExactValue where
  | nan
  | infinite (negative : Bool)
  | finite (mantissa exponent : Int)
  deriving Repr, DecidableEq

namespace ExactValue

/-- The sign bit, the exponent field and the fraction field of a double's 64 bits. -/
def fields (bits : Nat) : Bool × Nat × Nat :=
  (bits / twoPow 63 % 2 == 1, bits / twoPow 52 % twoPow 11, bits % twoPow 52)

/-- The value that 64 bits stand for: the exponent field 2047 is kept for the
    infinities and for what is not a number, and the field 0 drops the leading one. -/
def ofBits (bits : Nat) : ExactValue :=
  let (negative, exponent, fraction) := fields bits
  if exponent = 2047 then
    if fraction = 0 then .infinite negative else .nan
  else
    let mantissa : Nat := if exponent = 0 then fraction else twoPow 52 + fraction
    let scale : Int := if exponent = 0 then -1074 else (exponent : Int) - 1075
    .finite (if negative then -(mantissa : Int) else mantissa) scale

/-- The value of a double. -/
def ofFloat (x : Float) : ExactValue := ofBits x.toBits.toNat

/-- Compares `m * 2 ^ e` with `m' * 2 ^ e'` after bringing both to the smaller exponent. -/
def orderFinite (m e m' e' : Int) : Ordering :=
  compare (m * twoPow (e - e').toNat) (m' * twoPow (e' - e).toNat)

/-- The order of two values, none when either is not a number. -/
def order? : ExactValue → ExactValue → Option Ordering
  | .nan, _ | _, .nan => none
  | .infinite s, .infinite s' => some (compare s' s)
  | .infinite s, .finite _ _ => some (if s then .lt else .gt)
  | .finite _ _, .infinite s => some (if s then .gt else .lt)
  | .finite m e, .finite m' e' => some (orderFinite m e m' e')

/-- The greatest integer not above a value, none for what is not finite. -/
def floor? : ExactValue → Option Int
  | .finite m e => some (m * twoPow e.toNat / twoPow (-e).toNat)
  | _ => none

/-- The magnitude of a value as a fraction of naturals; zero for what is not finite. -/
def magnitude : ExactValue → Nat × Nat
  | .finite m e => (m.natAbs * twoPow e.toNat, twoPow (-e).toNat)
  | _ => (0, 1)

end ExactValue

end StreamWatch
