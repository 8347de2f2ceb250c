import StreamWatch.Number.Power

namespace StreamWatch

/-! # Correctly rounded quotients

The double nearest to a quotient of two integers of any size, and the six-place
text of a double, both by rounding one exact quotient once:

* `roundHalfEven`: the integer nearest to a quotient, a half going to the even neighbour;
* `nearestBits`: the bits of the double nearest to a positive quotient;
* `quotient?`: the double nearest to a quotient of integers, none when it is out of range.
-/

/-- The integer nearest to `num / den`, a half going to the even neighbour. -/
def roundHalfEven (num den : Nat) : Nat :=
  let q := num / den
  let r := num % den
  if 2 * r < den then q
  else if den < 2 * r then q + 1
  else if q % 2 = 0 then q
  else q + 1

/-- Is `2 ^ s ≤ num / den`? -/
def reachesPower (num den : Nat) (s : Int) : Bool :=
  decide (den * twoPow s.toNat ≤ num * twoPow (-s).toNat)

/-- The exponent of the last binary place of a double next to `num / den`: 53 places
    are kept, and none below `2 ^ (-1074)`. -/
def lastPlace (num den : Nat) : Int :=
  let s : Int := (Nat.log2 num : Int) - Nat.log2 den
  max (if reachesPower num den s then s - 52 else s - 53) (-1074)

/-- The bits of the non-negative double `mantissa * 2 ^ exponent`, for a mantissa of at
    most 53 places; a carry out of the mantissa moves into the exponent field. -/
def assembleBits (mantissa : Nat) (exponent : Int) : Nat :=
  if mantissa < twoPow 52 then mantissa
  else (exponent + 1075).toNat * twoPow 52 + (mantissa - twoPow 52)

/-- The bits of infinity, which bound those of the finite non-negative doubles. -/
def infinityBits : Nat := 2047 * twoPow 52

/-- The bits of the double nearest to `num / den`, a tie going to the even mantissa;
    at or above `infinityBits` when the quotient is out of range. -/
def nearestBits (num den : Nat) : Nat :=
  if num = 0 then 0
  else
    let e := lastPlace num den
    assembleBits (roundHalfEven (num * twoPow (-e).toNat) (den * twoPow e.toNat)) e

/-- The double nearest to `a / b` for `b ≠ 0`, none when it is out of range. -/
def quotient? (a b : Int) : Option Float :=
  let bits := nearestBits a.natAbs b.natAbs
  if bits < infinityBits then
    let sign : Nat := if decide (a < 0) == decide (b < 0) then 0 else twoPow 63
    some (Float.ofBits (UInt64.ofNat (sign + bits)))
  else none

/-- The positive infinity. -/
def positiveInfinity : Float := Float.ofBits (UInt64.ofNat infinityBits)

/-- The double nearest to `digits * 10 ^ exponent`; out of range it is infinite. -/
def ofDecimal (digits : Nat) (exponent : Int) : Float :=
  let leading : Int := (Nat.log2 digits : Int) * 30103 / 100000 + exponent
  if digits = 0 ∨ leading < -400 then 0.0
  else if 400 < leading then positiveInfinity
  else
    let bits := nearestBits (digits * tenPow exponent.toNat) (tenPow (-exponent).toNat)
    if bits < infinityBits then Float.ofBits (UInt64.ofNat bits) else positiveInfinity

end StreamWatch
