import StreamWatch.Number.Exact
import StreamWatch.Number.Rounding

namespace StreamWatch

/-! # Decimal notation of doubles

The texts of a double. All round the exact value once, a half to even:

* `fixedText`: a set number of places;
* `shortestText`: the fewest digits that read back to the same double, positional
  from `1e-4` up to below `1e16`, otherwise with a power of ten;
* `fixedDigits`, `powerDigits`, `generalDigits`: the text of a magnitude with a set number of
  places, with a power of ten, and in the shorter of the two forms.

A power of ten is written with its sign and two digits or more.
-/

/-- The decimal digits of a natural number. -/
def decimalDigits (n : Nat) : List Char := Nat.toDigits 10 n

/-- Writes zeros in front of `cs` until it has `width` characters. -/
def padZeros (width : Nat) (cs : List Char) : List Char :=
  List.replicate (width - cs.length) '0' ++ cs

/-- The texts of what is not finite. -/
def nonFiniteText? : ExactValue → Option String
  | .nan => some "nan"
  | .infinite true => some "-inf"
  | .infinite false => some "inf"
  | .finite _ _ => none

/-- Does a double carry the sign bit? It tells minus zero from zero. -/
def signBit (x : Float) : Bool := (ExactValue.fields x.toBits.toNat).1

/-- The text of a double, from the text of its magnitude as a fraction. -/
def signedText (magnitudeText : Nat → Nat → List Char) (x : Float) : String :=
  match nonFiniteText? (ExactValue.ofFloat x) with
  | some text => text
  | none =>
    let (num, den) := (ExactValue.ofFloat x).magnitude
    String.ofList ((if signBit x then ['-'] else []) ++ magnitudeText num den)

/-! ### Laying out digits -/

/-- Two runs of digits with a point between them. Without digits behind it the point is written
    only if it is asked for. -/
def joinedAtPoint (keepPoint : Bool) (whole rest : List Char) : List Char :=
  whole ++ (if rest.isEmpty && !keepPoint then [] else '.' :: rest)

/-- Digits whose first one stands at the power `lead` of ten, cut at the point. -/
def cutAtPoint (digits : List Char) (lead : Int) : List Char × List Char :=
  if lead < 0 then (['0'], List.replicate (-lead - 1).toNat '0' ++ digits)
  else
    let count := lead.toNat + 1
    (digits.take count ++ List.replicate (count - digits.length) '0', digits.drop count)

/-- A power of ten. -/
def powerText (lead : Int) : List Char :=
  'e' :: (if lead < 0 then '-' else '+') :: padZeros 2 (decimalDigits lead.natAbs)

/-- Digits with a power of ten, which is that of the first one. -/
def layoutAtPower (keepPoint : Bool) (digits : List Char) (lead : Int) : List Char :=
  joinedAtPoint keepPoint (digits.take 1) (digits.drop 1) ++ powerText lead

/-- `num / den` with exactly `places` decimal places. -/
def fixedDigits (keepPoint : Bool) (places num den : Nat) : List Char :=
  let digits := padZeros (places + 1) (decimalDigits (roundHalfEven (num * tenPow places) den))
  let count := digits.length - places
  joinedAtPoint keepPoint (digits.take count) (digits.drop count)

/-- A double with exactly `places` decimal places. -/
def fixedText (places : Nat) (x : Float) : String := signedText (fixedDigits false places) x

/-- Is `num / den` below `10 ^ k`? -/
def belowPowerOfTen (num den : Nat) (k : Int) : Bool :=
  decide (num * tenPow (-k).toNat < den * tenPow k.toNat)

/-- The least `k`, from a first guess upwards, with `num / den` below `10 ^ k`. -/
def decimalScale (num den : Nat) : Int :=
  let guess : Int := ((Nat.log2 num : Int) - Nat.log2 den - 1) * 30103 / 100000
  ((List.range 4).map (fun i : Nat => guess + i)).find? (belowPowerOfTen num den)
    |>.getD (guess + 4)

/-- The first `count` digits of `num / den`, rounded, with the power of ten of the first one. -/
def leadingDigits (count num den : Nat) : List Char × Int :=
  if num = 0 then (List.replicate count '0', 0)
  else
    let scale := decimalScale num den
    let e := scale - count
    let digits := decimalDigits
      (roundHalfEven (num * tenPow (-e).toNat) (den * tenPow e.toNat))
    (digits.take count, e + digits.length - 1)

/-- Drops the trailing zeros of a digit string. -/
def dropTrailingZeros (cs : List Char) : List Char :=
  (cs.reverse.dropWhile (· == '0')).reverse

/-- `num / den` with a power of ten, and `places` decimal places in front of it. -/
def powerDigits (keepPoint : Bool) (places num den : Nat) : List Char :=
  let (digits, lead) := leadingDigits (places + 1) num den
  layoutAtPower keepPoint digits lead

/-- `num / den` to `count` digits, positional from `1e-4` up to below `10 ^ count`, otherwise
    with a power of ten. Trailing zeros are dropped, unless the point is to be kept. -/
def generalDigits (keepPoint : Bool) (count num den : Nat) : List Char :=
  let (all, lead) := leadingDigits count num den
  let digits := if keepPoint then all else dropTrailingZeros all
  if -4 ≤ lead ∧ lead < count then
    let (whole, rest) := cutAtPoint digits lead
    joinedAtPoint keepPoint whole rest
  else layoutAtPower keepPoint digits lead

/-! ### The fewest digits that read back -/

/-- Do `digits * 10 ^ exponent` and `num / den` have the same nearest double? -/
def readsBack (num den digits : Nat) (exponent : Int) : Bool :=
  nearestBits (digits * tenPow exponent.toNat) (tenPow (-exponent).toNat) == nearestBits num den

/-- Of the two neighbours of `num / den` with `count` digits, the nearest one that reads
    back; of two equally near ones the even one. -/
def candidate? (num den : Nat) (scale : Int) (count : Nat) : Option (Nat × Int) :=
  let e := scale - count
  let n := num * tenPow (-e).toNat
  let d := den * tenPow e.toNat
  let low := n / d
  let nearest := roundHalfEven n d
  let other := if nearest = low then low + 1 else low
  if readsBack num den nearest e then some (nearest, e)
  else if readsBack num den other e then some (other, e)
  else none

/-- The digits and the exponent of the shortest decimal that reads back to `num / den`;
    seventeen digits always do. -/
def shortestDecimal (num den : Nat) : Nat × Int :=
  let scale := decimalScale num den
  ((List.range 17).findSome? (fun i => candidate? num den scale (i + 1))).getD (num, 0)

/-- `num / den` with the fewest digits that read back. -/
def shortestDigits (num den : Nat) : List Char :=
  if num = 0 then ['0', '.', '0']
  else
    let (value, e) := shortestDecimal num den
    let all := decimalDigits value
    let lead := e + all.length - 1
    let digits := dropTrailingZeros all
    if -4 ≤ lead ∧ lead < 16 then
      let (whole, rest) := cutAtPoint digits lead
      joinedAtPoint true whole (if rest.isEmpty then ['0'] else rest)
    else layoutAtPower false digits lead

/-- The shortest text of a double. -/
def shortestText (x : Float) : String := signedText shortestDigits x

end StreamWatch
