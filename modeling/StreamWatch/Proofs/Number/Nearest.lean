import Mathlib
import StreamWatch.Proofs.Number.Extended
import StreamWatch.Proofs.Number.Places

namespace StreamWatch

/-!
# What the nearest double stands for

The double nearest to a quotient is decoded again, so that whatever is done with it can be told from
the quotient.

* `ExactValue.ofFloat_signed` — what a double is decoded into that was made of finite bits;
* `ExactValue.bitsPlaces_assembleBits` — the bits that are assembled from some places stand for these
  places;
* `toExtended?_quotient` — hence the nearest double stands for `roundedQuotient`, the quotient with
  the places that are kept;
* `floor_roundedQuotient` — so it is rounded down as the quotient is, once the numerator has grown by
  half a unit of the last place.
-/

/-! ### Bits of doubles -/

/-- Bits that are not those of an infinity or of what is not a number come back from the double that
    is made of them. -/
theorem toBits_ofBits {bits : UInt64} (h : bits.toNat / twoPow 52 % twoPow 11 ≠ 2047) :
    (Float.ofBits bits).toBits = bits := by
  have hvalid : Float.Model.Format.binary64.Valid bits.toBitVec := by
    refine ⟨fun hexponent _ => absurd (congrArg BitVec.toNat hexponent) ?_⟩
    rw [Float.Model.UnpackedFloat.unpackExponent_def, BitVec.extractLsb'_toNat,
      Nat.shiftRight_eq_div_pow]
    exact h
  -- Only what is not a number is packed into other bits than it was unpacked from.
  exact congrArg UInt64.ofBitVec (Float.Model.UnpackedFloat.pack_unpack_of_valid hvalid)

namespace ExactValue

/-- A double that is made of such bits has their value. -/
theorem ofFloat_ofBits {bits : Nat} (hbits : bits < twoPow 64)
    (h : bits / twoPow 52 % twoPow 11 ≠ 2047) :
    ofFloat (Float.ofBits (UInt64.ofNat bits)) = ofBits bits := by
  have hword : (UInt64.ofNat bits).toNat = bits := UInt64.toNat_ofNat_of_lt' hbits
  rw [ofFloat, toBits_ofBits (by rw [hword]; exact h), hword]

/-- The bits of a sign are apart from those of a finite double. -/
theorem fields_signed (negative : Bool) {bits : Nat} (h : bits < infinityBits) :
    fields ((if negative then twoPow 63 else 0) + bits) =
      (negative, bits / twoPow 52, bits % twoPow 52) := by
  have hfraction : twoPow 52 = 4503599627370496 := by decide
  have hexponent : twoPow 11 = 2048 := by decide
  have hsign : twoPow 63 = 9223372036854775808 := by decide
  rw [infinityBits, hfraction] at h
  -- With numerals for the powers, the three fields are a matter of division.
  simp only [fields, hfraction, hexponent, hsign, Prod.mk.injEq, beq_eq_decide]
  cases negative with
  | false =>
    simp only [Bool.false_eq_true, if_false]
    refine ⟨decide_eq_false ?_, ?_, ?_⟩ <;> omega
  | true =>
    simp only [if_true]
    refine ⟨decide_eq_true ?_, ?_, ?_⟩ <;> omega

/-- The exponent field of finite bits is not the one of infinities. -/
theorem exponent_of_finite {bits : Nat} (h : bits < infinityBits) : bits / twoPow 52 ≠ 2047 :=
  Nat.ne_of_lt (Nat.div_lt_of_lt_mul (by rw [Nat.mul_comm]; exact h))

/-- The places of a finite double, by its bits without the sign. -/
def bitsPlaces (bits : Nat) : Nat :=
  if bits / twoPow 52 = 0 then bits % twoPow 52 else twoPow 52 + bits % twoPow 52

/-- The last place of a finite double, by its bits without the sign. -/
def bitsLastPlace (bits : Nat) : Int :=
  if bits / twoPow 52 = 0 then -1074 else ((bits / twoPow 52 : Nat) : Int) - 1075

/-- What finite bits with a sign are decoded into. -/
theorem ofBits_signed (negative : Bool) {bits : Nat} (h : bits < infinityBits) :
    ofBits ((if negative then twoPow 63 else 0) + bits) =
      .finite (if negative then -(bitsPlaces bits : Int) else bitsPlaces bits)
        (bitsLastPlace bits) := by
  simp only [ofBits, fields_signed negative h, if_neg (exponent_of_finite h)]
  rfl

/-- What a finite double is decoded into, by its bits and its sign. -/
theorem ofFloat_signed (negative : Bool) {bits : Nat} (h : bits < infinityBits) :
    ofFloat (Float.ofBits (UInt64.ofNat ((if negative then twoPow 63 else 0) + bits))) =
      .finite (if negative then -(bitsPlaces bits : Int) else bitsPlaces bits)
        (bitsLastPlace bits) := by
  have hword : (if negative then twoPow 63 else 0) + bits < twoPow 64 := by
    have hsign : twoPow 64 = 2 * twoPow 63 := by decide
    have hfinite : infinityBits < twoPow 63 := by decide
    split <;> omega
  have hexponent : ((if negative then twoPow 63 else 0) + bits) / twoPow 52 % twoPow 11 =
      bits / twoPow 52 := congrArg (fun parts => parts.2.1) (fields_signed negative h)
  rw [ofFloat_ofBits hword, ofBits_signed negative h]
  rw [hexponent]
  exact exponent_of_finite h

/-- A double whose exponent field is not zero has a first place before those of the fraction
    field. -/
theorem places_of_fields (n : Nat) {fraction : Nat} (h : fraction < twoPow 52) :
    bitsPlaces ((n + 1) * twoPow 52 + fraction) = twoPow 52 + fraction ∧
      bitsLastPlace ((n + 1) * twoPow 52 + fraction) = n - 1074 := by
  have hunit : twoPow 52 = 4503599627370496 := by decide
  have hquot : ((n + 1) * twoPow 52 + fraction) / twoPow 52 = n + 1 := by
    rw [hunit] at h ⊢
    omega
  have hrest : ((n + 1) * twoPow 52 + fraction) % twoPow 52 = fraction := by
    rw [hunit] at h ⊢
    omega
  rw [bitsPlaces, bitsLastPlace, hquot, hrest, if_neg (Nat.succ_ne_zero n),
    if_neg (Nat.succ_ne_zero n)]
  exact ⟨rfl, by omega⟩

/-- The bits that are assembled from some places stand for these places. -/
theorem bitsPlaces_assembleBits {places : Nat} {last : Int} (hplaces : places ≤ twoPow 53)
    (hlast : -1074 ≤ last) (hsmall : places < twoPow 52 → places = 0 ∨ last = -1074) :
    (bitsPlaces (assembleBits places last) * 2 ^ bitsLastPlace (assembleBits places last) : ℚ) =
      places * 2 ^ last := by
  have hunit : twoPow 52 = 4503599627370496 := by decide
  have hdouble : twoPow 53 = 2 * twoPow 52 := by decide
  rcases Nat.lt_or_ge places (twoPow 52) with hless | hmore
  · -- Fewer than 53 places are those of a small double, or of zero.
    have hbits : assembleBits places last = places := if_pos hless
    have hquot : places / twoPow 52 = 0 := Nat.div_eq_of_lt hless
    rw [hbits, bitsPlaces, bitsLastPlace, if_pos hquot, if_pos hquot, Nat.mod_eq_of_lt hless]
    rcases hsmall hless with rfl | rfl
    · rw [Nat.cast_zero, zero_mul, zero_mul]
    · rfl
  · obtain ⟨n, rfl⟩ : ∃ n : Nat, last = n - 1074 := ⟨(last + 1074).toNat, by omega⟩
    have hbits : assembleBits places (n - 1074) = (n + 1) * twoPow 52 + (places - twoPow 52) := by
      rw [assembleBits, if_neg (by omega), show ((n : Int) - 1074 + 1075).toNat = n + 1 by omega]
    rcases Nat.lt_or_eq_of_le hplaces with hfull | rfl
    · obtain ⟨hall, hend⟩ := places_of_fields n (show places - twoPow 52 < twoPow 52 by omega)
      rw [hbits, hall, hend, Nat.add_sub_cancel' hmore]
    · -- The carry goes into the exponent field, and leaves the fraction field empty.
      have hcarry : (n + 1) * twoPow 52 + (twoPow 53 - twoPow 52) =
          ((n + 1) + 1) * twoPow 52 + 0 := by
        rw [hdouble, hunit]
        omega
      obtain ⟨hall, hend⟩ := places_of_fields (n + 1) (twoPow_pos 52)
      rw [hbits, hcarry, hall, hend, hdouble, Nat.add_zero]
      have hnext : ((n + 1 : Nat) : Int) - 1074 = (n - 1074) + 1 := by omega
      rw [hnext, zpow_add_one₀ two_ne_zero, Nat.cast_mul, Nat.cast_two]
      ring

/-- A scaled integer as a quotient of integers. -/
theorem scaled_eq_div (m e : Int) :
    (m * 2 ^ e : ℚ) = ((m * twoPow e.toNat : Int) : ℚ) / (twoPow (-e).toNat : Nat) := by
  have hsplit : e = (e.toNat : Int) - ((-e).toNat : Int) := by omega
  have hpower (k : Nat) : (2 : ℚ) ^ (k : Int) = (twoPow k : Nat) := by
    rw [zpow_natCast, twoPow, Nat.pow_eq, Nat.cast_pow, Nat.cast_two]
  calc (m * 2 ^ e : ℚ) = m * 2 ^ ((e.toNat : Int) - ((-e).toNat : Int)) := by rw [← hsplit]
    _ = m * ((twoPow e.toNat : Nat) / (twoPow (-e).toNat : Nat)) := by
        rw [zpow_sub₀ two_ne_zero, hpower, hpower]
    _ = ((m * twoPow e.toNat : Int) : ℚ) / (twoPow (-e).toNat : Nat) := by
        rw [Int.cast_mul, Int.cast_natCast, mul_div_assoc]

/-- The floor of a value is that of what it stands for. -/
theorem floor?_of_toExtended? {v : ExactValue} {q : ℚ}
    (h : v.toExtended? = some ((q : WithTop ℚ) : ExtendedRational)) : v.floor? = some ⌊q⌋ := by
  cases v with
  | nan => cases h
  | infinite negative => cases negative <;> cases h
  | finite m e =>
    have hq : (m * 2 ^ e : ℚ) = q :=
      WithTop.coe_injective (WithBot.coe_injective (Option.some.inj h))
    rw [floor?, ← hq, scaled_eq_div, Rat.floor_intCast_div_natCast]

end ExactValue

/-! ### Quotients -/

/-- The quotient `a / b` of an integer by a positive one with the binary places that a double
    keeps. -/
def roundedQuotient (a b : Int) : ℚ :=
  a.sign * keptPlaces a.natAbs b.natAbs * 2 ^ lastPlace a.natAbs b.natAbs

/-- Zero has no places. -/
theorem keptPlaces_zero {den : Nat} (hden : 0 < den) : keptPlaces 0 den = 0 := by
  rw [keptPlaces, Nat.zero_mul]
  exact roundHalfEven_zero (Nat.mul_pos hden (twoPow_pos _))

/-- The nearest bits stand for the places that are kept. -/
theorem bitsPlaces_nearestBits (num : Nat) {den : Nat} (hden : 0 < den) :
    (ExactValue.bitsPlaces (nearestBits num den) *
        2 ^ ExactValue.bitsLastPlace (nearestBits num den) : ℚ) =
      keptPlaces num den * 2 ^ lastPlace num den := by
  by_cases hnum : num = 0
  · have hbits : nearestBits num den = 0 := if_pos hnum
    rw [hbits, hnum, keptPlaces_zero hden, Nat.cast_zero, zero_mul]
    exact zero_mul _
  · have hbits : nearestBits num den = assembleBits (keptPlaces num den) (lastPlace num den) :=
      if_neg hnum
    rw [hbits]
    apply ExactValue.bitsPlaces_assembleBits (roundHalfEven_scaled_le num hden)
      (lastPlace_ge num den)
    intro hless
    -- Were the last place above that of the smallest double, then all 53 places would be kept.
    by_contra hnormal
    exact absurd (twoPow_le_keptPlaces hnum hden fun hlast => hnormal (.inr hlast))
      (Nat.not_le_of_lt hless)

/-- The double nearest to a quotient stands for it with the places that are kept. -/
theorem toExtended?_quotient {a b : Int} (hb : 0 < b) {x : Float} (h : quotient? a b = some x) :
    (ExactValue.ofFloat x).toExtended? = some ((roundedQuotient a b : WithTop ℚ) : ExtendedRational) := by
  have hden : 0 < b.natAbs := Int.natAbs_pos.mpr (Int.ne_of_gt hb)
  have hvalue := bitsPlaces_nearestBits a.natAbs hden
  have hpositive : decide (b < 0) = false := decide_eq_false (Int.not_lt.mpr (Int.le_of_lt hb))
  unfold quotient? at h
  simp only [hpositive] at h
  split at h
  · rename_i hfinite
    obtain rfl := Option.some.inj h
    have hsign : (if (decide (a < 0) == false) = true then 0 else twoPow 63) =
        if decide (a < 0) then twoPow 63 else 0 := by
      cases decide (a < 0) <;> rfl
    rw [hsign, ExactValue.ofFloat_signed _ hfinite, ExactValue.toExtended?, roundedQuotient, mul_assoc,
      ← hvalue]
    rcases Int.lt_trichotomy a 0 with hneg | rfl | hpos
    · rw [Int.sign_eq_neg_one_of_neg hneg, decide_eq_true hneg]
      simp
    · -- Zero has no sign of its own, and nothing to put it in front of.
      rw [Int.natAbs_zero, keptPlaces_zero hden, Nat.cast_zero, zero_mul] at hvalue
      simpa using hvalue
    · rw [Int.sign_eq_one_of_pos hpos, decide_eq_false (Int.not_lt.mpr (Int.le_of_lt hpos))]
      simp
  · cases h

/-! ### Nearest quotients rounded down -/

/-- The sign of a natural number in front of what it is rounded to says nothing. -/
theorem sign_mul_roundHalfEven (m : Nat) {den : Nat} (hden : 0 < den) :
    (m : Int).sign * roundHalfEven m den = roundHalfEven m den := by
  rcases Nat.eq_zero_or_pos m with rfl | hpos
  · rw [roundHalfEven_zero hden]
    rfl
  · rw [Int.sign_eq_one_of_pos (by omega), Int.one_mul]

/-- An even integer is reached by rounding from half a unit below it, on either side of zero. -/
theorem le_sign_mul_roundHalfEven_iff {n x : Int} {den : Nat} (hden : 0 < den)
    (heven : n % 2 = 0) :
    n ≤ x.sign * roundHalfEven x.natAbs den ↔ 2 * (n * den) ≤ 2 * x + den := by
  rcases Int.le_total 0 x with hpos | hneg
  · obtain ⟨m, rfl⟩ := Int.eq_ofNat_of_zero_le hpos
    rw [Int.natAbs_natCast, sign_mul_roundHalfEven m hden]
    rcases Int.le_total 0 n with hn | hn
    · obtain ⟨k, rfl⟩ := Int.eq_ofNat_of_zero_le hn
      have hround := @le_roundHalfEven_iff k m den hden (by omega)
      rw [← Int.natCast_mul]
      omega
    · have hproduct : n * den ≤ 0 := Int.mul_nonpos_of_nonpos_of_nonneg hn (by omega)
      omega
  · -- Below zero a number is reached where its opposite is not passed.
    obtain ⟨m, rfl⟩ : ∃ m : Nat, x = -m := ⟨x.natAbs, by omega⟩
    rw [Int.natAbs_neg, Int.natAbs_natCast, Int.sign_neg, Int.neg_mul,
      sign_mul_roundHalfEven m hden]
    rcases le_or_gt n 0 with hn | hn
    · obtain ⟨k, rfl⟩ : ∃ k : Nat, n = -k := ⟨n.natAbs, by omega⟩
      have hround := @roundHalfEven_le_iff k m den hden (by omega)
      rw [Int.neg_mul, ← Int.natCast_mul]
      omega
    · have hproduct : 2 * (den : Int) ≤ n * den :=
        Int.mul_le_mul_of_nonneg_right (by omega) (by omega)
      omega

/-- The places that are kept of a quotient with some places behind the point. -/
theorem sign_mul_keptPlaces {a b : Int} {places : Nat}
    (hlast : lastPlace a.natAbs b.natAbs = -places) :
    a.sign * keptPlaces a.natAbs b.natAbs =
      (a * twoPow places).sign * roundHalfEven (a * twoPow places).natAbs b.natAbs := by
  have hpower : (twoPow places : Int).sign = 1 :=
    Int.sign_eq_one_of_pos (Int.natCast_pos.mpr (twoPow_pos places))
  have hnone : (-(places : Int)).toNat = 0 := by omega
  rw [Int.sign_mul, hpower, Int.mul_one, Int.natAbs_mul, Int.natAbs_natCast, keptPlaces, hlast,
    Int.neg_neg, Int.toNat_natCast, hnone]
  exact congrArg (fun den => a.sign * (roundHalfEven _ den : Int)) (Nat.mul_one b.natAbs)

/-- A whole number is reached from half a unit of the last place below it. -/
theorem le_floor_roundedQuotient_iff {a b j : Int} {places : Nat} (hb : 0 < b) (hplaces : 0 < places)
    (hlast : lastPlace a.natAbs b.natAbs = -places) :
    j ≤ ⌊roundedQuotient a b⌋ ↔ (j * b - a) * twoPow (places + 1) ≤ b := by
  obtain ⟨den, rfl⟩ := Int.eq_ofNat_of_zero_le (Int.le_of_lt hb)
  have hpower : (0 : ℚ) < (twoPow places : Nat) := Nat.cast_pos.mpr (twoPow_pos places)
  have hvalue : roundedQuotient a den =
      ((a * twoPow places).sign * roundHalfEven (a * twoPow places).natAbs den : Int) /
        (twoPow places : Nat) := by
    rw [roundedQuotient, hlast, zpow_neg, zpow_natCast, ← div_eq_mul_inv]
    have hplaced := sign_mul_keptPlaces hlast
    rw [Int.natAbs_natCast] at hplaced ⊢
    rw [← hplaced, Int.cast_mul, Int.cast_natCast, twoPow, Nat.pow_eq, Nat.cast_pow, Nat.cast_two]
  have heven : j * twoPow places % 2 = 0 := by
    obtain ⟨n, rfl⟩ : ∃ n, places = n + 1 := ⟨places - 1, by omega⟩
    rw [twoPow_succ, Int.natCast_mul, ← Int.mul_assoc]
    exact Int.mul_emod_left _ _
  rw [Int.le_floor, hvalue, le_div_iff₀ hpower, ← Int.cast_natCast (twoPow places), ← Int.cast_mul,
    Int.cast_le, le_sign_mul_roundHalfEven_iff (Int.natCast_pos.mp hb) heven, twoPow_succ]
  -- Both sides say the same of the products of three, which are taken as they are.
  have hproducts : 2 * (j * twoPow places * den) - 2 * (a * twoPow places) =
      (j * den - a) * ((twoPow places * 2 : Nat) : Int) := by
    rw [Int.natCast_mul]
    ring
  rw [← hproducts]
  omega

/-- **A nearest quotient is rounded down as the quotient is, half a unit of its last place higher.** -/
theorem floor_roundedQuotient {a b : Int} {places : Nat} (hb : 0 < b) (hplaces : 0 < places)
    (hlast : lastPlace a.natAbs b.natAbs = -places) :
    ⌊roundedQuotient a b⌋ = (a + b / twoPow (places + 1)) / b := by
  have hpower : (0 : Int) < twoPow (places + 1) := Int.natCast_pos.mpr (twoPow_pos _)
  apply eq_of_forall_le_iff
  intro j
  rw [le_floor_roundedQuotient_iff hb hplaces hlast, Int.le_ediv_iff_mul_le hb,
    ← Int.le_ediv_iff_mul_le hpower]
  omega

end StreamWatch
