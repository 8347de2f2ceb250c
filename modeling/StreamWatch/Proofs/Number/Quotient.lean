import StreamWatch.Number.Rounding

namespace StreamWatch

/-!
# Quotients within the doubles

`quotient?` has no answer where the nearest double would be infinite.  A numerator of at
most 1000 binary places does not come to that, whatever it is divided by:

* `roundHalfEven_le` — rounding never passes a whole number that the quotient keeps to;
* `roundHalfEven_scaled_le` — what is rounded has at most 53 binary places, by the choice
  of the last place;
* `quotient?_isSome` — hence such a quotient has a nearest double.
-/

/-! ### Powers of two -/

/-- The exponents of a product of powers add up. -/
theorem twoPow_add (j k : Nat) : twoPow (j + k) = twoPow j * twoPow k := Nat.pow_add 2 j k

/-- Greater exponents give greater powers. -/
theorem twoPow_le {j k : Nat} (h : j ≤ k) : twoPow j ≤ twoPow k :=
  Nat.pow_le_pow_right (by decide) h

/-- A bound on a quotient by a power of two, carried over to another scale. -/
theorem scaled_le {num den c d a b : Nat} (h : num * twoPow c ≤ den * twoPow d)
    (hab : d + a ≤ b + c) : num * twoPow a ≤ den * twoPow b := by
  have hscaled : num * twoPow a * twoPow c ≤ den * twoPow b * twoPow c :=
    calc num * twoPow a * twoPow c = num * twoPow c * twoPow a := by
          rw [Nat.mul_assoc, Nat.mul_comm (twoPow a), ← Nat.mul_assoc]
      _ ≤ den * twoPow d * twoPow a := Nat.mul_le_mul_right _ h
      _ = den * twoPow (d + a) := by rw [twoPow_add, Nat.mul_assoc]
      _ ≤ den * twoPow (b + c) := Nat.mul_le_mul_left _ (twoPow_le hab)
      _ = den * twoPow b * twoPow c := by rw [twoPow_add, Nat.mul_assoc]
  exact Nat.le_of_mul_le_mul_right hscaled (twoPow_pos c)

/-! ### The rounded mantissa -/

/-- Rounding never passes a whole number that the quotient does not pass. -/
theorem roundHalfEven_le {num den bound : Nat} (hden : 0 < den) (h : num ≤ bound * den) :
    roundHalfEven num den ≤ bound := by
  have hq : num / den ≤ bound := Nat.div_le_of_le_mul (by rw [Nat.mul_comm]; exact h)
  unfold roundHalfEven
  rcases Nat.lt_or_ge (num / den) bound with hlt | hge
  · simp only
    split
    · exact hq
    · split
      · exact hlt
      · split
        · exact hq
        · exact hlt
  · -- The quotient is the bound itself, so nothing is left to round up.
    have heq : num / den = bound := Nat.le_antisymm hq hge
    have hdiv := Nat.div_add_mod num den
    have hmod : num % den = 0 := by
      rw [heq, Nat.mul_comm] at hdiv
      omega
    simp only [hmod, Nat.mul_zero, if_pos hden]
    exact hq

/-- The last place leaves at most 53 binary places in front of it, so that what is rounded
    keeps to `2 ^ 53`. -/
theorem roundHalfEven_scaled_le (num : Nat) {den : Nat} (hden : 0 < den) :
    roundHalfEven (num * twoPow (-lastPlace num den).toNat)
      (den * twoPow (lastPlace num den).toNat) ≤ twoPow 53 := by
  have hden' : den ≠ 0 := Nat.ne_of_gt hden
  apply roundHalfEven_le (Nat.mul_pos hden (twoPow_pos _))
  -- `num / den < 2 ^ (d - c)`, and the last place is not below `d - c - 53`.
  obtain ⟨c, d, hquot, hplace⟩ : ∃ c d : Nat, num * twoPow c < den * twoPow d ∧
      (d : Int) ≤ c + 53 + lastPlace num den := by
    by_cases hreach : reachesPower num den ((Nat.log2 num : Int) - Nat.log2 den) = true
    · refine ⟨Nat.log2 den, Nat.log2 num + 1, ?_, ?_⟩
      · calc num * twoPow (Nat.log2 den) ≤ num * den :=
              Nat.mul_le_mul_left _ (Nat.log2_self_le hden')
          _ < twoPow (Nat.log2 num + 1) * den :=
              Nat.mul_lt_mul_of_pos_right Nat.lt_log2_self hden
          _ = den * twoPow (Nat.log2 num + 1) := Nat.mul_comm _ _
      · simp only [lastPlace, hreach, if_true]
        omega
    · have hbelow := hreach
      simp only [reachesPower, decide_eq_true_eq, Nat.not_le] at hbelow
      refine ⟨_, _, hbelow, ?_⟩
      simp only [lastPlace, hreach]
      omega
  have hscaled := scaled_le (Nat.le_of_lt hquot)
    (show d + (-lastPlace num den).toNat ≤ (53 + (lastPlace num den).toNat) + c by omega)
  rw [twoPow_add, Nat.mul_left_comm] at hscaled
  exact hscaled

/-! ### The range -/

/-- The last place of a quotient with a numerator of so many binary places. -/
theorem lastPlace_le {num den places : Nat} (hnum : num ≠ 0) (h : num < twoPow places) :
    lastPlace num den ≤ max ((places : Int) - 53) (-1074) := by
  have hlog : Nat.log2 num < places := (Nat.log2_lt hnum).mpr h
  simp only [lastPlace]
  split <;> omega

/-- A quotient with a numerator of at most 1000 binary places has a nearest double. -/
theorem nearestBits_lt_infinityBits {num den places : Nat} (hplaces : places ≤ 1000)
    (hden : 0 < den) (h : num < twoPow places) : nearestBits num den < infinityBits := by
  have hpos : 0 < twoPow 52 := twoPow_pos 52
  by_cases hnum : num = 0
  · simp only [nearestBits, hnum, if_true, infinityBits]
    exact Nat.mul_pos (by decide) hpos
  · have hmantissa := roundHalfEven_scaled_le num hden
    have hplace : lastPlace num den ≤ max ((places : Int) - 53) (-1074) := lastPlace_le hnum h
    have hdouble : twoPow 53 = twoPow 52 * 2 := twoPow_succ 52
    have hexponent : (lastPlace num den + 1075).toNat * twoPow 52 ≤ 2022 * twoPow 52 :=
      Nat.mul_le_mul_right _ (by omega)
    simp only [nearestBits, if_neg hnum, assembleBits, infinityBits]
    split <;> omega

/-- The quotient of an integer of at most 1000 binary places by one that is not zero is a
    double. -/
theorem quotient?_isSome {a b : Int} {places : Nat} (hplaces : places ≤ 1000) (hb : b ≠ 0)
    (ha : a.natAbs < twoPow places) : (quotient? a b).isSome := by
  have hden : 0 < b.natAbs := Int.natAbs_pos.mpr hb
  have hbits := nearestBits_lt_infinityBits hplaces hden ha
  simp only [quotient?, if_pos hbits, Option.isSome_some]

end StreamWatch
