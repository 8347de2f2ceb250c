import StreamWatch.Proofs.Number.Quotient

namespace StreamWatch

/-!
# The places that a double keeps

Of a quotient a double keeps 53 binary places, and what is behind them is rounded.

* `le_roundHalfEven_iff`, `roundHalfEven_le_iff` — an even number is reached by rounding from half a
  unit away, on either side;
* `lastPlace_eq` — where the last place is, by how far the first one is in front of the point;
* `keptPlaces` — the places that are kept, as a whole number, and `twoPow_le_keptPlaces`, by which
  these are all 53 but for the smallest doubles.
-/

/-! ### Rounding to a whole number -/

/-- Rounding gives the quotient or the next number: this one above one half, and at one half if the
    quotient is odd. -/
theorem roundHalfEven_cases (num den : Nat) :
    roundHalfEven num den = num / den ∧
        (2 * (num % den) < den ∨ 2 * (num % den) = den ∧ num / den % 2 = 0) ∨
      roundHalfEven num den = num / den + 1 ∧
        (den < 2 * (num % den) ∨ 2 * (num % den) = den ∧ num / den % 2 = 1) := by
  unfold roundHalfEven
  simp only
  split
  · exact .inl ⟨rfl, by omega⟩
  · split
    · exact .inr ⟨rfl, by omega⟩
    · split
      · exact .inl ⟨rfl, by omega⟩
      · exact .inr ⟨rfl, by omega⟩

/-- An even number is reached from half a unit below it. -/
theorem le_roundHalfEven_iff {n num den : Nat} (hden : 0 < den) (heven : n % 2 = 0) :
    n ≤ roundHalfEven num den ↔ 2 * (n * den) ≤ 2 * num + den := by
  have hdiv : den * (num / den) + num % den = num := Nat.div_add_mod num den
  have hmod : num % den < den := Nat.mod_lt num hden
  have hcases := roundHalfEven_cases num den
  rw [Nat.mul_comm den] at hdiv
  generalize hq : num / den = q at hdiv hcases
  -- Only the number above the quotient depends on the remainder: as it is even, the quotient is not,
  -- and so it is taken at one half as well.
  rcases Nat.lt_trichotomy n (q + 1) with hbelow | rfl | habove
  · have hle : n * den ≤ q * den := Nat.mul_le_mul_right den (Nat.le_of_lt_succ hbelow)
    omega
  · rw [Nat.add_mul]
    omega
  · have hge : (q + 2) * den ≤ n * den := Nat.mul_le_mul_right den habove
    rw [Nat.add_mul] at hge
    omega

/-- An even number is not passed up to half a unit above it. -/
theorem roundHalfEven_le_iff {n num den : Nat} (hden : 0 < den) (heven : n % 2 = 0) :
    roundHalfEven num den ≤ n ↔ 2 * num ≤ 2 * (n * den) + den := by
  have hdiv : den * (num / den) + num % den = num := Nat.div_add_mod num den
  have hmod : num % den < den := Nat.mod_lt num hden
  have hcases := roundHalfEven_cases num den
  rw [Nat.mul_comm den] at hdiv
  generalize hq : num / den = q at hdiv hcases
  -- Here it is the quotient itself, which is kept at one half as it is even.
  rcases Nat.lt_trichotomy n q with hbelow | rfl | habove
  · have hge : (n + 1) * den ≤ q * den := Nat.mul_le_mul_right den hbelow
    rw [Nat.add_mul] at hge
    omega
  · omega
  · have hle : (q + 1) * den ≤ n * den := Nat.mul_le_mul_right den habove
    rw [Nat.add_mul] at hle
    omega

/-- Nothing is rounded to nothing. -/
theorem roundHalfEven_zero {den : Nat} (hden : 0 < den) : roundHalfEven 0 den = 0 := by
  apply Nat.eq_zero_of_le_zero
  apply roundHalfEven_le hden
  exact Nat.zero_le _

/-! ### The last place -/

/-- Which powers of two from one upwards a quotient reaches. -/
theorem reachesPower_iff (num den s : Nat) :
    reachesPower num den s = true ↔ den * twoPow s ≤ num := by
  have hnone : (-(s : Int)).toNat = 0 := by omega
  rw [reachesPower, decide_eq_true_eq, hnone, Int.toNat_natCast]
  exact Iff.of_eq (congrArg _ (Nat.mul_one num))

/-- A quotient with `k` binary places between the first one and the point keeps `52 - k` behind
    it. -/
theorem lastPlace_eq {num den k : Nat} (hden : 0 < den) (hlow : den * twoPow k ≤ num)
    (hhigh : num < den * twoPow (k + 1)) : lastPlace num den = k - 52 := by
  have hnum : num ≠ 0 :=
    Nat.ne_of_gt (Nat.lt_of_lt_of_le (Nat.mul_pos hden (twoPow_pos k)) hlow)
  have hfrom : Nat.log2 den + k ≤ Nat.log2 num := by
    rw [Nat.le_log2 hnum]
    calc twoPow (Nat.log2 den + k) = twoPow (Nat.log2 den) * twoPow k := twoPow_add _ k
      _ ≤ den * twoPow k := Nat.mul_le_mul_right _ (Nat.log2_self_le (Nat.ne_of_gt hden))
      _ ≤ num := hlow
  have hto : Nat.log2 num < Nat.log2 den + 1 + (k + 1) := by
    rw [Nat.log2_lt hnum]
    calc num < den * twoPow (k + 1) := hhigh
      _ ≤ twoPow (Nat.log2 den + 1) * twoPow (k + 1) :=
          Nat.mul_le_mul_right _ (Nat.le_of_lt Nat.lt_log2_self)
      _ = twoPow (Nat.log2 den + 1 + (k + 1)) := (twoPow_add _ _).symm
  unfold lastPlace
  simp only
  -- The numbers of places differ by `k` or by one more, and it is tested which of the two it is.
  rcases Nat.lt_or_ge (Nat.log2 num) (Nat.log2 den + (k + 1)) with hless | hmore
  · have hplaces : (Nat.log2 num : Int) - Nat.log2 den = (k : Nat) := by omega
    rw [hplaces, if_pos ((reachesPower_iff num den k).mpr hlow)]
    omega
  · have hplaces : (Nat.log2 num : Int) - Nat.log2 den = (k + 1 : Nat) := by omega
    have hshort : ¬ reachesPower num den (k + 1 : Nat) = true := by
      rw [reachesPower_iff]
      omega
    rw [hplaces, if_neg hshort]
    omega

/-- A quotient of at least one has its first place where its whole part has it. -/
theorem lastPlace_of_le {num den : Nat} (hden : 0 < den) (h : den ≤ num) :
    lastPlace num den = Nat.log2 (num / den) - 52 := by
  have hwhole : num / den ≠ 0 := Nat.ne_of_gt (Nat.div_pos h hden)
  apply lastPlace_eq hden
  · calc den * twoPow (Nat.log2 (num / den)) ≤ den * (num / den) :=
          Nat.mul_le_mul_left den (Nat.log2_self_le hwhole)
      _ ≤ num := Nat.mul_div_le num den
  · calc num < den * (num / den + 1) := Nat.lt_mul_div_succ num hden
      _ ≤ den * twoPow (Nat.log2 (num / den) + 1) :=
          Nat.mul_le_mul_left den Nat.lt_log2_self

/-- A quotient below one keeps more than 52 places behind the point. -/
theorem lastPlace_of_lt {num den : Nat} (h : num < den) : lastPlace num den ≤ -53 := by
  have hlog : Nat.log2 num ≤ Nat.log2 den := by
    rcases Nat.eq_zero_or_pos num with rfl | hnum
    · exact Nat.zero_le _
    · rw [Nat.le_log2 (by omega)]
      exact Nat.le_trans (Nat.log2_self_le (Nat.ne_of_gt hnum)) (Nat.le_of_lt h)
  unfold lastPlace
  simp only
  -- With as many places as the divisor, the test finds that the quotient does not reach one.
  rcases Nat.lt_or_ge (Nat.log2 num) (Nat.log2 den) with hless | hmore
  · split <;> omega
  · have hplaces : (Nat.log2 num : Int) - Nat.log2 den = (0 : Nat) := by omega
    have hshort : ¬ reachesPower num den (0 : Nat) = true := by
      rw [reachesPower_iff]
      show ¬ den * 1 ≤ num
      omega
    rw [hplaces, if_neg hshort]
    omega

/-- No place is below that of the smallest double. -/
theorem lastPlace_ge (num den : Nat) : -1074 ≤ lastPlace num den := by
  unfold lastPlace
  exact Int.le_max_right _ _

/-- The binary places of `num / den` that a double keeps, as a whole number. -/
def keptPlaces (num den : Nat) : Nat :=
  roundHalfEven (num * twoPow (-lastPlace num den).toNat) (den * twoPow (lastPlace num den).toNat)

/-- All 53 places are kept above the smallest doubles. -/
theorem twoPow_le_keptPlaces {num den : Nat} (hnum : num ≠ 0) (hden : 0 < den)
    (hplace : lastPlace num den ≠ -1074) : twoPow 52 ≤ keptPlaces num den := by
  -- `2 ^ (c - d) ≤ num / den`, and the last place is not above `c - d - 52`.
  obtain ⟨c, d, hquot, hlast⟩ : ∃ c d : Nat, den * twoPow c ≤ num * twoPow d ∧
      lastPlace num den + 52 + d ≤ c := by
    by_cases hreach : reachesPower num den ((Nat.log2 num : Int) - Nat.log2 den) = true
    · refine ⟨_, _, of_decide_eq_true hreach, ?_⟩
      simp only [lastPlace, hreach, if_true] at hplace ⊢
      omega
    · refine ⟨Nat.log2 num, Nat.log2 den + 1, ?_, ?_⟩
      · calc den * twoPow (Nat.log2 num) ≤ den * num :=
              Nat.mul_le_mul_left _ (Nat.log2_self_le hnum)
          _ ≤ twoPow (Nat.log2 den + 1) * num :=
              Nat.mul_le_mul_right _ (Nat.le_of_lt Nat.lt_log2_self)
          _ = num * twoPow (Nat.log2 den + 1) := Nat.mul_comm _ _
      · simp only [lastPlace, hreach, Bool.false_eq_true, if_false] at hplace ⊢
        omega
  have hscaled := scaled_le hquot
    (show d + (52 + (lastPlace num den).toNat) ≤ (-lastPlace num den).toNat + c by omega)
  rw [twoPow_add, Nat.mul_left_comm] at hscaled
  rw [keptPlaces, le_roundHalfEven_iff (Nat.mul_pos hden (twoPow_pos _)) (by decide)]
  omega

end StreamWatch
