import Mathlib.Algebra.Order.Field.Rat
import Mathlib.Algebra.Order.Field.Power
import Mathlib.Data.Option.NAry
import Mathlib.Order.WithBot
import StreamWatch.Number.Basic

namespace StreamWatch

/-!
# Numbers as extended rationals

A number that is one stands for a rational or for one of the two infinities, and its order is the
order of these:

* `ExtendedRational`, `Number.toExtended?` — what a number stands for, nothing if it is not a number;
* `ExactValue.orderFinite_eq`, `Number.order?_eq` — numbers are compared as what they stand for, at
  any size and whether integers or doubles;
* `Number.equals_iff`, `Number.lessThan_iff`, `Number.atMost_iff` — the three relations of numbers.
-/

/-- A rational, or one of the two infinities. -/
abbrev ExtendedRational := WithBot (WithTop ℚ)

namespace ExactValue

/-- What a value stands for, nothing if it is not a number. -/
def toExtended? : ExactValue → Option ExtendedRational
  | .nan => none
  | .infinite negative => some (if negative then ⊥ else ⊤)
  | .finite m e => some (((m * 2 ^ e : ℚ) : WithTop ℚ) : ExtendedRational)

/-- Scaled integers are compared as the rationals that they are. -/
theorem orderFinite_eq (m e m' e' : Int) :
    orderFinite m e m' e' = compare (m * 2 ^ e : ℚ) (m' * 2 ^ e' : ℚ) := by
  have hscale : (0 : ℚ) < 2 ^ min e e' := zpow_pos two_pos _
  -- The smaller exponent is what both sides have in common.
  have hcommon (n i j : Int) :
      (n * 2 ^ i : ℚ) = ((n * twoPow (i - j).toNat : Int) : ℚ) * 2 ^ min i j := by
    have hsplit : i = ((i - j).toNat : Int) + min i j := by omega
    rw [Int.cast_mul, mul_assoc]
    congr 1
    calc (2 : ℚ) ^ i = 2 ^ (((i - j).toNat : Int) + min i j) := by rw [← hsplit]
      _ = 2 ^ ((i - j).toNat : Int) * 2 ^ min i j := zpow_add₀ two_ne_zero _ _
      _ = ((twoPow (i - j).toNat : Int) : ℚ) * 2 ^ min i j := by
          rw [zpow_natCast, twoPow, Nat.pow_eq, Nat.cast_pow, Int.cast_pow]
          rfl
  rw [hcommon m e e', hcommon m' e' e, min_comm e' e, ← cmp_eq_compare,
    cmp_mul_pos_right hscale, Int.cast_strictMono.cmp_map_eq, cmp_eq_compare]
  rfl

/-- Values are compared as what they stand for. -/
theorem order?_eq (a b : ExactValue) :
    a.order? b = Option.map₂ compare a.toExtended? b.toExtended? := by
  cases a with
  | nan => cases b <;> rfl
  | infinite s =>
    cases b with
    | nan => rfl
    | infinite s' => cases s <;> cases s' <;> rfl
    | finite m' e' => cases s <;> rfl
  | finite m e =>
    cases b with
    | nan => rfl
    | infinite s' => cases s' <;> rfl
    | finite m' e' =>
      show some (orderFinite m e m' e') = some (compare _ _)
      rw [orderFinite_eq, ← cmp_eq_compare, ← cmp_eq_compare, WithBot.coe_strictMono.cmp_map_eq,
        WithTop.coe_strictMono.cmp_map_eq]

end ExactValue

namespace Number

/-- What a number stands for, nothing if it is not a number. -/
def toExtended? (x : Number) : Option ExtendedRational := x.exact.toExtended?

/-- An integer stands for itself. -/
theorem toExtended?_int (n : Int) :
    (int n).toExtended? = some (((n : ℚ) : WithTop ℚ) : ExtendedRational) := by
  simp only [toExtended?, exact, ExactValue.toExtended?, zpow_zero, mul_one]

/-- What is not a number, and nothing else, stands for nothing. -/
theorem toExtended?_eq_none_iff {x : Number} : x.toExtended? = none ↔ x.exact = .nan := by
  unfold toExtended?
  cases x.exact <;> simp [ExactValue.toExtended?]

/-- Numbers are compared as what they stand for. -/
theorem order?_eq (x y : Number) :
    x.order? y = Option.map₂ compare x.toExtended? y.toExtended? :=
  ExactValue.order?_eq _ _

/-- Numbers are equal exactly if they stand for the same. -/
theorem equals_iff {x y : Number} :
    x.equals y = true ↔ ∃ p, x.toExtended? = some p ∧ y.toExtended? = some p := by
  rw [equals, beq_iff_eq, order?_eq, Option.map₂_eq_some_iff]
  simp only [Option.mem_def, compare_eq_iff_eq]
  constructor
  · rintro ⟨p, q, hx, hy, rfl⟩
    exact ⟨p, hx, hy⟩
  · rintro ⟨p, hx, hy⟩
    exact ⟨p, p, hx, hy, rfl⟩

/-- A number is below another one exactly if it stands for less. -/
theorem lessThan_iff {x y : Number} :
    x.lessThan y = true ↔ ∃ p q, x.toExtended? = some p ∧ y.toExtended? = some q ∧ p < q := by
  rw [lessThan, beq_iff_eq, order?_eq, Option.map₂_eq_some_iff]
  simp only [Option.mem_def, compare_lt_iff_lt]

/-- A number is at most another one exactly if it stands for no more. -/
theorem atMost_iff {x y : Number} :
    x.atMost y = true ↔ ∃ p q, x.toExtended? = some p ∧ y.toExtended? = some q ∧ p ≤ q := by
  rw [atMost, Bool.or_eq_true, lessThan_iff, equals_iff]
  constructor
  · rintro (⟨p, q, hx, hy, hpq⟩ | ⟨p, hx, hy⟩)
    · exact ⟨p, q, hx, hy, hpq.le⟩
    · exact ⟨p, p, hx, hy, le_rfl⟩
  · rintro ⟨p, q, hx, hy, hpq⟩
    rcases hpq.lt_or_eq with hlt | rfl
    · exact .inl ⟨p, q, hx, hy, hlt⟩
    · exact .inr ⟨p, hx, hy⟩

/-- Numbers of the value of the same number are of one value. -/
theorem equals_trans {x y z : Number} (hxy : x.equals y = true) (hyz : y.equals z = true) :
    x.equals z = true := by
  obtain ⟨p, hx, hy⟩ := equals_iff.mp hxy
  obtain ⟨q, hy', hz⟩ := equals_iff.mp hyz
  obtain rfl := Option.some.inj (hy.symm.trans hy')
  exact equals_iff.mpr ⟨p, hx, hz⟩

end Number

end StreamWatch
