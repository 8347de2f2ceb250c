import StreamWatch.Number.Basic

namespace StreamWatch.Number

/-!
# The order of integers as numbers

Numbers are compared by their exact values, and those of integers are the integers themselves:

* `order?_int` — two integers are always in order;
* `lessThan_int`, `equals_int`, `atMost_int` — by which the relations of numbers are those of
  integers.
-/

/-- The order of integers is that of the numbers that they are. -/
theorem order?_int (a n : Int) : (int a).order? (int n) = some (compare a n) := by
  have hscale : ((twoPow (0 - 0 : Int).toNat : Nat) : Int) = 1 := rfl
  simp only [order?, exact, ExactValue.order?, ExactValue.orderFinite, hscale, Int.mul_one]

/-- An integer is below another one as a number exactly if it is below it. -/
theorem lessThan_int (a n : Int) : (int a).lessThan (int n) = decide (a < n) := by
  rw [lessThan, order?_int, Bool.eq_iff_iff]
  simp only [beq_iff_eq, Option.some.injEq, Int.compare_eq_lt, decide_eq_true_eq]

/-- Integers are equal as numbers exactly if they are equal. -/
theorem equals_int (a n : Int) : (int a).equals (int n) = decide (a = n) := by
  rw [equals, order?_int, Bool.eq_iff_iff]
  simp only [beq_iff_eq, Option.some.injEq, Int.compare_eq_eq, decide_eq_true_eq]

/-- An integer is at most another one as a number exactly if it is at most that one. -/
theorem atMost_int (a n : Int) : (int a).atMost (int n) = decide (a ≤ n) := by
  rw [atMost, lessThan_int, equals_int, Bool.eq_iff_iff]
  simp only [Bool.or_eq_true, decide_eq_true_eq]
  omega

end StreamWatch.Number
