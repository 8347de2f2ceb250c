namespace StreamWatch

/-! # Powers of two and ten

Binary and decimal scales are powers of 2 and of 10 with natural exponents. -/

/-- `2 ^ k`. -/
def twoPow (k : Nat) : Nat := Nat.pow 2 k

/-- `10 ^ k`. -/
def tenPow (k : Nat) : Nat := Nat.pow 10 k

/-- No power of two is zero. -/
theorem twoPow_pos (k : Nat) : 0 < twoPow k := Nat.pow_pos (by decide)

/-- No power of ten is zero. -/
theorem tenPow_pos (k : Nat) : 0 < tenPow k := Nat.pow_pos (by decide)

/-- The next power of two is twice as great. -/
theorem twoPow_succ (k : Nat) : twoPow (k + 1) = twoPow k * 2 := rfl

end StreamWatch
