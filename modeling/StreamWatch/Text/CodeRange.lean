namespace StreamWatch.Text

/-! # Ranges of code points

A class of characters is a list of closed ranges of code points. -/

/-- A closed range of code points. -/
abbrev CodeRange := Nat × Nat

/-- Is a character in one of the ranges? -/
def inRanges (ranges : List CodeRange) (c : Char) : Bool :=
  ranges.any fun r => decide (r.1 ≤ c.toNat) && decide (c.toNat ≤ r.2)

end StreamWatch.Text
