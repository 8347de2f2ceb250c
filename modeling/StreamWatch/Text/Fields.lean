namespace StreamWatch.Text

/-! # Fields of a text

A text is cut into the fields between the places of a separator; there is one field more
than there are separators. Decimal fields are read in ASCII digits only, and not without end. -/

/-- The fields between the separators, in order. -/
def fields (separator : Char) : List Char → List (List Char)
  | [] => [[]]
  | c :: rest =>
    match fields separator rest with
    | [] => [[c]]
    | field :: others =>
      if c = separator then [] :: field :: others else (c :: field) :: others

/-- The number that a list of ASCII digits writes to base 10. -/
def digitsValue (digits : List Char) : Nat :=
  digits.foldl (fun n c => 10 * n + (c.toNat - '0'.toNat)) 0

/-- The number that a field of one ASCII digit or more writes. -/
def decimal? (field : List Char) : Option Nat :=
  if !field.isEmpty && field.all Char.isDigit then some (digitsValue field) else none

/-- The most digits that are read as one integer. -/
def maxIntegerLength : Nat := 4300

end StreamWatch.Text
