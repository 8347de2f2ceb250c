namespace StreamWatch

/-! # Misuse of plain data

Plain data can be of a kind that a calculation has no use for. `Misuse` has one constructor per
thing that cannot be done with it; kinds of data go by the names that messages use. -/

/-- What cannot be done with data of some kind. -/
inductive Misuse where
  /-- Something is looked for inside a datum that has no parts. -/
  | noParts (kind : String)
  /-- A datum is asked for something that its kind does not have. -/
  | noAttribute (kind name : String)
  /-- The length of a datum that has none. -/
  | noLength (kind : String)
  /-- An operation on two data that their kinds do not have. -/
  | noOperation (operator left right : String)
  /-- An order of two data that their kinds do not have. -/
  | noOrder (operator left right : String)
  /-- A list or a record where a name is looked up. -/
  | notAName (kind : String)
  /-- A length of time that is no number of seconds. -/
  | notSeconds (kind : String)
  /-- A datum of some kind as the number of an item of a list. -/
  | noKeys (kind : String)
  /-- A datum of some kind as a count. -/
  | notACount (kind : String)
  /-- A datum where a number is needed. -/
  | notReal (kind : String)
  /-- An operation on a time with an offset and one without. -/
  | mixedOffsets (operation : String)
  deriving Repr, DecidableEq

/-- The wording of a misuse. -/
def Misuse.message : Misuse → String
  | .noParts kind => "argument of type '" ++ kind ++ "' is not iterable"
  | .noAttribute kind name => "'" ++ kind ++ "' object has no attribute '" ++ name ++ "'"
  | .noLength kind => "object of type '" ++ kind ++ "' has no len()"
  | .noOperation operator left right =>
    "unsupported operand type(s) for " ++ operator ++ ": '" ++ left ++ "' and '" ++ right ++ "'"
  | .noOrder operator left right =>
    "'" ++ operator ++ "' not supported between instances of '" ++ left ++ "' and '" ++ right ++
      "'"
  | .notAName kind => "unhashable type: '" ++ kind ++ "'"
  | .notSeconds kind => "unsupported type for timedelta seconds component: " ++ kind
  | .noKeys kind => "list indices must be integers or slices, not " ++ kind
  | .notACount kind => "'" ++ kind ++ "' object cannot be interpreted as an integer"
  | .notReal kind => "must be real number, not " ++ kind
  | .mixedOffsets operation =>
    "can't " ++ operation ++ " offset-naive and offset-aware datetimes"

end StreamWatch
