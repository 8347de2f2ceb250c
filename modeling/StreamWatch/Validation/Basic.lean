import StreamWatch.Given

namespace StreamWatch.Validation

/-! # Validation

What is given becomes a record of the domain only if every part of it is acceptable. All
issues of a record are reported, in the order of its fields, each with the path to the
part it is about:

* `Issue`: a path and what is wrong there;
* `Checked`: a value, or the issues that were found;
* `Supplied`: a part as plain data, which is read, or as a value, which is not looked at again;
* `required`, `defaulted`, `nullable`: reading a field of a record.
-/

/-- A step on the path to a part: a key of a record or an index of a list. -/
inductive PathStep where
  | key (name : String)
  | index (position : Nat)
  deriving Repr, DecidableEq

/-- What can be wrong with a part. -/
inductive IssueKind where
  | missing | recordType | attributesType | listType | entriesType
  | stringType | stringTooShort | stringTooLong | tooShort
  | boolType | boolParsing | intType | intParsing | intParsingSize | intFromFloat | finiteNumber
  | floatType | floatParsing | timestampType | timestampParsing | timestampOrDateParsing
  | greaterThan | greaterThanEqual | lessThan | lessThanEqual
  | choice | literal | tagNotFound | tagInvalid
  deriving Repr, DecidableEq

/-- The name of an issue in a report. -/
def IssueKind.name : IssueKind → String
  | .missing => "missing"
  | .recordType => "model_type"
  | .attributesType => "model_attributes_type"
  | .listType => "list_type"
  | .entriesType => "dict_type"
  | .stringType => "string_type"
  | .stringTooShort => "string_too_short"
  | .stringTooLong => "string_too_long"
  | .tooShort => "too_short"
  | .boolType => "bool_type"
  | .boolParsing => "bool_parsing"
  | .intType => "int_type"
  | .intParsing => "int_parsing"
  | .intParsingSize => "int_parsing_size"
  | .intFromFloat => "int_from_float"
  | .finiteNumber => "finite_number"
  | .floatType => "float_type"
  | .floatParsing => "float_parsing"
  | .timestampType => "datetime_type"
  | .timestampParsing => "datetime_parsing"
  | .timestampOrDateParsing => "datetime_from_date_parsing"
  | .greaterThan => "greater_than"
  | .greaterThanEqual => "greater_than_equal"
  | .lessThan => "less_than"
  | .lessThanEqual => "less_than_equal"
  | .choice => "enum"
  | .literal => "literal_error"
  | .tagNotFound => "union_tag_not_found"
  | .tagInvalid => "union_tag_invalid"

/-- Something wrong, and where. -/
structure Issue where
  path : List PathStep
  kind : IssueKind
  deriving Repr, DecidableEq

/-- A value that was accepted, or the issues that were found instead. -/
inductive Checked (α : Type) where
  | accepted (value : α)
  | refused (issues : List Issue)

namespace Checked

variable {α β : Type}

/-- Applies a checked function, with the issues of both sides, those of the function first. -/
def apply (f : Checked (α → β)) (a : Unit → Checked α) : Checked β :=
  match f, a () with
  | .accepted g, .accepted x => .accepted (g x)
  | .accepted _, .refused issues => .refused issues
  | .refused issues, .accepted _ => .refused issues
  | .refused issues, .refused more => .refused (issues ++ more)

instance : Applicative Checked where
  pure := .accepted
  seq := apply

/-- A refusal with one issue at the part itself. -/
def issue (kind : IssueKind) : Checked α := .refused [⟨[], kind⟩]

/-- Goes on with an accepted value. -/
def andThen (a : Checked α) (f : α → Checked β) : Checked β :=
  match a with
  | .accepted x => f x
  | .refused issues => .refused issues

/-- Puts a step in front of the paths of all issues. -/
def under (step : PathStep) : Checked α → Checked α
  | .accepted x => .accepted x
  | .refused issues => .refused (issues.map fun i => { i with path := step :: i.path })

/-- Accepts a value for which a test succeeds. -/
def guarded (test : α → Bool) (kind : IssueKind) (x : α) : Checked α :=
  if test x then .accepted x else issue kind

/-- The accepted value, if there is one. -/
def toOption : Checked α → Option α
  | .accepted x => some x
  | .refused _ => none

end Checked

/-- How a part is read. -/
abbrev Read (α : Type) := Given → Checked α

variable {α : Type}

/-- A part as plain data, or as a value that was made before. -/
inductive Supplied (α : Type) where
  | plain (data : Given)
  | made (value : α)

/-- Reads a part. A value that was made before is taken as it is. -/
def Supplied.read (read : Read α) : Supplied α → Checked α
  | .plain data => read data
  | .made value => .accepted value

/-- Reads a field that has to be there. -/
def required (key : String) (read : Read α) (entries : Parts) : Checked α :=
  match Table.get? key entries with
  | some d => (read d).under (.key key)
  | none => (Checked.issue .missing).under (.key key)

/-- Reads a field that has a value of its own when it is not there. -/
def defaulted (key : String) (absent : α) (read : Read α) (entries : Parts) : Checked α :=
  match Table.get? key entries with
  | some d => (read d).under (.key key)
  | none => .accepted absent

/-- Reads a part that may be null. -/
def nullable (read : Read α) : Read (Option α)
  | .null => .accepted none
  | d => some <$> read d

/-- Reads a field that may be null or not be there. -/
def optional (key : String) (read : Read α) (entries : Parts) : Checked (Option α) :=
  defaulted key none (nullable read) entries

/-- Reads a record by its entries. -/
def record (read : Parts → Checked α) : Read α
  | .record entries => read entries
  | _ => .issue .recordType

/-- Reads the items of a list from a position on. -/
def itemsFrom (read : Read α) (position : Nat) : List Given → Checked (List α)
  | [] => .accepted []
  | d :: rest =>
    List.cons <$> (read d).under (.index position) <*> itemsFrom read (position + 1) rest

/-- Reads a list, item by item. -/
def list (read : Read α) : Read (List α)
  | .list items => itemsFrom read 0 items
  | _ => .issue .listType

/-- Reads the values of a record whose keys are free. -/
def valuesOf (read : Read α) : Parts → Checked (List (String × α))
  | [] => .accepted []
  | (key, d) :: rest =>
    (fun x others => (key, x) :: others) <$> (read d).under (.key key) <*> valuesOf read rest

/-- Reads a record whose keys are free. -/
def entriesOf (read : Read α) : Read (List (String × α))
  | .record entries => valuesOf read entries
  | _ => .issue .entriesType

end StreamWatch.Validation
