import StreamWatch.Datum
import StreamWatch.Time.Timestamp

namespace StreamWatch

/-! # What is given for a record

A record is made of plain data, in which timestamps may also stand as such:

* `Given`: plain data with timestamps;
* `Datum.given`: plain data as what is given.
-/

/-- Plain data in which there may be timestamps. Records keep the order of their entries. -/
inductive Given where
  | null
  | bool (value : Bool)
  | int (value : Int)
  | real (value : Float)
  | text (value : String)
  | time (value : Timestamp)
  | list (items : List Given)
  | record (entries : List (String × Given))
  deriving Inhabited

/-- The entries of a record that is given, in order. -/
abbrev Parts := Table Given

namespace Given

/-- A value that may be missing as it is given. -/
def ofOption {α : Type} (write : α → Given) : Option α → Given
  | some a => write a
  | none => .null

/-- A list of values as it is given. -/
def ofList {α : Type} (write : α → Given) (items : List α) : Given := .list (items.map write)

end Given

namespace Datum

mutual

/-- Plain data as what is given. -/
def given : Datum → Given
  | .null => .null
  | .bool b => .bool b
  | .int n => .int n
  | .real x => .real x
  | .text s => .text s
  | .list items => .list (givenItems items)
  | .record entries => .record (givenEntries entries)

/-- The items of a list as they are given. -/
def givenItems : List Datum → List Given
  | [] => []
  | a :: rest => given a :: givenItems rest

/-- The entries of a record as they are given. -/
def givenEntries : Entries → Parts
  | [] => []
  | (key, a) :: rest => (key, given a) :: givenEntries rest

end

/-- The items of a list are given one by one. -/
@[simp] theorem given_list (items : List Datum) : (list items).given = .list (items.map given) := by
  have hitems : givenItems items = items.map given := by
    induction items with
    | nil => rfl
    | cons a rest ih => rw [givenItems, ih, List.map_cons]
  rw [given, hitems]

/-- A value that may be missing is given if it is there. -/
@[simp] theorem given_ofOption {α : Type} (write : α → Datum) (o : Option α) :
    (Datum.ofOption write o).given = .ofOption (fun x => (write x).given) o := by
  cases o <;> rfl

end Datum

end StreamWatch
