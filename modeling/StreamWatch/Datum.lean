import StreamWatch.Number.Basic
import StreamWatch.Number.Notation
import StreamWatch.Table
import StreamWatch.Text.Quoted

namespace StreamWatch

/-! # Plain data

Reports reach the watch as plain data, and settings, conditions and answers are written
as plain data again:

* `Datum`: nothing, a truth value, a number, a text, a list or a record;
* `Datum.alike`: equality of plain data, in which the truth values count as 1 and 0;
* `Datum.truthy`, `Datum.orElse`: which data count as true;
* `Datum.kindName`: the name of a datum's kind in a message;
* `Datum.display`: the text of a datum in a message.
-/

/-- A piece of plain data. Records keep the order of their entries. -/
inductive Datum where
  | null
  | bool (value : Bool)
  | int (value : Int)
  | real (value : Float)
  | text (value : String)
  | list (items : List Datum)
  | record (entries : List (String × Datum))
  deriving Inhabited

/-- The entries of a record, in order. -/
abbrev Entries := Table Datum

namespace Datum

/-- A number as a datum. -/
def ofNumber : Number → Datum
  | .int n => .int n
  | .real x => .real x

/-- A value that may be missing as a datum. -/
def ofOption {α : Type} (write : α → Datum) : Option α → Datum
  | some a => write a
  | none => .null

/-- A list of values as a datum. -/
def ofList {α : Type} (write : α → Datum) (items : List α) : Datum := .list (items.map write)

/-- The number that a datum is. A truth value is none. -/
def number? : Datum → Option Number
  | .int n => some (.int n)
  | .real x => some (.real x)
  | _ => none

/-- The number that a datum counts as where truth values are 1 and 0. -/
def count? : Datum → Option Number
  | .bool b => some (.int (if b then 1 else 0))
  | .int n => some (.int n)
  | .real x => some (.real x)
  | _ => none

mutual

/-- Are two data equal, the truth values counting as 1 and 0 and the order of a record's
    entries not counting? -/
def alike : Datum → Datum → Bool
  | .null, .null => true
  | .text a, .text b => a == b
  | .list as, .list bs => alikeItems as bs
  | .record as, .record bs => as.length == bs.length && alikeEntries as bs
  | a, b =>
    match a.count?, b.count? with
    | some x, some y => x.equals y
    | _, _ => false

/-- Are two lists equal, item by item? -/
def alikeItems : List Datum → List Datum → Bool
  | [], [] => true
  | a :: as, b :: bs => alike a b && alikeItems as bs
  | _, _ => false

/-- Does every entry stand in the other record with an equal value? -/
def alikeEntries : Entries → Entries → Bool
  | [], _ => true
  | (key, a) :: rest, others =>
    (match Table.get? key others with
      | some b => alike a b
      | none => false) && alikeEntries rest others

end

/-- Does a datum count as true? Nothing, no, zero and what is empty do not. -/
def truthy : Datum → Bool
  | .null => false
  | .bool b => b
  | .int n => n != 0
  | .real x => (Number.real x).nonzero
  | .text s => !s.isEmpty
  | .list items => !items.isEmpty
  | .record entries => !entries.isEmpty

/-- The first of two data if it counts as true, and else the second. -/
def orElse (d other : Datum) : Datum := if d.truthy then d else other

/-- The name of a datum's kind in a message. -/
def kindName : Datum → String
  | .null => "NoneType"
  | .bool _ => "bool"
  | .int _ => "int"
  | .real _ => "float"
  | .text _ => "str"
  | .list _ => "list"
  | .record _ => "dict"

mutual

/-- The text of a datum inside another one. -/
def displayInner : Datum → String
  | .null => "None"
  | .bool b => if b then "True" else "False"
  | .int n => toString n
  | .real x => shortestText x
  | .text s => Text.quoted s
  | .list items => "[" ++ String.intercalate ", " (displayItems items) ++ "]"
  | .record entries => "\x7b" ++ String.intercalate ", " (displayEntries entries) ++ "\x7d"

/-- The texts of the items of a list. -/
def displayItems : List Datum → List String
  | [] => []
  | a :: rest => displayInner a :: displayItems rest

/-- The texts of the entries of a record. -/
def displayEntries : Entries → List String
  | [] => []
  | (key, a) :: rest => (Text.quoted key ++ ": " ++ displayInner a) :: displayEntries rest

end

/-- The text of a datum in a message: a text stands without quotes. -/
def display : Datum → String
  | .text s => s
  | other => displayInner other

end Datum

end StreamWatch
