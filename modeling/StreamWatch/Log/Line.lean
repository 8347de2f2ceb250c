import StreamWatch.Log.Entry
import StreamWatch.Log.Fault
import StreamWatch.Table

namespace StreamWatch

/-! # Lines of a log

* `lineOf`, `LogEntry.line`: an entry as a record;
* `taggedRecord`: a record with the component that its source is about;
* `Datum.json`: plain data as JSON, all in ASCII;
* `LogLine`: a printed line, which is a record or some text.
-/

/-- Tags a record with the component that its source is about, if the source has one. A source
    with parts is looked through for a point, and only a text can be cut there. -/
def taggedRecord (fields : Entries) : Except LogFault Entries :=
  match Table.get? "logger" fields with
  | none => .ok fields
  | some (.text source) => .ok (tagged source fields)
  | some (.list items) =>
    if items.any fun item => item.alike (.text ".") then
      .error (.misuse (.noAttribute (Datum.list items).kindName "split"))
    else .ok fields
  | some (.record entries) =>
    if (Table.get? "." entries).isSome then
      .error (.misuse (.noAttribute (Datum.record entries).kindName "split"))
    else .ok fields
  | some other => .error (.misuse (.noParts other.kindName))

/-- A record with its level and its source. -/
def lineOf (level : Level) (source : String) (fields : Entries) : Entries :=
  tagged source
    (Table.set "level" (.text level.name) (Table.set "logger" (.text source) fields))

namespace LogEntry

/-- Is an entry urgent enough to be written? -/
def passes (entry : LogEntry) (threshold : Nat) : Bool := decide (threshold ≤ entry.level.urgency)

/-- An entry as a record: its fields, its event, its source and its level. -/
def line (entry : LogEntry) : Entries :=
  lineOf entry.level entry.source (Table.set "event" (.text entry.event) entry.fields)

end LogEntry

namespace Datum

/-- The escape of a character outside printable ASCII: one or two code units of 16 bits. -/
def jsonUnits (code : Nat) : List Char :=
  let unit (n : Nat) : List Char := '\\' :: 'u' :: Text.hexDigits 4 n
  if code < 0x10000 then unit code
  else
    let rest := code - 0x10000
    unit (0xD800 + rest / 0x400) ++ unit (0xDC00 + rest % 0x400)

/-- A character inside a text. -/
def jsonChar (c : Char) : List Char :=
  match c with
  | '"' => ['\\', '"']
  | '\\' => ['\\', '\\']
  | '\n' => ['\\', 'n']
  | '\r' => ['\\', 'r']
  | '\t' => ['\\', 't']
  | '\x08' => ['\\', 'b']
  | '\x0c' => ['\\', 'f']
  | c => if 0x20 ≤ c.toNat ∧ c.toNat < 0x7F then [c] else jsonUnits c.toNat

/-- A text in quotes. -/
def jsonText (s : String) : String := String.ofList ('"' :: s.toList.flatMap jsonChar ++ ['"'])

/-- A double. What is not finite has a name. -/
def jsonReal (x : Float) : String :=
  match ExactValue.ofFloat x with
  | .nan => "NaN"
  | .infinite negative => if negative then "-Infinity" else "Infinity"
  | .finite _ _ => shortestText x

mutual

/-- Plain data as JSON. -/
def json : Datum → String
  | .null => "null"
  | .bool b => if b then "true" else "false"
  | .int n => toString n
  | .real x => jsonReal x
  | .text s => jsonText s
  | .list items => "[" ++ String.intercalate ", " (jsonItems items) ++ "]"
  | .record entries => "\x7b" ++ String.intercalate ", " (jsonEntries entries) ++ "\x7d"

/-- The items of a list. -/
def jsonItems : List Datum → List String
  | [] => []
  | a :: rest => json a :: jsonItems rest

/-- The entries of a record. -/
def jsonEntries : Entries → List String
  | [] => []
  | (key, a) :: rest => (jsonText key ++ ": " ++ json a) :: jsonEntries rest

end

end Datum

/-- A printed line: an entry as a record, or some text. -/
inductive LogLine where
  | entry (fields : Entries)
  | text (line : String)

/-- A line as it is printed. -/
def LogLine.printed : LogLine → String
  | .entry fields => (Datum.record fields).json
  | .text line => line

end StreamWatch
