import StreamWatch.Datum

namespace StreamWatch

/-! # Log entries

* `Level`: how urgent an entry is;
* `LogEntry`: an event with its level, its source and its fields. The part of a source's
  name after the first point is the component that the entry is about.
-/

/-- How urgent an entry is. -/
inductive Level where
  | debug | info | warning | error | critical
  deriving Repr, DecidableEq

namespace Level

/-- The name of a level. -/
def name : Level → String
  | debug => "debug"
  | info => "info"
  | warning => "warning"
  | error => "error"
  | critical => "critical"

/-- The urgency of a level. -/
def urgency : Level → Nat
  | debug => 10
  | info => 20
  | warning => 30
  | error => 40
  | critical => 50

end Level

/-- An event that is logged. -/
structure LogEntry where
  level : Level
  source : String
  event : String
  fields : Entries

/-- The part of a source's name after its first point, if there is a point. -/
def componentOf? (source : String) : Option String :=
  match source.toList.dropWhile (· != '.') with
  | _ :: rest => some (String.ofList rest)
  | [] => none

/-- Tags a record with the component that a source is about, if there is one. -/
def tagged (source : String) (fields : Entries) : Entries :=
  match componentOf? source with
  | some component => Table.set "component" (.text component) fields
  | none => fields

end StreamWatch
