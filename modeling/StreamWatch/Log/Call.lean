import StreamWatch.Log.Filling
import StreamWatch.Log.Line

namespace StreamWatch

/-! # Calls of the log

An event is logged by a call that names a source and gives an event, arguments for it, and
fields:

* `LogMethod`: the methods that can be called;
* `LogCall`, `LogCall.linesOf`: a call, and the lines that it leaves in a log.
-/

/-- The methods by which events are logged, each at a level of its own. -/
inductive LogMethod where
  | plain (level : Level)
  /-- Logs an error, and prints what is going wrong at the moment as text of its own. -/
  | trouble
  deriving Repr, DecidableEq

namespace LogMethod

/-- The methods by their names, of which some mean the same. -/
def names : Table LogMethod :=
  [("debug", .plain .debug), ("info", .plain .info), ("warning", .plain .warning),
   ("warn", .plain .warning), ("error", .plain .error), ("exception", .trouble),
   ("critical", .plain .critical), ("fatal", .plain .critical)]

/-- The name of a method in a message. -/
def name : LogMethod → String
  | plain level => level.name
  | trouble => "exception"

/-- The level at which a method logs. -/
def level : LogMethod → Level
  | plain level => level
  | trouble => .error

/-- What is printed of what is going wrong, when nothing is. -/
def noTrouble : String := "NoneType: None"

/-- The lines that a method prints for an entry. -/
def linesOf (method : LogMethod) (entry : Entries) : List LogLine :=
  match method with
  | plain _ => [.entry entry]
  | trouble => [.entry entry, .text noTrouble]

/-- The method of a name. -/
def ofName (name : String) : Except LogFault LogMethod :=
  match Table.get? name names with
  | some method => .ok method
  | none => .error (.misuse (.noAttribute "BoundLogger" name))

end LogMethod

/-- A call that logs an event. -/
structure LogCall where
  /-- The name of the method that is called. -/
  method : String
  source : Datum
  /-- A template for the arguments, if there are any. -/
  event : Datum
  arguments : List Datum
  fields : Entries

namespace LogCall

/-- The name of a source. What is empty stands for the source of all others. -/
def sourceName (source : Datum) : Except LogFault String :=
  match source with
  | .text "" => .ok "root"
  | .text name => .ok name
  | other => if other.truthy then .error .unnamedSource else .ok "root"

/-- A field cannot have the name of a parameter of a method that it is handed to. -/
def checkNames (method : LogMethod) (fields : Entries) : Except LogFault Unit :=
  match (Table.keys fields).find? fun key => key == "self" || key == "event" with
  | some key => .error (.parameterTwice method.name key)
  | none =>
    if (Table.keys fields).contains "method_name" then
      .error (.parameterTwice "_proxy_to_logger" "method_name")
    else .ok ()

/-- The field that arguments can come in. -/
def argumentsKey : String := "positional_args"

/-- What a single datum, given in a field, fills a template with. None is given by what counts
    as false, and a list that holds one record with entries stands for that record. -/
def supplyOf? (given : Datum) : Except LogFault (Option Log.Supply) :=
  if !given.truthy then .ok none
  else
    match given with
    | .list [.record (entry :: others)] => .ok (some (.ofDatum (.record (entry :: others))))
    | .record [_] => .error (.unknownPosition 0)
    | .text _ | .list _ | .record _ => .ok (some (.ofDatum given))
    | other => .error (.misuse (.noLength other.kindName))

/-- The arguments of a call and the name of their kind: its own, or those in a field. -/
def supply? (call : LogCall) : Except LogFault (Option (Log.Supply × String)) :=
  if !call.arguments.isEmpty then
    let kind := match call.arguments with
      | [.record (_ :: _)] => "dict"
      | _ => "tuple"
    .ok (some (.ofList call.arguments, kind))
  else
    match Table.get? argumentsKey call.fields with
    | some given => (supplyOf? given).map fun supply =>
      supply.map fun s => (s, (s.source.getD given).kindName)
    | none => .ok none

/-- The event with its arguments. -/
def filledEvent (call : LogCall) : Except LogFault Datum := do
  match ← call.supply? with
  | none => return call.event
  | some (supply, kind) =>
    match call.event with
    | .text template => return .text (← Log.fill template supply)
    | .null => throw (.unknownKey "event")
    | other => throw (.misuse (.noOperation "%=" other.kindName kind))

/-- The fields without those that only say how to log. -/
def keptFields (fields : Entries) : Entries :=
  let kept := match Table.get? argumentsKey fields with
    | some .null => fields
    | _ => Table.erase argumentsKey fields
  Table.erase "stack_info" (Table.erase "exc_info" kept)

/-- The fields with the event, if there is one. -/
def withEvent (event : Datum) (fields : Entries) : Entries :=
  match event with
  | .null => fields
  | other => Table.set "event" other fields

/-- The name of a source that a field brings along would have to be asked for. -/
def checkRecord (fields : Entries) : Except LogFault Unit :=
  match Table.get? "_record" fields with
  | none | some .null => .ok ()
  | some other => .error (.misuse (.noAttribute other.kindName "name"))

/-- The lines that a call leaves in a log whose entries have to reach a threshold. -/
def linesOf (threshold : Nat) (call : LogCall) : Except LogFault (List LogLine) := do
  let source ← sourceName call.source
  let method ← LogMethod.ofName call.method
  checkNames method call.fields
  if method.level.urgency < threshold then return []
  checkRecord call.fields
  let event ← call.filledEvent
  return method.linesOf (lineOf method.level source (withEvent event (keptFields call.fields)))

/-- The lines that calls leave in a log, up to the first fault. -/
def lines (threshold : Nat) (calls : List LogCall) : Except LogFault (List LogLine) :=
  (calls.mapM (linesOf threshold)).map List.flatten

end LogCall

end StreamWatch
