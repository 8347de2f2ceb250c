import StreamWatch.Rule.Basic
import StreamWatch.Validation.Scalar

namespace StreamWatch

open Validation

/-! # Rules as they are given

An expected value keeps its kind: a truth value, an integer, a double, a text or a list. A
refused one is reported once for each kind that it could have been. The kind of an action is
read first, and decides which fields the action has. -/

namespace ExpectedItem

/-- Reads an item of a list of expected values. A truth value counts as 1 or 0. -/
def ofGiven : Read ExpectedItem
  | .int n => .accepted (.int n)
  | .bool b => .accepted (.int (if b then 1 else 0))
  | .real x => .accepted (.real x)
  | .text s => .accepted (.text s)
  | _ => .refused [
      ⟨[.key "int"], .intType⟩, ⟨[.key "float"], .floatType⟩, ⟨[.key "str"], .stringType⟩]

end ExpectedItem

namespace ExpectedValue

/-- The issues of a value that is of no single kind. -/
def singleKindIssues : List Issue :=
  [⟨[.key "bool"], .boolType⟩, ⟨[.key "int"], .intType⟩, ⟨[.key "float"], .floatType⟩,
   ⟨[.key "str"], .stringType⟩]

/-- The step that stands for the list kind in the path of an issue. -/
def listKind : PathStep := .key "list[union[int,float,str]]"

/-- Reads an expected value. -/
def ofGiven : Read ExpectedValue
  | .bool b => .accepted (.bool b)
  | .int n => .accepted (.int n)
  | .real x => .accepted (.real x)
  | .text s => .accepted (.text s)
  | .list items =>
    match (itemsFrom ExpectedItem.ofGiven 0 items).under listKind with
    | .accepted kept => .accepted (.list kept)
    | .refused issues => .refused (singleKindIssues ++ issues)
  | _ => .refused (singleKindIssues ++ [⟨[listKind], .listType⟩])

end ExpectedValue

namespace ConditionParams

/-- Reads the settings of a condition. -/
def ofGiven : Read ConditionParams := record fun r => mk <$> optional "window_hours" (intAbove 0) r

/-- Writes the settings of a condition. -/
def toGiven (p : ConditionParams) : Given :=
  .record [("window_hours", .ofOption .int p.windowHours)]

end ConditionParams

namespace Condition

/-- Reads a condition. -/
def ofGiven : Read Condition := record fun r =>
  mk <$> required "field" text r
    <*> required "operator" text r
    <*> required "value" ExpectedValue.ofGiven r
    <*> optional "params" ConditionParams.ofGiven r

/-- Writes a condition. -/
def toGiven (c : Condition) : Given :=
  .record [
    ("field", .text c.field),
    ("operator", .text c.operator),
    ("value", c.value.toDatum.given),
    ("params", .ofOption ConditionParams.toGiven c.params)]

end Condition

namespace ConditionGroup

/-- Reads a group. -/
def ofGiven : Read ConditionGroup := record fun r =>
  mk <$> defaulted "conditions" [] (list Condition.ofGiven) r

/-- Writes a group. -/
def toGiven (g : ConditionGroup) : Given :=
  .record [("conditions", .ofList Condition.toGiven g.conditions)]

end ConditionGroup

namespace RuleConditions

/-- Reads the conditions of a rule. -/
def ofGiven : Read RuleConditions := record fun r =>
  mk <$> defaulted "groups" [] (list ConditionGroup.ofGiven) r

/-- Writes the conditions of a rule. -/
def toGiven (c : RuleConditions) : Given :=
  .record [("groups", .ofList ConditionGroup.toGiven c.groups)]

end RuleConditions

/-! ### Actions -/

namespace Action

/-- Reads the minutes in which an action is not repeated. -/
def cooldownField (r : Parts) : Checked (Option Int) := optional "cooldown_minutes" (intAbove 0) r

/-- Reads the fields of an action of a kind. -/
def fieldsOf (kind : ActionKind) (r : Parts) : Checked Action :=
  match kind with
  | .createViolation =>
    createViolation
      <$> required "severity" (oneOf .literal Severity.name [.low, .warning, .high]) r
      <*> cooldownField r
  | .logOnly => logOnly <$> optional "message" (textOfLength 0 500) r
  | .notify =>
    notify
      <$> required "channels" (fun d =>
          (list (oneOf .literal Channel.name [.push, .discord, .email, .webhook]) d).andThen
            (Checked.guarded (fun channels => !channels.isEmpty) .tooShort)) r
      <*> cooldownField r
  | .adjustTrust => adjustTrust <$> required "amount" (intBetween (-100) 100) r
  | .setTrust => setTrust <$> required "value" (intBetween 0 100) r
  | .resetTrust => .accepted resetTrust
  | .killStream =>
    killStream <$> optional "delay_seconds" (intBetween 0 300) r
      <*> optional "require_confirmation" bool r
      <*> cooldownField r
  | .messageClient => messageClient <$> required "message" (textOfLength 1 500) r

/-- Reads an action whose kind is known, so that it may be left out. -/
def ofGivenOfKind (kind : ActionKind) : Read Action := record fun r =>
  (fun _ action => action) <$> defaulted "type" kind (oneOf .literal ActionKind.name [kind]) r
    <*> fieldsOf kind r

/-- Reads an action by its kind. -/
def ofGiven : Read Action
  | .record r =>
    match Table.get? "type" r with
    | none => .issue .tagNotFound
    | some tag =>
      match oneOf .tagInvalid ActionKind.name ActionKind.all tag with
      | .accepted kind => (fieldsOf kind r).under (.key kind.name)
      | .refused issues => .refused issues
  | _ => .issue .attributesType

/-- The fields of an action besides its kind. -/
def entries : Action → Parts
  | .createViolation severity cooldown =>
    [("severity", .text severity.name), ("cooldown_minutes", .ofOption .int cooldown)]
  | .logOnly message => [("message", .ofOption .text message)]
  | .notify channels cooldown =>
    [("channels", .ofList (fun c => .text c.name) channels),
     ("cooldown_minutes", .ofOption .int cooldown)]
  | .adjustTrust amount => [("amount", .int amount)]
  | .setTrust value => [("value", .int value)]
  | .resetTrust => []
  | .killStream delay confirmation cooldown =>
    [("delay_seconds", .ofOption .int delay), ("require_confirmation", .ofOption .bool confirmation),
     ("cooldown_minutes", .ofOption .int cooldown)]
  | .messageClient message => [("message", .text message)]

/-- Writes an action. -/
def toGiven (a : Action) : Given := .record (("type", .text a.kind.name) :: a.entries)

end Action

namespace RuleActions

/-- Reads the actions of a rule. -/
def ofGiven : Read RuleActions := record fun r =>
  mk <$> defaulted "actions" [] (list Action.ofGiven) r

/-- Writes the actions of a rule. -/
def toGiven (a : RuleActions) : Given := .record [("actions", .ofList Action.toGiven a.actions)]

end RuleActions

/-- Reads any part as it is. -/
def Validation.anything : Read Given := .accepted

namespace Rule

/-- Reads a rule. -/
def ofGiven : Read Rule := record fun r =>
  mk <$> required "id" text r
    <*> required "name" text r
    <*> optional "description" text r
    <*> defaulted "is_active" true bool r
    <*> optional "server_id" text r
    <*> optional "conditions" RuleConditions.ofGiven r
    <*> optional "actions" RuleActions.ofGiven r
    <*> optional "type" text r
    <*> optional "params" (entriesOf anything) r

/-- Writes a rule. -/
def toGiven (rule : Rule) : Given :=
  .record [
    ("id", .text rule.id),
    ("name", .text rule.name),
    ("description", .ofOption .text rule.description),
    ("is_active", .bool rule.isActive),
    ("server_id", .ofOption .text rule.serverId),
    ("conditions", .ofOption RuleConditions.toGiven rule.conditions),
    ("actions", .ofOption RuleActions.toGiven rule.actions),
    ("type", .ofOption .text rule.legacyType),
    ("params", .ofOption .record rule.legacyParams)]

end Rule

end StreamWatch
