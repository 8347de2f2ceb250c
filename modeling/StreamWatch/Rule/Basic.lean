import StreamWatch.Given

namespace StreamWatch

/-! # Rules

A rule names the conditions under which a session is suspect and the actions to take:

* `Condition`: a field, an operator and an expected value; both names are kept as they
  are, so that an unknown one can reach the engine and fail to match there;
* `ConditionGroup`: holds if one of its conditions does, or if it has none;
* `RuleConditions`: hold if all their groups do;
* `Action`: what a matching rule asks for;
* `Rule`: conditions and actions, for one server or for all.
-/

/-- An item of a list of expected values. -/
inductive ExpectedItem where
  | int (value : Int)
  | real (value : Float)
  | text (value : String)

/-- The value that a condition expects. -/
inductive ExpectedValue where
  | bool (value : Bool)
  | int (value : Int)
  | real (value : Float)
  | text (value : String)
  | list (items : List ExpectedItem)

/-- An expected item as plain data. -/
def ExpectedItem.toDatum : ExpectedItem → Datum
  | .int n => .int n
  | .real x => .real x
  | .text s => .text s

/-- An expected value as plain data. -/
def ExpectedValue.toDatum : ExpectedValue → Datum
  | .bool b => .bool b
  | .int n => .int n
  | .real x => .real x
  | .text s => .text s
  | .list items => .list (items.map ExpectedItem.toDatum)

/-- The settings of a condition: how far back a field looks. -/
structure ConditionParams where
  windowHours : Option Int

/-- A test of one field of a session's context. -/
structure Condition where
  field : String
  operator : String
  value : ExpectedValue
  params : Option ConditionParams

/-- Conditions of which one has to hold. -/
structure ConditionGroup where
  conditions : List Condition

/-- Groups that all have to hold. -/
structure RuleConditions where
  groups : List ConditionGroup

/-! ### Actions -/

/-- How grave a violation is. -/
inductive Severity where
  | low | warning | high
  deriving Repr, DecidableEq

/-- The name of a severity. -/
def Severity.name : Severity → String
  | .low => "low"
  | .warning => "warning"
  | .high => "high"

/-- The ways to notify. -/
inductive Channel where
  | push | discord | email | webhook
  deriving Repr, DecidableEq

/-- The name of a channel. -/
def Channel.name : Channel → String
  | .push => "push"
  | .discord => "discord"
  | .email => "email"
  | .webhook => "webhook"

/-- What a matching rule asks for. -/
inductive Action where
  | createViolation (severity : Severity) (cooldownMinutes : Option Int)
  | logOnly (message : Option String)
  | notify (channels : List Channel) (cooldownMinutes : Option Int)
  | adjustTrust (amount : Int)
  | setTrust (value : Int)
  | resetTrust
  | killStream (delaySeconds : Option Int) (requireConfirmation : Option Bool)
      (cooldownMinutes : Option Int)
  | messageClient (message : String)
  deriving Repr, DecidableEq

/-- The kinds of action. -/
inductive ActionKind where
  | createViolation | logOnly | notify | adjustTrust | setTrust | resetTrust | killStream
  | messageClient
  deriving Repr, DecidableEq

/-- The name of a kind of action. -/
def ActionKind.name : ActionKind → String
  | .createViolation => "create_violation"
  | .logOnly => "log_only"
  | .notify => "notify"
  | .adjustTrust => "adjust_trust"
  | .setTrust => "set_trust"
  | .resetTrust => "reset_trust"
  | .killStream => "kill_stream"
  | .messageClient => "message_client"

/-- Every kind of action. -/
def ActionKind.all : List ActionKind :=
  [.createViolation, .logOnly, .notify, .adjustTrust, .setTrust, .resetTrust, .killStream,
   .messageClient]

/-- The kind of an action. -/
def Action.kind : Action → ActionKind
  | .createViolation .. => .createViolation
  | .logOnly .. => .logOnly
  | .notify .. => .notify
  | .adjustTrust .. => .adjustTrust
  | .setTrust .. => .setTrust
  | .resetTrust => .resetTrust
  | .killStream .. => .killStream
  | .messageClient .. => .messageClient

/-- The actions of a rule. -/
structure RuleActions where
  actions : List Action

/-- A rule. One without conditions comes from an older form, of which only the type and
    its settings are kept; it never matches. -/
structure Rule where
  id : String
  name : String
  description : Option String
  isActive : Bool
  serverId : Option String
  conditions : Option RuleConditions
  actions : Option RuleActions
  legacyType : Option String
  legacyParams : Option Parts

namespace Rule

/-- Does a rule apply to a server? An active one does, if it names that server or none. -/
def appliesTo (rule : Rule) (serverId : String) : Bool :=
  rule.isActive && (rule.serverId.isNone || rule.serverId == some serverId)

/-- The actions that a rule declares. -/
def declaredActions (rule : Rule) : List Action :=
  match rule.actions with
  | some declared => declared.actions
  | none => []

end Rule

end StreamWatch
