import StreamWatch.Rule.Basic
import StreamWatch.Session

namespace StreamWatch

/-! # What rules are evaluated on

* `SessionContext`: a session with everything that conditions may look at;
* `EvaluationContext`: such a context together with the rule that is being evaluated;
* `Verdict`: what the evaluation of a rule says.
-/

/-- A session with what surrounds it: the sessions that are active anywhere, and the
    recent ones of the same user. -/
structure SessionContext where
  session : Session
  user : User
  server : Server
  activeSessions : List Session
  recentSessions : List Session
  now : Moment

/-- A context and the rule that is evaluated in it. -/
structure EvaluationContext extends SessionContext where
  rule : Rule

/-- What the evaluation of a rule says: whether it matched, by which groups, and the
    actions that it then asks for. -/
structure Verdict where
  ruleId : String
  ruleName : String
  matched : Bool
  matchedGroups : List Int
  actions : List Action

end StreamWatch
