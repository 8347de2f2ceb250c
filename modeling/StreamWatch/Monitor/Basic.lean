import StreamWatch.Lifecycle
import StreamWatch.Monitor.Notice
import StreamWatch.Rule.Context
import StreamWatch.Table

namespace StreamWatch

/-! # The state of a monitor

A monitor watches the sessions of one server. It keeps the active sessions, a bounded history
of stopped sessions for each user, and the matches that wait to be handed over:

* `Monitor`: the state, over a type of times for its breaker;
* `Outcome`: what an operation comes to. An operation with a fault may have done a part of
  its work, so there is a state in any case.
-/

/-- A verdict and the session that it is about. -/
structure Match where
  verdict : Verdict
  session : Session

/-- The state of a monitor. -/
structure Monitor (τ : Type) where
  server : Server
  config : MonitorConfig
  /-- Is there somebody to hand matches over to? -/
  hasReceiver : Bool
  rules : List Rule
  /-- The active sessions, by their ids. -/
  active : Table Session
  /-- The ids of the sessions that have a lock. Reports may change these only. -/
  locks : List String
  /-- The stopped sessions of each user, the one stopped first in front. -/
  history : Table (List Session)
  /-- The matches that wait, the oldest in front. -/
  pending : List Match
  breaker : Breaker τ

/-- What an operation comes to: the monitor after it, its result and its notices. -/
structure Outcome (τ α : Type) where
  monitor : Monitor τ
  result : Except Fault α
  notices : List (Notice τ)

namespace Outcome

variable {τ α β : Type}

/-- Goes on after an operation, unless it had a fault. -/
def andThen (first : Outcome τ α) (next : α → Monitor τ → Outcome τ β) : Outcome τ β :=
  match first.result with
  | .ok a =>
    let second := next a first.monitor
    { second with notices := first.notices ++ second.notices }
  | .error fault => ⟨first.monitor, .error fault, first.notices⟩

/-- Another result of the same operation. -/
def map (f : α → β) (outcome : Outcome τ α) : Outcome τ β :=
  { outcome with result := outcome.result.map f }

end Outcome

namespace Monitor

variable {τ : Type}

/-- A monitor that has not seen anything yet. -/
def fresh (server : Server) (config : MonitorConfig) (rules : List Rule) (hasReceiver : Bool)
    (cooldown : τ) : Monitor τ where
  server := server
  config := config
  hasReceiver := hasReceiver
  rules := rules
  active := []
  locks := []
  history := []
  pending := []
  breaker := .fresh (.int config.breakerThreshold) cooldown

/-- An operation that only has a result. -/
def unchanged {α : Type} (m : Monitor τ) (result : α) : Outcome τ α := ⟨m, .ok result, []⟩

/-- An operation that only has a notice and a result. -/
def noted {α : Type} (m : Monitor τ) (notice : MonitorNotice) (result : α) : Outcome τ α :=
  ⟨m, .ok result, [.monitor notice]⟩

/-- The active sessions, in the order in which they started. -/
def activeSessions (m : Monitor τ) : List Session := m.active.values

/-- The stopped sessions of a user, the one stopped first in front. -/
def historyOf (m : Monitor τ) (userId : String) : List Session :=
  (m.history.get? userId).getD []

/-- Has a session a lock? -/
def isLocked (m : Monitor τ) (id : String) : Bool := m.locks.contains id

/-- The monitor with other rules. What is being evaluated goes on with the old ones. -/
def setRules (m : Monitor τ) (rules : List Rule) : Monitor τ := { m with rules := rules }

end Monitor

end StreamWatch
