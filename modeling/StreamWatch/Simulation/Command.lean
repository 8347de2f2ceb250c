import StreamWatch.Monitor.Basic
import StreamWatch.Validation.Basic

namespace StreamWatch.Simulation

/-! # Scripts for a monitor

A simulation drives a monitor by a script:

* `Command`: what is asked of the monitor, or of the time that passes;
* `waitOf`: how long a wait is, of which the seconds come as plain data;
* `Reception`: what the receiver of matches does with one of them;
* `Result`, `Event`, `Report`: what comes of a command, and what happened meanwhile.
-/

/-- A command of a script. Where a time is not given, the wall clock is read. -/
inductive Command where
  | startSession (session : Session) (user : User) (now : Option Timestamp)
  | update (id : Datum) (stateName : String) (position : Datum) (now : Option Timestamp)
  | stopSession (id : Datum) (stoppedAt : Option Timestamp) (forced : Datum)
  | sweep (now : Option Timestamp)
  | setRules (rules : List Rule)
  | flush
  /-- Starts a loop that flushes and sweeps in the background. -/
  | start
  /-- Ends the loop that was started last, and flushes. -/
  | stop
  | pause (seconds : Datum)
  /-- Commands that are carried out side by side. -/
  | together (commands : List Command)
  /-- A command that could not be read. -/
  | malformed (issues : List Validation.Issue)

/-- The seconds of a wait. Only a number is a length of time, and one that is to be waited for
    has to be near to some double. -/
def waitOf (seconds : Datum) : Except Fault Number :=
  match seconds.count? with
  | none => .error (.misuse (.noOrder "<=" seconds.kindName "int"))
  | some n => if n.atMost (.int 0) then .ok n else n.double.map fun _ => n

/-- What the receiver does with a match: it may wait for some seconds, and then it receives
    the match, unless it refuses it for a reason. -/
structure Reception where
  wait : Option Number
  refusal : Option String

namespace Reception

/-- A match that is received at once. -/
def standard : Reception := ⟨none, none⟩

/-- How a receiver puts a refusal where nothing else is the matter. -/
def unavailable : String := "dispatcher unavailable"

/-- A match that is received or refused after a wait. A length of time that nobody can wait for
    is a reason to refuse it at once. -/
def after (seconds : Datum) (refusal : Option String) : Reception :=
  match waitOf seconds with
  | .ok n => ⟨some n, refusal⟩
  | .error fault => ⟨none, some fault.message⟩

end Reception

/-- What comes of a command. -/
inductive Result where
  | nothing
  | verdicts (found : List Verdict)
  | session (updated : Option Session)
  | stopped (result : Option StopResult)
  | swept (results : List StopResult)
  | all (results : List Result)
  | fault (fault : Fault)
  | malformed (issues : List Validation.Issue)

/-- Something that happens in a simulation. -/
inductive Event where
  | noted (notice : Notice Number)
  | called (condition : Condition)
  | received (delivered : Match)

/-- What came of a command, the monitor after it, and what happened since the command
    before. -/
structure Report where
  result : Result
  monitor : Monitor Number
  events : List Event

/-- The result of an operation that may have a fault. -/
def Result.ofExcept {α : Type} (write : α → Result) : Except Fault α → Result
  | .ok a => write a
  | .error problem => Result.fault problem

end StreamWatch.Simulation
