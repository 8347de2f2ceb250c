import StreamWatch.Simulation.Turn

namespace StreamWatch.Simulation

/-! # Running a simulation

* `World.step`: one turn; when no task is ready, time moves to the next timer;
* `World.run`: turns until the script has ended;
* `World.simulate`: the world after a script;
* `World.allReports`, `World.closing`: the reports on its commands, and how it is closed.
-/

namespace World

/-- Timers that are due within this many seconds fire together. -/
def resolution : Float := 1e-9

/-- Moves time to the next timer, and lets those run out that are due. -/
def moveTime (w : World) (next : Timer) : World :=
  let elapsed := if w.elapsed < next.due then next.due else w.elapsed
  let isDue (timer : Timer) : Bool := timer.due < elapsed + resolution
  { w with
    elapsed := elapsed
    timers := w.timers.dropWhile isDue
    ready := (w.timers.takeWhile isDue).map fun timer => .fire timer.task timer.number }

/-- One turn, unless nothing is left to happen. -/
def step (w : World) : Option World :=
  match w.ready with
  | wake :: rest => some ({ w with ready := rest }.take wake)
  | [] => w.timers.head?.map w.moveTime

/-- Turns until the script has ended, but no more than `fuel`. -/
def run (w : World) : Nat → World
  | 0 => w
  | fuel + 1 =>
    if w.isOver 0 then w
    else
      match w.step with
      | some next => next.run fuel
      | none => w

/-- The world before the first command of a script. -/
def fresh (monitor : Monitor Number) (registry : Registry) (receptions : List Reception)
    (wallStart : Moment) (script : List Command) : World where
  registry := registry
  wallStart := wallStart
  monitor := monitor
  receptions := receptions
  running := false
  loop := none
  elapsed := 0.0
  timerCount := 0
  ready := [.resume 0]
  timers := []
  tasks := #[⟨.script script, .fresh, none, false, [], none⟩]
  events := []
  reports := []

/-- More turns than any script of a sensible length takes. -/
def patience : Nat := 100000000

/-- The world after a script. -/
def simulate (w : World) : World := w.run patience

/-- The reports, the first in front. -/
def allReports (w : World) : List Report := w.reports.reverse

/-- Closes a world after its script. The loop that was started last is ended, and what ended it
    before that comes to light now, if nothing else is heard of it. -/
def closing (w : World) : Except Fault World :=
  match (w.loop.bind fun loop => w.tasks[loop]?).bind Task.fault with
  | some fault => .error fault
  | none => .ok w

/-- The fault that ended a command, if one did. -/
def faultOf? : Result → Option Fault
  | .fault fault => some fault
  | _ => none

/-- A world in which no command of the script had a fault. -/
def withoutFault (w : World) : Except Fault World :=
  match w.allReports.findSome? fun report => faultOf? report.result with
  | some fault => .error fault
  | none => .ok w

/-- Everything that happened, in order. -/
def allEvents (w : World) : List Event :=
  w.allReports.flatMap Report.events ++ w.events.reverse

end World

/-- A monitor whose breaker reads the time of a simulation. -/
def freshMonitor (server : Server) (config : MonitorConfig) (rules : List Rule)
    (hasReceiver : Bool) : Monitor Number :=
  .fresh server config rules hasReceiver (.real config.breakerCooldownSeconds)

end StreamWatch.Simulation
