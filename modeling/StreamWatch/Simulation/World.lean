import StreamWatch.Simulation.Command

namespace StreamWatch.Simulation

/-! # The world of a simulation

Tasks take turns. A task runs until it has to wait, and the tasks that may go on do so in the
order in which they became ready. Time stands still while a task is ready, and then moves to
the next timer:

* `Task`: what a task is for, and what it waits for;
* `World`: the tasks, the time, and the monitor that they work on;
* `World.sleep`, `World.spawn`, `World.finish`, `World.cancel`: how tasks wait and end.

Nothing here decides what an operation of the monitor comes to.
-/

/-- What a task is for. -/
inductive Role where
  /-- Carries commands out one after the other. -/
  | script (rest : List Command)
  /-- Carries out one of the commands that another task has begun side by side. -/
  | branch (parent slot : Nat) (command : Command)
  /-- Flushes and sweeps again and again. -/
  | loop
  /-- Tests a condition for another task. -/
  | probe (parent : Nat) (probe : Probe)

/-- How far a task is. -/
inductive Activity where
  | fresh
  | pausing
  /-- Waits for the probes of a round, after which the other rounds follow. -/
  | evaluating (session : Session) (found : List Verdict) (rounds : List (List Probe))
      (left : Nat)
  /-- Waits for the reception of the first match of a batch. -/
  | handing (batch : List Match) (reception : Reception)
  /-- Waits for the end of a loop. -/
  | joining (loop : Nat)
  /-- Waits for the branches of a command. -/
  | gathering (results : List Result) (left : Nat)
  | over

/-- A task. -/
structure Task where
  role : Role
  activity : Activity
  /-- The timer that the task waits for, if it does. -/
  timer : Option Nat
  /-- Is the task to be interrupted when it goes on? -/
  cancelled : Bool
  /-- The tasks that wait for the end of this one. -/
  waiters : List Nat
  /-- What ended the task, if a fault did. -/
  fault : Option Fault

/-- What may happen next. -/
inductive Wake where
  | resume (task : Nat)
  /-- A timer has run out. -/
  | fire (task timer : Nat)
  /-- A task that another one waits for has ended. -/
  | childOver (parent : Nat)

/-- A timer of a task. -/
structure Timer where
  due : Float
  task : Nat
  number : Nat

/-- The world of a simulation. -/
structure World where
  registry : Registry
  /-- The time of the wall clock at the start. -/
  wallStart : Moment
  monitor : Monitor Number
  /-- What the receiver is going to do, match by match. -/
  receptions : List Reception
  /-- Are loops to go on? -/
  running : Bool
  /-- The loop that was started last. -/
  loop : Option Nat
  /-- The seconds that have passed. -/
  elapsed : Float
  /-- How many timers there have been. -/
  timerCount : Nat
  ready : List Wake
  /-- The timers, the one that is due first in front. -/
  timers : List Timer
  tasks : Array Task
  /-- What happened since the last report, the latest in front. -/
  events : List Event
  /-- The reports, the latest in front. -/
  reports : List Report

namespace World

/-! ### Time -/

/-- The time that the breaker reads. -/
def clock (w : World) : Number := .real w.elapsed

/-- The time of the wall clock. -/
def wallClock (w : World) : Except Fault Moment := do
  w.wallStart.shift (← Duration.ofSeconds (.real w.elapsed))

/-- A given time, or else that of the wall clock. -/
def timeOr (w : World) (given : Option Timestamp) : Except Fault Timestamp :=
  match given with
  | some t => .ok t
  | none => w.wallClock.map Moment.toTimestamp

/-! ### Events -/

/-- Keeps an event. -/
def happened (w : World) (event : Event) : World := { w with events := event :: w.events }

/-- Keeps notices. -/
def note (w : World) (notices : List (Notice Number)) : World :=
  notices.foldl (fun w notice => w.happened (.noted notice)) w

/-- The world after an operation of the monitor. -/
def absorb {α : Type} (w : World) (outcome : Outcome Number α) : World :=
  { w with monitor := outcome.monitor }.note outcome.notices

/-- Reports what came of a command. -/
def report (w : World) (result : Result) : World :=
  { w with reports := ⟨result, w.monitor, w.events.reverse⟩ :: w.reports, events := [] }

/-! ### Tasks -/

/-- Puts something at the end of what may happen next. -/
def queue (w : World) (wake : Wake) : World := { w with ready := w.ready ++ [wake] }

/-- Changes a task. -/
def modify (w : World) (id : Nat) (f : Task → Task) : World :=
  { w with tasks := w.tasks.modify id f }

/-- Says how far a task is. -/
def setActivity (w : World) (id : Nat) (activity : Activity) : World :=
  w.modify id fun task => { task with activity := activity }

/-- Begins a task, which runs when its turn comes. -/
def spawn (w : World) (role : Role) : World :=
  { w with tasks := w.tasks.push ⟨role, .fresh, none, false, [], none⟩ }.queue
    (.resume w.tasks.size)

/-- Begins several tasks. -/
def spawnAll (w : World) (roles : List Role) : World := roles.foldl spawn w

/-- Puts a timer behind those that are not due later. -/
def insertTimer (timer : Timer) : List Timer → List Timer
  | [] => [timer]
  | first :: rest =>
    if timer.due < first.due then timer :: first :: rest else first :: insertTimer timer rest

/-- Lets a task wait for some seconds. Without a time to wait it only gives way to the tasks
    that are ready. -/
def sleep (w : World) (id : Nat) (seconds : Number) : World :=
  if seconds.atMost (.int 0) then w.queue (.resume id)
  else
    let timer : Timer := ⟨w.elapsed + seconds.toFloat, id, w.timerCount⟩
    { w with timers := insertTimer timer w.timers, timerCount := w.timerCount + 1 }.modify id
      fun task => { task with timer := some timer.number }

/-- Ends a task, and wakes those that wait for it. -/
def finish (w : World) (id : Nat) (fault : Option Fault) : World :=
  let waiters := ((w.tasks[id]?).map Task.waiters).getD []
  let ended := w.modify id fun task =>
    { task with activity := .over, fault := fault, waiters := [] }
  waiters.foldl (fun w waiter => w.queue (.resume waiter)) ended

/-- Asks a task to end. One that waits for a timer goes on at once, to be interrupted. -/
def cancel (w : World) (id : Nat) : World :=
  match w.tasks[id]? with
  | none => w
  | some task =>
    let marked := w.modify id fun task => { task with timer := none, cancelled := true }
    if task.timer.isSome then marked.queue (.resume id) else marked

/-- One of those that a task waits for has ended. -/
def countDown : Activity → Activity
  | .evaluating session found rounds left => .evaluating session found rounds (left - 1)
  | .gathering results left => .gathering results (left - 1)
  | other => other

/-- Does a task wait for nobody any more? -/
def isLast : Activity → Bool
  | .evaluating _ _ _ left | .gathering _ left => left == 0
  | _ => false

/-- Tells a task that one of those that it waits for has ended. The last one wakes it. -/
def childOver (w : World) (parent : Nat) : World :=
  match w.tasks[parent]? with
  | none => w
  | some task =>
    let activity := countDown task.activity
    let counted := w.setActivity parent activity
    if isLast activity then counted.queue (.resume parent) else counted

end World

end StreamWatch.Simulation
