import StreamWatch.Evaluation.Ruleset
import StreamWatch.Monitor.Dispatch
import StreamWatch.Monitor.Sweep
import StreamWatch.Simulation.World

namespace StreamWatch.Simulation.World

/-! # Turns

What a task does in its turn, until it has to wait or is over:

* `begin`, `resumeCommand`: a command, which comes to a result or has to wait;
* `loopRound`, `resumeLoop`: the loop in the background;
* `resumeProbe`: a probe;
* `resume`: the turn of any task.
-/

/-- A world, and the result of a command unless the command has to wait. -/
abbrev Progress := World × Option Result

/-! ### Evaluating -/

/-- Goes on with the rounds of an evaluation. After the last one the verdicts are queued. -/
def nextRound (w : World) (id : Nat) (session : Session) (found : List Verdict) :
    List (List Probe) → Progress
  | [] => (w.absorb (w.monitor.enqueue session found), some (.verdicts found))
  | [] :: rest => w.nextRound id session found rest
  | round :: rest =>
    ((w.spawnAll (round.map (.probe id))).setActivity id
      (.evaluating session found rest round.length), none)

/-- Registers a session and begins to evaluate the rules of this moment. -/
def startSession (w : World) (id : Nat) (session : Session) (user : User) (now : Timestamp) :
    Progress :=
  let registration := w.monitor.register session user now
  let registered := w.absorb registration
  match registration.result with
  | .error fault => (registered, some (.fault fault))
  | .ok context =>
    let run := verdicts (holdsInTime w.registry) context w.monitor.rules
    registered.nextRound id context.session run.value run.steps

/-! ### Handing over -/

/-- What the receiver does next. -/
def nextReception (w : World) : Reception × World :=
  match w.receptions with
  | [] => (.standard, w)
  | reception :: rest => (reception, { w with receptions := rest })

/-- Notes how the handing over of a match ended. -/
def settle (w : World) (handed : Match) (reception : Reception) : World :=
  match reception.refusal with
  | some reason =>
    let settled := w.monitor.settleRefused w.clock handed reason
    { w with monitor := settled.value }.note settled.steps
  | none => { w with monitor := w.monitor.settleReceived }.happened (.received handed)

/-- Hands a batch over, match by match. Is it over, or has the task to wait? -/
def hand (w : World) (id : Nat) : List Match → World × Bool
  | [] => (w, true)
  | first :: rest =>
    let offered := w.monitor.offer w.clock (first :: rest)
    let w := { w with monitor := offered.value.2 }.note offered.steps
    if offered.value.1.isEmpty then (w, true)
    else
      let (reception, w) := w.nextReception
      match reception.wait with
      | some seconds =>
        ((w.setActivity id (.handing (first :: rest) reception)).sleep id seconds, false)
      | none => (w.settle first reception).hand id rest

/-- Hands the matches over that wait. -/
def flush (w : World) (id : Nat) : World × Bool :=
  let taken := w.monitor.takePending w.clock
  ({ w with monitor := taken.value.2 }.note taken.steps).hand id taken.value.1

/-- Goes on with a batch whose first match was handed over. -/
def handOn (w : World) (id : Nat) (reception : Reception) : List Match → World × Bool
  | [] => (w, true)
  | first :: rest => (w.settle first reception).hand id rest

/-- Nothing comes of a command that has ended. -/
def doneIf : World × Bool → Progress
  | (w, isOver) => (w, if isOver then some .nothing else none)

/-! ### Commands -/

/-- Carries out an operation that needs a time. -/
def timed (w : World) (given : Option Timestamp) (act : Timestamp → Progress) : Progress :=
  match w.timeOr given with
  | .ok now => act now
  | .error fault => (w, some (.fault fault))

/-- Carries out an operation of the monitor that does not wait. -/
def perform {α : Type} (w : World) (outcome : Outcome Number α) (write : α → Result) :
    Progress :=
  (w.absorb outcome, some (.ofExcept write outcome.result))

/-- Goes on with a stop when the loop has ended. What ended the loop ends the stop. -/
def afterLoop (w : World) (id loop : Nat) : Progress :=
  match (w.tasks[loop]?).bind Task.fault with
  | some fault => (w, some (.fault fault))
  | none => doneIf (w.flush id)

/-- Has a task ended? -/
def isOver (w : World) (id : Nat) : Bool :=
  match (w.tasks[id]?).map Task.activity with
  | some .over | none => true
  | _ => false

/-- Ends the loop that was started last, waits for its end, and flushes. -/
def stopLoop (w : World) (id : Nat) : Progress :=
  let w := { w with running := false }
  match w.loop with
  | none => doneIf (w.flush id)
  | some loop =>
    if w.isOver loop then w.afterLoop id loop
    else
      let asked := (w.cancel loop).modify loop fun task =>
        { task with waiters := task.waiters ++ [id] }
      (asked.setActivity id (.joining loop), none)

/-- Starts a loop. -/
def startLoop (w : World) : World :=
  { w with running := true, loop := some w.tasks.size }.spawn .loop

/-- Begins commands side by side. -/
def beginAll (w : World) (id : Nat) (commands : List Command) : Progress :=
  if commands.isEmpty then (w, some (.all []))
  else
    let roles := commands.mapIdx fun slot command => Role.branch id slot command
    ((w.spawnAll roles).setActivity id
      (.gathering (commands.map fun _ => .nothing) commands.length), none)

/-- Begins a command. -/
def begin (w : World) (id : Nat) : Command → Progress
  | .startSession session user now => w.timed now (w.startSession id session user)
  | .update sessionId stateName position now =>
    w.timed now fun now => w.perform (w.monitor.update sessionId stateName position now) .session
  | .stopSession sessionId stoppedAt forced =>
    w.timed stoppedAt fun t => w.perform (w.monitor.stopSession sessionId t forced) .stopped
  | .sweep now => w.timed now fun now => w.perform (w.monitor.sweep now) .swept
  | .setRules rules => ({ w with monitor := w.monitor.setRules rules }, some .nothing)
  | .flush => doneIf (w.flush id)
  | .start => (w.startLoop, some .nothing)
  | .stop => w.stopLoop id
  | .pause seconds =>
    match waitOf seconds with
    | .ok n => ((w.setActivity id .pausing).sleep id n, none)
    | .error fault => (w, some (.fault fault))
  | .together commands => w.beginAll id commands
  | .malformed issues => (w, some (.malformed issues))

/-- Goes on with a command that had to wait. -/
def resumeCommand (w : World) (id : Nat) : Activity → Progress
  | .pausing => (w, some .nothing)
  | .evaluating session found rounds _ => w.nextRound id session found rounds
  | .handing batch reception => doneIf (w.handOn id reception batch)
  | .joining loop => w.afterLoop id loop
  | .gathering results _ => (w, some (.all results))
  | .fresh | .over => (w, none)

/-- Carries out the commands of a script until one has to wait. -/
def runScript (w : World) (id : Nat) : List Command → World
  | [] => w.finish id none
  | command :: rest =>
    match w.begin id command with
    | (w, some result) => (w.report result).runScript id rest
    | (w, none) => w.modify id fun task => { task with role := .script rest }

/-- Puts the result of a branch where its parent collects it. -/
def collect (w : World) (parent slot : Nat) (result : Result) : World :=
  w.modify parent fun task =>
    match task.activity with
    | .gathering results left => { task with activity := .gathering (results.set slot result) left }
    | _ => task

/-- Ends a branch that has a result. -/
def closeBranch (id parent slot : Nat) : Progress → World
  | (w, none) => w
  | (w, some result) =>
    ((w.collect parent slot result).finish id none).queue (.childOver parent)

/-! ### The loop -/

/-- Begins a round of the loop, which waits first. -/
def loopRound (w : World) (id : Nat) : World :=
  if w.running then
    (w.setActivity id .pausing).sleep id (.real w.monitor.config.sweepIntervalSeconds)
  else w.finish id none

/-- Sweeps after a flush of the loop. A fault ends the loop. -/
def loopSweep (w : World) (id : Nat) : World :=
  match w.wallClock with
  | .error fault => w.finish id (some fault)
  | .ok now =>
    let swept := w.monitor.sweep now
    let w := w.absorb swept
    match swept.result with
    | .ok _ => w.loopRound id
    | .error fault => w.finish id (some fault)

/-- Goes on after a flush of the loop, if it is over. -/
def afterFlush (id : Nat) : World × Bool → World
  | (w, true) => w.loopSweep id
  | (w, false) => w

/-- Interrupts the loop. A batch that it was handing over goes back. -/
def interruptLoop (w : World) (id : Nat) : Activity → World
  | .handing batch _ =>
    let interrupted := w.monitor.interrupt batch
    ({ w with monitor := interrupted.value }.note interrupted.steps).finish id none
  | _ => w.finish id none

/-- The turn of the loop. -/
def resumeLoop (w : World) (id : Nat) : Activity → World
  | .fresh => w.loopRound id
  | .pausing => afterFlush id (w.flush id)
  | .handing batch reception => afterFlush id (w.handOn id reception batch)
  | _ => w

/-! ### Probes -/

/-- Ends a probe: what it found is noted. -/
def closeProbe (w : World) (id parent : Nat) (probe : Probe) : World :=
  ((w.note (probe.notices.map .rule)).finish id none).queue (.childOver parent)

/-- The turn of a probe. -/
def resumeProbe (w : World) (id parent : Nat) (probe : Probe) : Activity → World
  | .fresh =>
    let w := if probe.called then w.happened (.called probe.condition) else w
    match probe.wait with
    | some seconds => (w.setActivity id .pausing).sleep id seconds
    | none => w.closeProbe id parent probe
  | .pausing => w.closeProbe id parent probe
  | _ => w

/-! ### Turns -/

/-- The turn of a task. -/
def resume (w : World) (id : Nat) : World :=
  match w.tasks[id]? with
  | none => w
  | some task =>
    let w := w.modify id fun task => { task with cancelled := false }
    match task.role with
    | .script rest =>
      match task.activity with
      | .fresh => w.runScript id rest
      | activity =>
        match w.resumeCommand id activity with
        | (w, some result) => (w.report result).runScript id rest
        | (w, none) => w
    | .branch parent slot command =>
      match task.activity with
      | .fresh => closeBranch id parent slot (w.begin id command)
      | activity => closeBranch id parent slot (w.resumeCommand id activity)
    | .loop =>
      if task.cancelled then w.interruptLoop id task.activity
      else w.resumeLoop id task.activity
    | .probe parent probe => w.resumeProbe id parent probe task.activity

/-- A timer has run out. It wakes its task, unless that was cancelled meanwhile. -/
def fire (w : World) (id number : Nat) : World :=
  match w.tasks[id]? with
  | none => w
  | some task =>
    if task.timer = some number then
      (w.modify id fun task => { task with timer := none }).queue (.resume id)
    else w

/-- What happens next happens. -/
def take (w : World) : Wake → World
  | .resume id => w.resume id
  | .fire id number => w.fire id number
  | .childOver parent => w.childOver parent

end StreamWatch.Simulation.World
