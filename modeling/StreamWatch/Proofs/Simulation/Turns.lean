import StreamWatch.Proofs.Simulation.Stopping

namespace StreamWatch.Simulation

/-!
# What a turn comes to

Most of what a task does in its turn changes neither the tasks nor what is ready.  That shows only
where the turn ends, or where a loop is started or stopped.

* `World.Steady` — does a change leave the tasks, the loops and the reports alone?
* `World.Waits` — a task goes to sleep, or begins others and waits for them;
* `World.Goes` — a command comes to a result, or its task waits, and nothing else shows of it;
* `World.goes_begin`, `World.goes_resumeCommand` — that is so of every command but a start or a stop
  of a loop;
* `World.goes_loopTurn`, `World.goes_resumeProbe` — the turns of the loops and of the probes.
-/

/-- The tasks that a task waits for still. -/
def Activity.left : Activity → Nat
  | .evaluating _ _ _ left | .gathering _ left => left
  | _ => 0

/-- Does a task wait for a time to come? -/
def Activity.sleeps : Activity → Bool
  | .pausing | .handing .. => true
  | _ => false

/-- A task that waits for a time to come goes on, waits for nobody, and has begun. -/
theorem Activity.going_of_sleeps {activity : Activity} (h : activity.sleeps = true) :
    activity.phase = .going ∧ activity.left = 0 ∧ activity ≠ .fresh := by
  cases activity with
  | pausing | handing => exact ⟨rfl, rfl, nofun⟩
  | _ => cases h

/-- The commands that a command begins side by side. -/
def Command.parts : Command → List Command
  | .together commands => commands
  | _ => []

/-- Is this the role of a task that another one begins, to wait for its end? -/
inductive Role.Begun (id : Nat) (parts : List Command) : Role → Prop
  | probe (probe : Probe) : Begun id parts (.probe id probe)
  | branch (slot : Nat) {command : Command} (h : command ∈ parts) :
    Begun id parts (.branch id slot command)

namespace World

variable {w w' w'' : World} {id : Nat} {task : Task} {parts : List Command}

/-! ### Changes that do not show -/

/-- Does a change leave the tasks, what is ready, the loops and the reports alone? -/
structure Steady (w w' : World) : Prop where
  tasks : w'.tasks = w.tasks
  ready : w'.ready = w.ready
  loop : w'.loop = w.loop
  running : w'.running = w.running
  reports : w'.reports = w.reports

namespace Steady

/-- Nothing at all is such a change. -/
theorem refl (w : World) : Steady w w := ⟨rfl, rfl, rfl, rfl, rfl⟩

/-- Two such changes are one. -/
theorem trans (h : Steady w w') (h' : Steady w' w'') : Steady w w'' :=
  ⟨h'.tasks.trans h.tasks, h'.ready.trans h.ready, h'.loop.trans h.loop,
    h'.running.trans h.running, h'.reports.trans h.reports⟩

/-- Notices are events, and nothing else. -/
theorem note (w : World) (notices : List (Notice Number)) : Steady w (w.note notices) := by
  rw [note_eq]
  exact ⟨rfl, rfl, rfl, rfl, rfl⟩

/-- A change of the monitor. -/
theorem changed (w : World) (m : Monitor Number) (notices : List (Notice Number)) :
    Steady w (({ w with monitor := m } : World).note notices) := by
  have hchanged : Steady w { w with monitor := m } := ⟨rfl, rfl, rfl, rfl, rfl⟩
  exact hchanged.trans (note _ notices)

/-- The receptions to come. -/
theorem nextReception (w : World) : Steady w w.nextReception.2 := by
  unfold World.nextReception
  split <;> exact ⟨rfl, rfl, rfl, rfl, rfl⟩

/-- The end of the handing over of a match. -/
theorem settle (w : World) (first : Match) (reception : Reception) :
    Steady w (w.settle first reception) := by
  unfold World.settle
  split
  · exact changed w _ _
  · exact ⟨rfl, rfl, rfl, rfl, rfl⟩

end Steady

/-! ### Turns that end -/

/-- How does a task wait that waits for no loop?  It sleeps, or it has begun other tasks and waits
    for all of them. -/
inductive Waits (id : Nat) (parts : List Command) : World → World → Prop
  | sleep (w : World) {activity : Activity} (hsleeps : activity.sleeps = true)
      (seconds : Number) :
    Waits id parts w ((w.setActivity id activity).sleep id seconds)
  | ask (w : World) {activity : Activity} {roles : List Role}
      (hphase : activity.phase = .gathering) (hleft : activity.left = roles.length)
      (hroles : ∀ role ∈ roles, role.Begun id parts) :
    Waits id parts w ((w.spawnAll roles).setActivity id activity)

/-- Does a task wait after a change that does not show? -/
def Pauses (id : Nat) (parts : List Command) (w w' : World) : Prop :=
  ∃ between, Steady w between ∧ Waits id parts between w'

/-- What does a command come to?  Nothing shows of it but that its task waits. -/
def Goes (id : Nat) (parts : List Command) (w : World) : Progress → Prop
  | (w', some _) => Steady w w'
  | (w', none) => Pauses id parts w w'

/-- What does a flush come to? -/
def Flushes (id : Nat) (w : World) : World × Bool → Prop
  | (w', true) => Steady w w'
  | (w', false) => Pauses id [] w w'

/-- A task waits after two such changes. -/
theorem Pauses.after (h : Pauses id parts w' w'') (hsteady : Steady w w') :
    Pauses id parts w w'' := by
  obtain ⟨between, hbetween, hwaits⟩ := h
  exact ⟨between, hsteady.trans hbetween, hwaits⟩

/-- What a command comes to after such a change. -/
theorem Goes.after {progress : Progress} (h : Goes id parts w' progress) (hsteady : Steady w w') :
    Goes id parts w progress := by
  obtain ⟨w'', _ | result⟩ := progress
  · exact Pauses.after h hsteady
  · exact hsteady.trans h

/-- What a flush comes to after such a change. -/
theorem Flushes.after {progress : World × Bool} (h : Flushes id w' progress)
    (hsteady : Steady w w') : Flushes id w progress := by
  obtain ⟨w'', _ | _⟩ := progress
  · exact Pauses.after h hsteady
  · exact hsteady.trans h

/-- One who begins no commands begins none of a list. -/
theorem Pauses.weaken (h : Pauses id [] w w') : Pauses id parts w w' := by
  obtain ⟨between, hsteady, hwaits⟩ := h
  refine ⟨between, hsteady, ?_⟩
  cases hwaits with
  | sleep hsleeps seconds => exact .sleep _ hsleeps seconds
  | ask hphase hleft hroles =>
    refine .ask _ hphase hleft fun role hrole => ?_
    cases hroles role hrole with
    | probe probe => exact .probe probe
    | branch slot h => cases h

/-- A flush as a command. -/
theorem Flushes.goes {progress : World × Bool} (h : Flushes id w progress) :
    Goes id parts w (doneIf progress) := by
  obtain ⟨w', _ | _⟩ := progress
  · exact Pauses.weaken h
  · exact h

/-- A batch is handed over. -/
theorem flushes_hand (w : World) (id : Nat) (batch : List Match) :
    Flushes id w (w.hand id batch) := by
  induction batch generalizing w with
  | nil => exact .refl w
  | cons first rest ih =>
    let offered := w.monitor.offer w.clock (first :: rest)
    have hoffered : Steady w (({ w with monitor := offered.value.2 } : World).note
        offered.steps) := .changed w _ _
    unfold hand
    simp only
    split
    · exact hoffered
    · have hcalled := hoffered.trans (.nextReception _)
      split
      · exact ⟨_, hcalled, .sleep _ rfl _⟩
      · exact (ih _).after (hcalled.trans (.settle _ first _))

/-- A flush. -/
theorem flushes_flush (w : World) (id : Nat) : Flushes id w (w.flush id) :=
  (flushes_hand _ id _).after (.changed w _ _)

/-- A flush goes on. -/
theorem flushes_handOn (w : World) (id : Nat) (reception : Reception) (batch : List Match) :
    Flushes id w (w.handOn id reception batch) := by
  cases batch with
  | nil => exact Steady.refl w
  | cons first rest => exact (flushes_hand _ id rest).after (.settle w first reception)

/-! ### Commands -/

/-- The rounds of an evaluation. -/
theorem goes_nextRound (w : World) (id : Nat) (session : Session) (found : List Verdict)
    (rounds : List (List Probe)) : Goes id parts w (w.nextRound id session found rounds) := by
  induction rounds with
  | nil => exact Steady.changed w _ _
  | cons round rest ih =>
    cases round with
    | nil => exact ih
    | cons probe probes =>
      refine ⟨w, .refl w, .ask w rfl (List.length_map ..).symm fun role hrole => ?_⟩
      obtain ⟨asked, _, rfl⟩ := List.mem_map.mp hrole
      exact .probe asked

/-- A start of a session. -/
theorem goes_startSession (w : World) (id : Nat) (session : Session) (user : User)
    (now : Timestamp) : Goes id parts w (w.startSession id session user now) := by
  have hregistered : Steady w (w.absorb (w.monitor.register session user now)) := .changed w _ _
  unfold startSession
  simp only
  split
  · exact hregistered
  · exact (goes_nextRound _ id _ _ _).after hregistered

/-- A command that goes on after the end of a loop. -/
theorem goes_afterLoop (w : World) (id loop : Nat) : Goes id parts w (w.afterLoop id loop) := by
  unfold afterLoop
  split
  · exact Steady.refl w
  · exact (flushes_flush w id).goes

/-- An operation that needs a time. -/
theorem goes_timed (given : Option Timestamp) {act : Timestamp → Progress}
    (hact : ∀ now, Goes id parts w (act now)) : Goes id parts w (w.timed given act) := by
  unfold timed
  split
  · exact hact _
  · exact Steady.refl w

/-- **Every command but the start or stop of a loop** comes to a result or waits, and nothing else
    shows of it. -/
theorem goes_begin (w : World) (id : Nat) {command : Command} (hstart : command ≠ .start)
    (hstop : command ≠ .stop) : Goes id command.parts w (w.begin id command) := by
  cases command with
  | startSession session user now => exact goes_timed now (goes_startSession w id session user)
  | update sessionId stateName position now =>
    exact goes_timed now fun now => Steady.changed w _ _
  | stopSession sessionId stoppedAt forced =>
    exact goes_timed stoppedAt fun t => Steady.changed w _ _
  | sweep now => exact goes_timed now fun now => Steady.changed w _ _
  | setRules rules => exact ⟨rfl, rfl, rfl, rfl, rfl⟩
  | flush => exact (flushes_flush w id).goes
  | start => exact absurd rfl hstart
  | stop => exact absurd rfl hstop
  | pause seconds =>
    unfold begin
    simp only
    split
    · exact ⟨w, .refl w, .sleep w rfl _⟩
    · exact Steady.refl w
  | together commands =>
    simp only [begin, beginAll]
    split
    · exact Steady.refl w
    · refine ⟨w, .refl w, .ask w rfl (List.length_mapIdx ..).symm fun role hrole => ?_⟩
      obtain ⟨slot, hslot, rfl⟩ := List.mem_mapIdx.mp hrole
      exact .branch slot (List.getElem_mem hslot)
  | malformed issues => exact Steady.refl w

/-- A command goes on that had to wait. -/
theorem goes_resumeCommand (w : World) (id : Nat) {activity : Activity}
    (hended : activity.phase ≠ .ended) (hfresh : activity ≠ .fresh) :
    Goes id [] w (w.resumeCommand id activity) := by
  cases activity with
  | evaluating session found rounds left => exact goes_nextRound w id session found rounds
  | handing batch reception => exact (flushes_handOn w id reception batch).goes
  | joining loop => exact goes_afterLoop w id loop
  | pausing | gathering => exact Steady.refl w
  | fresh => exact absurd rfl hfresh
  | _ => exact absurd rfl hended

/-! ### Loops and probes -/

/-- What does the turn of a loop come to?  It sleeps, or it ends. -/
def Rounds (id : Nat) (w w' : World) : Prop :=
  Pauses id [] w w' ∨ ∃ between fault, Steady w between ∧ w' = between.finish id fault

/-- What a turn comes to after a change that does not show. -/
theorem Rounds.after (h : Rounds id w' w'') (hsteady : Steady w w') : Rounds id w w'' := by
  obtain hpauses | ⟨between, fault, hbetween, rfl⟩ := h
  · exact .inl (hpauses.after hsteady)
  · exact .inr ⟨between, fault, hsteady.trans hbetween, rfl⟩

/-- A round of a loop begins, or the loop ends. -/
theorem rounds_loopRound (w : World) (id : Nat) : Rounds id w (w.loopRound id) := by
  unfold loopRound
  split
  · exact .inl ⟨w, .refl w, .sleep w rfl _⟩
  · exact .inr ⟨w, none, .refl w, rfl⟩

/-- The sweep of a round. -/
theorem rounds_loopSweep (w : World) (id : Nat) : Rounds id w (w.loopSweep id) := by
  unfold loopSweep
  split
  · exact .inr ⟨w, _, .refl w, rfl⟩
  · rename_i now _
    have hswept : Steady w (w.absorb (w.monitor.sweep now)) := .changed w _ _
    simp only
    split
    · exact (rounds_loopRound _ id).after hswept
    · exact .inr ⟨_, _, hswept, rfl⟩

/-- What follows on the flush of a round. -/
theorem rounds_afterFlush {progress : World × Bool} (h : Flushes id w progress) :
    Rounds id w (afterFlush id progress) := by
  obtain ⟨w', _ | _⟩ := progress
  · exact .inl h
  · exact (rounds_loopSweep w' id).after h

/-- The turn of a loop that has not ended. -/
theorem goes_loopTurn (w : World) (id : Nat) {activity : Activity}
    (hphase : activity.phase = .going) (cancelled : Bool) :
    Rounds id w (if cancelled then w.interruptLoop id activity else w.resumeLoop id activity) := by
  cases cancelled with
  | true =>
    unfold interruptLoop
    simp only [if_true]
    split
    · exact .inr ⟨_, _, .changed w _ _, rfl⟩
    · exact .inr ⟨w, _, .refl w, rfl⟩
  | false =>
    simp only [Bool.false_eq_true, if_false]
    cases activity with
    | fresh => exact rounds_loopRound w id
    | pausing => exact rounds_afterFlush (flushes_flush w id)
    | handing batch reception => exact rounds_afterFlush (flushes_handOn w id reception batch)
    | _ => cases hphase

/-- The turn of a probe: it sleeps, or it ends and tells its parent, if it does anything. -/
theorem goes_resumeProbe (w : World) (id parent : Nat) (probe : Probe) (activity : Activity) :
    w.resumeProbe id parent probe activity = w ∨
      Pauses id [] w (w.resumeProbe id parent probe activity) ∨
      ∃ between, Steady w between ∧ w.resumeProbe id parent probe activity =
        (between.finish id none).queue (.childOver parent) := by
  have hclose : ∀ {called : World}, Steady w called → ∃ between, Steady w between ∧
      called.closeProbe id parent probe = (between.finish id none).queue (.childOver parent) :=
    fun hcalled => ⟨_, hcalled.trans (.note _ _), rfl⟩
  cases activity with
  | fresh =>
    have hcalled : Steady w
        (if probe.called then w.happened (.called probe.condition) else w) := by
      split <;> exact ⟨rfl, rfl, rfl, rfl, rfl⟩
    unfold resumeProbe
    simp only
    split
    · exact .inr (.inl ⟨_, hcalled, .sleep _ rfl _⟩)
    · exact .inr (.inr (hclose hcalled))
  | pausing => exact .inr (.inr (hclose (.refl w)))
  | _ => exact .inl rfl

end World

end StreamWatch.Simulation
