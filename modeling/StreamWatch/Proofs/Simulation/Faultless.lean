import StreamWatch.Proofs.Simulation.Stopping
import StreamWatch.Proofs.Watch.Draining
import StreamWatch.Proofs.Watch.HoldingBack
import StreamWatch.Proofs.Watch.Sweeping
import StreamWatch.Validation.Context

namespace StreamWatch.Simulation

/-!
# Loops that survive

The loop in the background ends with a fault only if one of its sweeps has one.  A stop that waits
for the loop ends with that fault too then, before it has flushed.

* `World.Faultless` — no task has ended with a fault;
* `World.FlushFrame` — what a flush leaves alone, so that the sweep behind it can be foreseen;
* `World.Sweeps` — would a sweep of this world have a result?
* `World.faultless_step`, `World.faultless_run` — as long as sweeps have results no loop ends with
  a fault;
* `World.sweeps_and_stops` — with sweepable settings, and with no others, this is always so, and
  then every stop comes to its flush, which hands over all that waits.
-/

namespace World

variable {w w' : World} {id : Nat}

/-! ### Faults of tasks -/

/-- What ended the tasks of a world. -/
def faults (w : World) : List (Option Fault) := w.tasks.toList.map Task.fault

/-- Has no task ended with a fault? -/
def Faultless (w : World) : Prop := ∀ fault ∈ w.faults, fault = none

/-- A change of a task leaves its fault alone, if it does. -/
theorem faults_modify (w : World) (id : Nat) {f : Task → Task}
    (h : ∀ task, (f task).fault = task.fault) : (w.modify id f).faults = w.faults := by
  simp only [faults, modify, Array.toList_modify, Watch.map_modify_same f Task.fault h]

/-- Notices leave the faults alone. -/
@[simp] theorem faults_note (w : World) (notices : List (Notice Number)) :
    (w.note notices).faults = w.faults := by
  rw [note_eq]
  rfl

/-- How far a task is has nothing to do with its fault. -/
@[simp] theorem faults_setActivity (w : World) (id : Nat) (activity : Activity) :
    (w.setActivity id activity).faults = w.faults := faults_modify w id fun _ => rfl

/-- A task that waits has no fault from it. -/
@[simp] theorem faults_sleep (w : World) (id : Nat) (seconds : Number) :
    (w.sleep id seconds).faults = w.faults := by
  unfold sleep
  split
  · rfl
  · exact faults_modify _ id fun _ => rfl

/-- A task that is to be interrupted has no fault from it. -/
@[simp] theorem faults_cancel (w : World) (id : Nat) : (w.cancel id).faults = w.faults := by
  unfold cancel
  split
  · rfl
  · simp only
    split <;> exact faults_modify _ id fun _ => rfl

/-- What comes of the branches of a task leaves its fault alone. -/
@[simp] theorem faults_collect (w : World) (parent slot : Nat) (result : Result) :
    (w.collect parent slot result).faults = w.faults := by
  refine faults_modify w parent fun task => ?_
  split <;> rfl

/-- A task has no fault from the end of another one that it waits for. -/
@[simp] theorem faults_childOver (w : World) (parent : Nat) :
    (w.childOver parent).faults = w.faults := by
  unfold childOver
  split
  · rfl
  · simp only
    split <;> exact faults_setActivity _ _ _

namespace Faultless

/-- Where the faults are the same there is none as before. -/
theorem congr (h : w.Faultless) (hfaults : w'.faults = w.faults) : w'.Faultless := by
  unfold Faultless
  rw [hfaults]
  exact h

/-- A task that begins has no fault. -/
theorem spawn (h : w.Faultless) (role : Role) : (w.spawn role).Faultless := by
  intro fault hfault
  have hfaults : (w.spawn role).faults = w.faults ++ [none] := by
    simp only [faults, World.spawn, queue, Array.toList_push, List.map_append, List.map_cons,
      List.map_nil]
  rw [hfaults] at hfault
  obtain hfault | hfault := List.mem_append.mp hfault
  · exact h fault hfault
  · exact List.mem_singleton.mp hfault

/-- Tasks that begin have no fault. -/
theorem spawnAll (h : w.Faultless) (roles : List Role) : (w.spawnAll roles).Faultless := by
  unfold World.spawnAll
  induction roles generalizing w with
  | nil => exact h
  | cons role rest ih => exact ih (h.spawn role)

/-- A task ends without a fault. -/
theorem finish (h : w.Faultless) (id : Nat) : (w.finish id none).Faultless := by
  have hended : (w.modify id fun task =>
      { task with activity := .over, fault := none, waiters := [] }).faults =
      w.faults.set id none := by
    have hset := Watch.map_modify_set (fun task : Task =>
      { task with activity := .over, fault := none, waiters := [] }) Task.fault (fun _ => rfl)
      w.tasks.toList id
    simpa only [faults, modify, Array.toList_modify] using hset
  intro fault hfault
  have hfaults : (w.finish id none).faults = w.faults.set id none := by
    unfold World.finish
    simp only [foldl_queue]
    exact hended
  rw [hfaults] at hfault
  obtain hfault | rfl := List.mem_or_eq_of_mem_set hfault
  · exact h fault hfault
  · rfl

/-- A task of such a world has no fault. -/
theorem fault_eq_none (h : w.Faultless) {task : Task} (htask : task ∈ w.tasks) :
    task.fault = none :=
  h task.fault (List.mem_map_of_mem (Array.mem_toList_iff.mpr htask))

end Faultless

/-! ### Flushes -/

/-- What does a flush leave alone? The faults, the clock, the active sessions and the settings. -/
structure FlushFrame (w w' : World) : Prop where
  faults : w'.faults = w.faults
  wallClock : w'.wallClock = w.wallClock
  active : w'.monitor.active = w.monitor.active
  config : w'.monitor.config = w.monitor.config

namespace FlushFrame

/-- Where nothing happens everything is left alone. -/
theorem refl (w : World) : FlushFrame w w := ⟨rfl, rfl, rfl, rfl⟩

/-- What is left alone twice is left alone. -/
theorem trans {w'' : World} (h : FlushFrame w w') (h' : FlushFrame w' w'') : FlushFrame w w'' :=
  ⟨h'.faults.trans h.faults, h'.wallClock.trans h.wallClock, h'.active.trans h.active,
    h'.config.trans h.config⟩

/-- Notices leave it all alone. -/
theorem note (w : World) (notices : List (Notice Number)) : FlushFrame w (w.note notices) := by
  rw [note_eq]
  exact ⟨rfl, rfl, rfl, rfl⟩

/-- A change of the monitor leaves it all alone that keeps the active sessions and the settings. -/
theorem changed {m : Monitor Number} (hactive : m.active = w.monitor.active)
    (hconfig : m.config = w.monitor.config) (notices : List (Notice Number)) :
    FlushFrame w (({ w with monitor := m } : World).note notices) := by
  have hchanged : FlushFrame w { w with monitor := m } := ⟨rfl, rfl, hactive, hconfig⟩
  exact hchanged.trans (note _ notices)

/-- The receptions to come leave it all alone. -/
theorem nextReception (w : World) : FlushFrame w w.nextReception.2 := by
  unfold World.nextReception
  split <;> exact ⟨rfl, rfl, rfl, rfl⟩

/-- A task that waits leaves it all alone. -/
theorem sleep (w : World) (id : Nat) (seconds : Number) : FlushFrame w (w.sleep id seconds) := by
  refine ⟨faults_sleep w id seconds, ?_, ?_, ?_⟩
  all_goals
    unfold World.sleep
    split <;> rfl

/-- The end of the handing over of a match leaves it all alone. -/
theorem settle (w : World) (handed : Match) (reception : Reception) :
    FlushFrame w (w.settle handed reception) := by
  unfold World.settle
  split
  · rename_i reason _
    exact changed (m := (w.monitor.settleRefused w.clock handed reason).value) rfl rfl _
  · exact ⟨rfl, rfl, rfl, rfl⟩

/-- A batch that is handed over leaves it all alone. -/
theorem hand (w : World) (id : Nat) (batch : List Match) : FlushFrame w (w.hand id batch).1 := by
  induction batch generalizing w with
  | nil => exact .refl w
  | cons first rest ih =>
    have hoffered : FlushFrame w ({ w with
        monitor := (w.monitor.offer w.clock (first :: rest)).value.2 }.note
          (w.monitor.offer w.clock (first :: rest)).steps) :=
      changed (w.monitor.offer_sameSessions w.clock (first :: rest)).active
        (w.monitor.offer_sameRecords w.clock (first :: rest)).config _
    unfold World.hand
    simp only
    split
    · exact hoffered
    · refine hoffered.trans ((nextReception _).trans ?_)
      split
      · exact .trans ⟨faults_setActivity _ _ _, rfl, rfl, rfl⟩ (sleep _ _ _)
      · exact (settle _ first _).trans (ih _)

/-- A flush leaves it all alone. -/
theorem flush (w : World) (id : Nat) : FlushFrame w (w.flush id).1 := by
  have htaken : FlushFrame w ({ w with monitor := (w.monitor.takePending w.clock).value.2 }.note
      (w.monitor.takePending w.clock).steps) :=
    changed (w.monitor.takePending_sameSessions w.clock).active
      (w.monitor.takePending_sameRecords w.clock).config _
  exact htaken.trans (hand _ id _)

/-- A flush that goes on leaves it all alone. -/
theorem handOn (w : World) (id : Nat) (reception : Reception) (batch : List Match) :
    FlushFrame w (w.handOn id reception batch).1 := by
  cases batch with
  | nil => exact .refl w
  | cons first rest => exact (settle w first reception).trans (hand _ id rest)

end FlushFrame

/-! ### Commands -/

namespace Faultless

/-- An operation of the monitor leaves the tasks alone. -/
theorem absorb {α : Type} (h : w.Faultless) (outcome : Outcome Number α) :
    (w.absorb outcome).Faultless :=
  h.congr (faults_note _ _)

/-- The rounds of an evaluation. -/
theorem nextRound (h : w.Faultless) (id : Nat) (session : Session) (found : List Verdict)
    (rounds : List (List Probe)) : (w.nextRound id session found rounds).1.Faultless := by
  induction rounds with
  | nil => exact h.absorb _
  | cons round rest ih =>
    cases round with
    | nil => exact ih
    | cons probe probes => exact (h.spawnAll _).congr (faults_setActivity _ _ _)

/-- A start. -/
theorem startSession (h : w.Faultless) (id : Nat) (session : Session) (user : User)
    (now : Timestamp) : (w.startSession id session user now).1.Faultless := by
  unfold World.startSession
  simp only
  split
  · exact h.absorb _
  · exact (h.absorb _).nextRound id _ _ _

/-- A stop goes on when the loop has ended. -/
theorem afterLoop (h : w.Faultless) (id loop : Nat) : (w.afterLoop id loop).1.Faultless := by
  unfold World.afterLoop
  split
  · exact h
  · exact h.congr (FlushFrame.flush w id).faults

/-- A stop of the loop. -/
theorem stopLoop (h : w.Faultless) (id : Nat) : (w.stopLoop id).1.Faultless := by
  have hstopped : ({ w with running := false } : World).Faultless := h
  unfold World.stopLoop
  simp only
  split
  · exact hstopped.congr (FlushFrame.flush { w with running := false } id).faults
  · split
    · exact hstopped.afterLoop id _
    · rename_i loop _ _
      have hasked := faults_modify (({ w with running := false } : World).cancel loop) loop
        (f := fun task => { task with waiters := task.waiters ++ [id] }) fun _ => rfl
      exact hstopped.congr
        ((faults_setActivity _ _ _).trans (hasked.trans (faults_cancel _ _)))

/-- An operation that needs a time. -/
theorem timed (h : w.Faultless) (given : Option Timestamp) {act : Timestamp → Progress}
    (hact : ∀ now, (act now).1.Faultless) : (w.timed given act).1.Faultless := by
  unfold World.timed
  split
  · exact hact _
  · exact h

/-- A command begins. -/
theorem begin (h : w.Faultless) (id : Nat) (command : Command) :
    (w.begin id command).1.Faultless := by
  cases command with
  | startSession session user now => exact h.timed now (h.startSession id session user)
  | update sessionId stateName position now => exact h.timed now fun now => h.absorb _
  | stopSession sessionId stoppedAt forced => exact h.timed stoppedAt fun t => h.absorb _
  | sweep now => exact h.timed now fun now => h.absorb _
  | flush => exact h.congr (FlushFrame.flush w id).faults
  | start => exact Faultless.spawn (w := { w with running := true, loop := some w.tasks.size }) h _
  | stop => exact h.stopLoop id
  | pause seconds =>
    unfold World.begin
    simp only
    split
    · refine h.congr ?_
      rw [faults_sleep, faults_setActivity]
    · exact h
  | together commands =>
    simp only [World.begin, beginAll]
    split
    · exact h
    · exact (h.spawnAll _).congr (faults_setActivity _ _ _)
  | setRules | malformed => exact h

/-- A command goes on that had to wait. -/
theorem resumeCommand (h : w.Faultless) (id : Nat) (activity : Activity) :
    (w.resumeCommand id activity).1.Faultless := by
  cases activity with
  | evaluating session found rounds left => exact h.nextRound id session found rounds
  | handing batch reception => exact h.congr (FlushFrame.handOn w id reception batch).faults
  | joining loop => exact h.afterLoop id loop
  | _ => exact h

/-- A script goes on. -/
theorem runScript (h : w.Faultless) (id : Nat) (commands : List Command) :
    (w.runScript id commands).Faultless := by
  induction commands generalizing w with
  | nil => exact h.finish id
  | cons command rest ih =>
    have hbegun := h.begin id command
    unfold World.runScript
    split
    · rename_i hprogress
      rw [hprogress] at hbegun
      exact ih hbegun
    · rename_i hprogress
      rw [hprogress] at hbegun
      exact hbegun.congr (faults_modify _ id fun _ => rfl)

/-- A branch ends with its command. -/
theorem closeBranch {progress : Progress} (h : progress.1.Faultless) (id parent slot : Nat) :
    (World.closeBranch id parent slot progress).Faultless := by
  obtain ⟨w, _ | result⟩ := progress
  · exact h
  · exact Faultless.finish (h.congr (faults_collect w parent slot result)) id

/-- A probe ends. -/
theorem closeProbe (h : w.Faultless) (id parent : Nat) (probe : Probe) :
    (w.closeProbe id parent probe).Faultless :=
  Faultless.finish (h.congr (faults_note w _)) id

/-- The turn of a probe. -/
theorem resumeProbe (h : w.Faultless) (id parent : Nat) (probe : Probe) (activity : Activity) :
    (w.resumeProbe id parent probe activity).Faultless := by
  cases activity with
  | fresh =>
    have hcalled : (if probe.called then w.happened (.called probe.condition)
        else w).Faultless := by
      split <;> exact h
    unfold World.resumeProbe
    simp only
    split
    · refine hcalled.congr ?_
      rw [faults_sleep, faults_setActivity]
    · exact hcalled.closeProbe id parent probe
  | pausing => exact h.closeProbe id parent probe
  | _ => exact h

/-- A round of a loop begins, or the loop ends. -/
theorem loopRound (h : w.Faultless) (id : Nat) : (w.loopRound id).Faultless := by
  unfold World.loopRound
  split
  · refine h.congr ?_
    rw [faults_sleep, faults_setActivity]
  · exact h.finish id

/-- A loop that is interrupted ends without a fault. -/
theorem interruptLoop (h : w.Faultless) (id : Nat) (activity : Activity) :
    (w.interruptLoop id activity).Faultless := by
  unfold World.interruptLoop
  split
  · rename_i batch _
    have hback : ({ w with monitor := (w.monitor.interrupt batch).value } : World).Faultless := h
    exact Faultless.finish (hback.congr (faults_note _ _)) id
  · exact h.finish id

end Faultless

/-! ### Sweeps of loops -/

/-- Would a sweep of this world have a result? The settings are sweepable, the clock shows one of
    the years 2000 to 2100, and the active sessions are measured. -/
structure Sweeps (w : World) : Prop where
  config : w.monitor.config.Sweepable
  clock : ∃ now, w.wallClock = .ok now ∧ now.IsCurrent
  measured : ∃ reports, reports ≤ twoPow 896 ∧ ∀ s ∈ w.monitor.activeSessions, s.Measured reports

/-- A flush does not spoil the sweep behind it. -/
theorem Sweeps.congr (h : w.Sweeps) (hframe : FlushFrame w w') : w'.Sweeps := by
  refine ⟨hframe.config ▸ h.config, hframe.wallClock ▸ h.clock, ?_⟩
  rw [Monitor.activeSessions, hframe.active]
  exact h.measured

namespace Faultless

/-- The sweep of a round. -/
theorem loopSweep (h : w.Faultless) (hsweeps : w.Sweeps) (id : Nat) :
    (w.loopSweep id).Faultless := by
  obtain ⟨now, hclock, hcurrent⟩ := hsweeps.clock
  obtain ⟨reports, hreports, hmeasured⟩ := hsweeps.measured
  obtain ⟨stopped, hstopped⟩ := Monitor.sweep_isOk hsweeps.config hmeasured hreports hcurrent
  unfold World.loopSweep
  simp only [hclock, hstopped]
  exact (h.absorb _).loopRound id

/-- What follows on the flush of a round. -/
theorem afterFlush {progress : World × Bool} (h : progress.1.Faultless)
    (hsweeps : progress.1.Sweeps) (id : Nat) : (World.afterFlush id progress).Faultless := by
  obtain ⟨w, _ | _⟩ := progress
  · exact h
  · exact h.loopSweep hsweeps id

/-- The turn of a loop. -/
theorem resumeLoop (h : w.Faultless) (hsweeps : w.Sweeps) (id : Nat) (activity : Activity) :
    (w.resumeLoop id activity).Faultless := by
  cases activity with
  | fresh => exact h.loopRound id
  | pausing =>
    have hframe := FlushFrame.flush w id
    exact afterFlush (h.congr hframe.faults) (hsweeps.congr hframe) id
  | handing batch reception =>
    have hframe := FlushFrame.handOn w id reception batch
    exact afterFlush (h.congr hframe.faults) (hsweeps.congr hframe) id
  | _ => exact h

/-- The turn of a task. -/
theorem resume (h : w.Faultless) (hsweeps : w.Sweeps) (id : Nat) : (w.resume id).Faultless := by
  unfold World.resume
  cases w.tasks[id]? with
  | none => exact h
  | some task =>
    have hframe : FlushFrame w (w.modify id fun task => { task with cancelled := false }) :=
      ⟨faults_modify w id fun _ => rfl, rfl, rfl, rfl⟩
    have h' := h.congr hframe.faults
    have hsweeps' := hsweeps.congr hframe
    -- From here on only the world matters in which the task is not cancelled any more.
    generalize w.modify id (fun task => { task with cancelled := false }) = w at h' hsweeps' ⊢
    simp only
    cases task.role with
    | script rest =>
      have hresumed := h'.resumeCommand id task.activity
      simp only
      split
      · exact h'.runScript id rest
      · split
        · rename_i hprogress
          rw [hprogress] at hresumed
          exact Faultless.runScript (w := World.report _ _) hresumed id rest
        · rename_i hprogress
          rw [hprogress] at hresumed
          exact hresumed
    | branch parent slot command =>
      simp only
      split
      · exact closeBranch (h'.begin id command) id parent slot
      · exact closeBranch (h'.resumeCommand id _) id parent slot
    | loop =>
      simp only
      split
      · exact h'.interruptLoop id _
      · exact h'.resumeLoop hsweeps' id _
    | probe parent probe => exact h'.resumeProbe id parent probe _

/-- What happens next. -/
theorem take (h : w.Faultless) (hsweeps : w.Sweeps) (wake : Wake) : (w.take wake).Faultless := by
  cases wake with
  | resume id => exact h.resume hsweeps id
  | fire id number =>
    show (w.fire id number).Faultless
    unfold fire
    split
    · exact h
    · split
      · exact h.congr (faults_modify w id fun _ => rfl)
      · exact h
  | childOver parent => exact h.congr (faults_childOver w parent)

end Faultless

/-- A step of a world whose sweeps have results ends no task with a fault. -/
theorem faultless_step {next : World} (h : w.Faultless) (hsweeps : w.Sweeps)
    (hstep : w.step = some next) : next.Faultless := by
  unfold step at hstep
  split at hstep
  · rename_i wake rest _
    obtain rfl := Option.some.inj hstep
    exact Faultless.take (w := { w with ready := rest }) h
      (hsweeps.congr ⟨rfl, rfl, rfl, rfl⟩) wake
  · obtain ⟨timer, _, rfl⟩ := Option.map_eq_some_iff.mp hstep
    exact h

/-- No task ends with a fault, as long as sweeps have results. -/
theorem faultless_run (h : w.Faultless) {fuel : Nat} (hsweeps : ∀ n < fuel, (w.run n).Sweeps) :
    (w.run fuel).Faultless := by
  induction fuel generalizing w with
  | zero => exact h
  | succ fuel ih =>
    unfold run
    split
    · exact h
    · rename_i hgoesOn
      split
      · rename_i next hstep
        refine ih (faultless_step h (hsweeps 0 (Nat.succ_pos fuel)) hstep) fun n hn => ?_
        have hnext : w.run (n + 1) = next.run n := by
          rw [run, if_neg hgoesOn, hstep]
        exact hnext ▸ hsweeps (n + 1) (Nat.succ_lt_succ hn)
      · exact h

/-- Before the first command of a script no task has ended. -/
theorem faultless_fresh (monitor : Monitor Number) (registry : Registry)
    (receptions : List Reception) (wallStart : Moment) (script : List Command) :
    (fresh monitor registry receptions wallStart script).Faultless := by
  intro fault hfault
  exact List.mem_singleton.mp hfault

/-! ### Stops -/

/-- Is this a moment of a simulation at which the clock shows one of the years 2000 to 2100, and
    to which the monitor has come from its beginning with times such as clocks show? -/
structure Timely (monitor : Monitor Number) (registry : Registry) (w : World) : Prop where
  clock : ∃ now, w.wallClock = .ok now ∧ now.IsCurrent
  reached : ∃ moves : List (Move Number), (∀ move ∈ moves, move.Dated) ∧
    moves.length ≤ twoPow 896 ∧ ((Watch.fresh monitor).run registry moves).monitor = w.monitor

/-- At such a moment a sweep would have a result, with sweepable settings. -/
theorem Timely.sweeps {monitor : Monitor Number} {registry : Registry}
    (h : w.Timely monitor registry) (hactive : monitor.active = [])
    (hconfig : monitor.config.Sweepable) : w.Sweeps := by
  obtain ⟨moves, hdated, hmany, hmonitor⟩ := h.reached
  have hbegun : (Watch.fresh monitor).Dated 0 := by
    have hnobody : (Watch.fresh monitor).monitor.activeSessions = [] :=
      congrArg Table.values hactive
    refine ⟨fun s hs => ?_, nofun⟩
    rw [hnobody] at hs
    exact absurd hs List.not_mem_nil
  have hrun := Watch.dated_run registry hbegun hdated
  rw [Nat.zero_add] at hrun
  refine ⟨?_, h.clock, moves.length, hmany, ?_⟩
  · rw [← hmonitor, Watch.run_config]
    exact hconfig
  · rw [← hmonitor]
    exact hrun.measured

/-- **Sweepable settings are those with which a monitor in use goes on.**

    * However a new monitor is used, none of its sweeps fails: this is so exactly if its settings
      are sweepable.
    * If they are, no loop in the background ends with a fault, whatever a script asks for.  A stop
      that goes on after a loop then always comes to its flush.
    * A stop that waits for a loop does go on, after finitely many steps.
    * A flush that finds the breaker closed hands over all that waits.  As long as the receiver
      does not fail and nothing is interrupted, each match that waited when the flush began has
      been received, or is still held by it. -/
theorem sweeps_and_stops (registry : Registry) (server : Server) (config : MonitorConfig)
    (rules : List Rule) :
    (∀ hasReceiver, (∀ moves : List (Move Number), (∀ move ∈ moves, move.Dated) →
        moves.length ≤ twoPow 896 →
        ((Watch.fresh (freshMonitor server config rules hasReceiver)).run registry
          moves).CanSweep) ↔ config.Sweepable) ∧
    (config.Sweepable → ∀ hasReceiver receptions wallStart script fuel,
      let world := (fresh (freshMonitor server config rules hasReceiver) registry receptions
        wallStart script).run
      (∀ n < fuel, (world n).Timely (freshMonitor server config rules hasReceiver) registry) →
      (∀ task ∈ (world fuel).tasks, task.fault = none) ∧
        ∀ turn : World, turn.faults = (world fuel).faults →
          ∀ id loop, turn.afterLoop id loop = doneIf (turn.flush id)) ∧
    (∀ hasReceiver receptions wallStart script fuel id loop,
      let w := (fresh (freshMonitor server config rules hasReceiver) registry receptions
        wallStart script).run fuel
      w.Joining id loop → w.ComesBack id loop) ∧
    ∀ (before later : List (Move Number)) (takenAt offeredAt : Number),
      let w := (Watch.fresh (freshMonitor server config rules true)).run registry before
      w.monitor.breaker.openedAt = none → (∀ move ∈ later, move.goesWell = true) →
      ((w.after registry (.flush takenAt offeredAt)).run registry later).Drains
        w.desk.waiting := by
  refine ⟨fun hasReceiver => ?_, fun hconfig => ?_, ?_, fun before later takenAt offeredAt => ?_⟩
  · exact Watch.canSweep_iff registry server config rules hasReceiver _
  · intro hasReceiver receptions wallStart script fuel world htimely
    have hfaultless : (world fuel).Faultless :=
      faultless_run (faultless_fresh _ _ _ _ _) fun n hn => (htimely n hn).sweeps rfl hconfig
    refine ⟨fun task htask => hfaultless.fault_eq_none htask, fun turn hfaults id loop => ?_⟩
    have hturn : turn.Faultless := hfaultless.congr hfaults
    have hnone : (turn.tasks[loop]?).bind Task.fault = none := by
      cases htask : turn.tasks[loop]? with
      | none => rfl
      | some task => exact hturn.fault_eq_none (Array.mem_of_getElem? htask)
    simp only [afterLoop, hnone]
  · intro hasReceiver receptions wallStart script fuel id loop w hjoins
    exact comesBack_of_joining (orderly_run (orderly_fresh _ _ _ _ _) fuel) hjoins
  · intro w hclosed hlater
    have hconserved : w.Conserved := (Watch.conserved_fresh rfl rfl).run registry before
    exact Watch.flush_drains registry hconserved hclosed takenAt offeredAt hlater

/-- The instant at which the year 2000 begins. -/
def newYear : Moment := .universal Timestamp.currentFrom

/-- What Ann begins to watch then. -/
def atNewYear (id : String) : Session := .starting id "ann" "server" newYear

/-- Ann watches a film and hears a song, and every session is a match. -/
def filmNight : List (Move Number) :=
  [.start (atNewYear "film") Watch.ann newYear, .evaluated 0,
    .start (atNewYear "song") Watch.ann newYear, .evaluated 0]

/-- A monitor for that, with the settings where nothing else is set. -/
def atHome : Monitor Number :=
  freshMonitor ⟨"server", "Home", none⟩ .standard [Watch.everySession] true

/-- The same film, and then a loop in the background that is stopped again. -/
def filmOnly : World :=
  fresh atHome .standard [] newYear
    [.startSession (atNewYear "film") Watch.ann (some newYear), .start, .stop]

/-- The clock shows that instant. -/
theorem shown_newYear : newYear.Shown := ⟨by decide, by decide⟩

/-- Every move of that night is made at that instant. -/
theorem dated_filmNight : ∀ move ∈ filmNight, move.Dated := by
  have hsession : ∀ id, (atNewYear id).Measured 0 := by
    refine fun id => ⟨shown_newYear, nofun, nofun, ?_⟩
    rw [Nat.zero_mul]
    exact Int.le_refl 0
  intro move hmove
  simp only [filmNight, List.mem_cons, List.not_mem_nil, or_false] at hmove
  obtain rfl | rfl | rfl | rfl := hmove
  · exact ⟨hsession "film", shown_newYear⟩
  · trivial
  · exact ⟨hsession "song", shown_newYear⟩
  · trivial

/-- The first moves of that night are few. -/
theorem few_filmNight (n : Nat) : (filmNight.take n).length ≤ twoPow 896 := by
  have hfew : filmNight.length ≤ twoPow 2 := by decide
  calc (filmNight.take n).length
      ≤ filmNight.length := List.length_take_le' _ _
    _ ≤ twoPow 2 := hfew
    _ ≤ twoPow 896 := twoPow_le (by decide)

/-- The whole simulation happens at that instant, and does to the monitor what that night begins
    with. -/
theorem timely_filmOnly {n : Nat} (hn : n < 3) : (filmOnly.run n).Timely atHome .standard := by
  have hreached : ∃ count, ((Watch.fresh atHome).run .standard (filmNight.take count)).monitor =
      (filmOnly.run n).monitor := by
    match n, hn with
    | 0, _ => exact ⟨0, rfl⟩
    | 1, _ => exact ⟨2, rfl⟩
    | 2, _ => exact ⟨2, rfl⟩
  obtain ⟨count, hmonitor⟩ := hreached
  refine ⟨⟨newYear, ?_, Watch.isCurrent_bounds.1⟩, filmNight.take count,
    fun move hmove => dated_filmNight move (List.mem_of_mem_take hmove), few_filmNight count,
    hmonitor⟩
  have hclock : (filmOnly.run n).wallClock.toOption = some newYear :=
    (by decide +kernel : ∀ n < 3, (filmOnly.run n).wallClock.toOption = some newYear) n hn
  cases hshown : (filmOnly.run n).wallClock with
  | error fault =>
    rw [hshown] at hclock
    exact nomatch hclock
  | ok now =>
    rw [hshown] at hclock
    exact congrArg Except.ok (Option.some.inj hclock)

/-- Both matches are received, one after the other, and sweeps are possible.  A stop right after a
    start waits for its loop, goes on, and comes to its flush. -/
theorem sweeps_and_stops_filmNight :
    let w := (Watch.fresh atHome).run .standard filmNight
    let w' := (w.after .standard (.flush (.int 100) (.int 100))).run .standard
      [.received 0 (.int 101), .received 0 (.int 102)]
    w.CanSweep ∧ w.desk.waiting = [0, 1] ∧ (∀ number ∈ [0, 1], number ∈ w'.desk.finished) ∧
    (filmOnly.run 1).Joining 0 1 ∧ (filmOnly.run 1).ComesBack 0 1 ∧
    (∀ task ∈ (filmOnly.run 3).tasks, task.fault = none) ∧
    (filmOnly.run 2).afterLoop 0 1 = doneIf ((filmOnly.run 2).flush 0) ∧
    (filmOnly.run 2).monitor.pending.length = 1 ∧ (filmOnly.run 3).monitor.pending = [] := by
  intro w w'
  obtain ⟨hsweeps, hstops, hwaits, hdrains⟩ :=
    sweeps_and_stops .standard ⟨"server", "Home", none⟩ .standard [Watch.everySession]
  have hclosed : w.monitor.breaker.openedAt = none := by
    have hnone : w.monitor.breaker.openedAt.isNone = true := by decide +kernel
    exact Option.isNone_iff_eq_none.mp hnone
  have hwaiting : w.desk.waiting = [0, 1] := by decide +kernel
  have hended : w'.flushes = [] := by
    have hlength : w'.flushes.length = 0 := by decide +kernel
    exact List.length_eq_zero_iff.mp hlength
  have hdrained : w'.Drains w.desk.waiting :=
    hdrains filmNight [.received 0 (.int 101), .received 0 (.int 102)] (.int 100) (.int 100) hclosed
      (by decide)
  have hjoins : (filmOnly.run 1).Joining 0 1 := ⟨_, rfl, rfl⟩
  obtain ⟨hfaultless, hflushes⟩ := hstops MonitorConfig.standard_sweepable true [] newYear _ 3
    fun n hn => timely_filmOnly hn
  refine ⟨(hsweeps true).mpr MonitorConfig.standard_sweepable filmNight dated_filmNight
    (few_filmNight 4), hwaiting, ?_, hjoins, hwaits true [] newYear _ 1 0 1 hjoins, hfaultless,
    hflushes (filmOnly.run 2) rfl 0 1, rfl, rfl⟩
  obtain ⟨done, left, hsplit, hdone, rfl | ⟨flush, hflush, _⟩⟩ := hdrained
  · rw [hwaiting, List.append_nil] at hsplit
    exact hsplit ▸ hdone
  · rw [hended] at hflush
    exact absurd hflush List.not_mem_nil

/-- Settings that leave a history less than no length. -/
def negativeLength : MonitorConfig := { MonitorConfig.standard with maxRecentSessions := -1 }

/-- Such settings are accepted.  A session is watched and stopped, and then a sweep fails. -/
theorem not_sweeps_negativeLength :
    MonitorConfig.ofGiven (.record [("max_recent_sessions", .int (-1))]) =
      .accepted negativeLength ∧
    (∀ move ∈ Move.screening (τ := Number) Timestamp.currentFrom, move.Dated) ∧
    newYear.IsCurrent ∧
    let w := (Watch.fresh (freshMonitor ⟨"server", "Home", none⟩ negativeLength [] false)).run
      .standard (Move.screening Timestamp.currentFrom)
    (w.monitor.sweep newYear).result = .error .emptyHistory :=
  ⟨rfl, Watch.dated_screening, Watch.isCurrent_bounds.1, rfl⟩

end World

end StreamWatch.Simulation
