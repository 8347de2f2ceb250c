import StreamWatch.Proofs.Simulation.Reached

namespace StreamWatch.Simulation

/-!
# Every simulation is a run of a monitor in use

The tasks of a simulation take turns as the scheduler says, and in its turn a task may do many
things with the monitor.  All that is a run of moves.

* `View.Settled` — while every task waits, some run comes to the view of the world;
* `View.Turn` — in the turn of a task, some run comes to what the others hold on to, and to what
  the task itself holds on to by then.  Its place in the view may be out of date;
* `View.Offering` — the same where the task has a batch in hand and does not wait;
* `World.Resolved`, `World.Handed` — what holds when a command, or a flush, waits or is over;
* `World.settled_take`, `World.settled_step` — a turn, and a step, of a settled world;
* `World.run_reached` — hence every world that a script comes to.
-/

namespace View

variable {v₀ : Watch Number} {registry : Registry} {view : View} {id : Nat}
  {holding : Option Holding}

/-- What the tasks hold on to. -/
def held (view : View) : List Holding := view.holdings.filterMap fun holding => holding

/-- What the tasks other than one hold on to. -/
def others (view : View) (id : Nat) : List Holding :=
  (view.holdings.eraseIdx id).filterMap fun holding => holding

/-- Does some run come to this view, while every task waits? -/
structure Settled (v₀ : Watch Number) (registry : Registry) (view : View) : Prop where
  registered : view.registry = registry
  reached : Reached v₀ registry view.monitor view.held

/-- Does some run come to this view, where a task that does not wait holds on to something? -/
structure Turn (v₀ : Watch Number) (registry : Registry) (view : View) (id : Nat)
    (holding : Option Holding) : Prop where
  registered : view.registry = registry
  inRange : id < view.holdings.length
  reached : Reached v₀ registry view.monitor (holding.toList ++ view.others id)

/-- Can a task that does not wait go on with a batch? -/
structure Offering (v₀ : Watch Number) (registry : Registry) (view : View) (id : Nat)
    (batch : List Match) : Prop where
  registered : view.registry = registry
  inRange : id < view.holdings.length
  offerable : Offerable v₀ registry view.monitor batch (view.others id)

/-- What the tasks hold on to is what one of them does and what the others do. -/
theorem held_perm (h : view.holdings[id]? = some holding) :
    view.held.Perm (holding.toList ++ view.others id) := by
  have hothers := (Watch.slot_perm h).filterMap fun holding => holding
  refine hothers.trans ?_
  rw [List.filterMap_cons]
  cases holding with
  | none => exact .refl _
  | some holding => exact .refl _

/-- In its turn a task of a settled world holds on to what it held on to while it waited. -/
theorem Settled.turn (h : view.Settled v₀ registry)
    (hholding : view.holdings[id]? = some holding) : view.Turn v₀ registry id holding where
  registered := h.registered
  inRange := (List.getElem?_eq_some_iff.mp hholding).1
  reached := h.reached.perm (held_perm hholding)

/-- At the end of its turn a task waits with what it holds on to. -/
theorem Turn.settled (h : view.Turn v₀ registry id holding) :
    (view.withHolding id holding).Settled v₀ registry := by
  have hholding : (view.withHolding id holding).holdings[id]? = some holding := by
    simp only [withHolding, List.getElem?_set_self h.inRange]
  have hothers : (view.withHolding id holding).others id = view.others id := by
    simp only [others, withHolding, List.eraseIdx_set_eq]
  refine ⟨h.registered, h.reached.perm ?_⟩
  rw [← hothers]
  exact (held_perm hholding).symm

/-- Tasks that begin in the turn of another one hold on to nothing. -/
theorem Turn.withTasks (h : view.Turn v₀ registry id holding) (count : Nat) :
    (view.withTasks count).Turn v₀ registry id holding := by
  obtain ⟨hregistered, hinRange, hreached⟩ := h
  have hothers : (view.withTasks count).others id = view.others id := by
    have hnothing : (List.replicate count (none : Option Holding)).filterMap (fun h => h) = [] :=
      List.filterMap_replicate_of_none rfl
    rw [others, View.withTasks, List.eraseIdx_append_of_lt_length hinRange,
      List.filterMap_append, hnothing, List.append_nil, others]
  refine ⟨hregistered, ?_, ?_⟩
  · simp only [View.withTasks, List.length_append]
    omega
  · rw [hothers]
    exact hreached

/-- In its turn a task works on the monitor. -/
theorem Turn.operate (h : view.Turn v₀ registry id holding) {m : Monitor Number}
    {holding' : Option Holding}
    (hm : ∀ held, Reached v₀ registry view.monitor (holding.toList ++ held) →
      Reached v₀ registry m (holding'.toList ++ held)) :
    (view.withMonitor m).Turn v₀ registry id holding' :=
  ⟨h.registered, h.inRange, hm _ h.reached⟩

end View

namespace World

variable {v₀ : Watch Number} {registry : Registry} {w : World} {id : Nat}

/-! ### Commands -/

/-- Does a command that has a result leave its task in its turn, and one that has to wait a
    settled world? -/
def Resolved (v₀ : Watch Number) (registry : Registry) (id : Nat) : Progress → Prop
  | (w, some _) => w.view.Turn v₀ registry id none
  | (w, none) => w.view.Settled v₀ registry

/-- Does a flush that is over leave its task in its turn, and one that waits a settled
    world? -/
def Handed (v₀ : Watch Number) (registry : Registry) (id : Nat) : World × Bool → Prop
  | (w, true) => w.view.Turn v₀ registry id none
  | (w, false) => w.view.Settled v₀ registry

/-- A flush as a command. -/
theorem Handed.resolved {progress : World × Bool} (h : Handed v₀ registry id progress) :
    Resolved v₀ registry id (doneIf progress) := by
  obtain ⟨w, isOver⟩ := progress
  cases isOver with
  | false => exact h
  | true => exact h

/-- The rounds of an evaluation. -/
theorem resolved_nextRound {session : Session} {found : List Verdict}
    (h : w.view.Turn v₀ registry id (some (.evaluation ⟨session, found⟩)))
    (rounds : List (List Probe)) :
    Resolved v₀ registry id (w.nextRound id session found rounds) := by
  induction rounds with
  | nil =>
    -- Nothing is left to wait for: the evaluation ends, and its verdicts are queued.
    show (w.absorb (w.monitor.enqueue session found)).view.Turn v₀ registry id none
    rw [view_absorb]
    exact h.operate fun held hheld => hheld.evaluated
  | cons round rest ih =>
    cases round with
    | nil => exact ih
    | cons probe probes =>
      show ((w.spawnAll _).setActivity id _).view.Settled v₀ registry
      rw [view_setActivity, view_spawnAll]
      exact (h.withTasks _).settled

/-- A start. -/
theorem resolved_startSession (h : w.view.Turn v₀ registry id none) (session : Session)
    (user : User) (now : Timestamp) :
    Resolved v₀ registry id (w.startSession id session user now) := by
  unfold startSession
  cases hresult : (w.monitor.register session user now).result with
  | error fault =>
    simp only [hresult]
    show (w.absorb (w.monitor.register session user now)).view.Turn v₀ registry id none
    rw [view_absorb]
    exact h.operate fun held hheld => hheld.start_fault hresult
  | ok context =>
    simp only [hresult]
    apply resolved_nextRound
    rw [view_absorb]
    obtain rfl := h.registered
    exact h.operate fun held hheld => hheld.start hresult

/-- The first match of a batch is done with. -/
theorem offering_settle {first : Match} {rest : List Match}
    (h : w.view.Turn v₀ registry id (some (.batch (first :: rest)))) (reception : Reception) :
    (w.settle first reception).view.Offering v₀ registry id rest := by
  obtain ⟨hregistered, hinRange, hreached⟩ := h
  unfold settle
  cases reception.refusal with
  | some reason =>
    simp only
    rw [view_note]
    exact ⟨hregistered, hinRange, hreached.refused w.clock reason⟩
  | none =>
    simp only
    rw [view_happened]
    exact ⟨hregistered, hinRange, hreached.received⟩

/-- A batch is handed over, match by match. -/
theorem handed_hand {batch : List Match} (h : w.view.Offering v₀ registry id batch) :
    Handed v₀ registry id (w.hand id batch) := by
  induction batch generalizing w with
  | nil => exact ⟨h.registered, h.inRange, h.offerable w.clock⟩
  | cons first rest ih =>
    obtain ⟨hregistered, hinRange, hofferable⟩ := h
    have hreached : Reached v₀ registry (w.monitor.offer w.clock (first :: rest)).value.2
        (if (w.monitor.offer w.clock (first :: rest)).value.1.isEmpty then w.view.others id
          else .batch (first :: rest) :: w.view.others id) := hofferable w.clock
    have hview : ({ w with monitor := (w.monitor.offer w.clock (first :: rest)).value.2 }.note
        (w.monitor.offer w.clock (first :: rest)).steps).view =
        w.view.withMonitor (w.monitor.offer w.clock (first :: rest)).value.2 := view_note _ _
    unfold hand
    simp only
    by_cases hover : (w.monitor.offer w.clock (first :: rest)).value.1.isEmpty = true
    · rw [if_pos hover] at hreached ⊢
      show View.Turn v₀ registry (view _) id none
      rw [hview]
      exact ⟨hregistered, hinRange, hreached⟩
    · rw [if_neg hover] at hreached ⊢
      generalize ({ w with monitor := (w.monitor.offer w.clock (first :: rest)).value.2 }.note
        (w.monitor.offer w.clock (first :: rest)).steps) = offered at hview ⊢
      -- The receiver is called, so the whole batch is in hand until it has answered.
      have hturn : offered.nextReception.2.view.Turn v₀ registry id
          (some (.batch (first :: rest))) := by
        rw [view_nextReception, hview]
        exact ⟨hregistered, hinRange, hreached⟩
      cases offered.nextReception.1.wait with
      | some seconds =>
        simp only
        show View.Settled v₀ registry (view _)
        rw [view_sleep, view_setActivity]
        exact hturn.settled
      | none =>
        simp only
        exact ih (offering_settle hturn _)

/-- The matches that wait are taken and handed over. -/
theorem handed_flush (h : w.view.Turn v₀ registry id none) :
    Handed v₀ registry id (w.flush id) := by
  obtain ⟨hregistered, hinRange, hreached⟩ := h
  apply handed_hand
  rw [view_note]
  exact ⟨hregistered, hinRange, hreached.flush w.clock⟩

/-- The rest of a batch is handed over, after its first match. -/
theorem handed_handOn {batch : List Match} {reception : Reception}
    (h : w.view.Turn v₀ registry id (Activity.handing batch reception).holding?) :
    Handed v₀ registry id (w.handOn id reception batch) := by
  cases batch with
  | nil => exact h
  | cons first rest => exact handed_hand (offering_settle h reception)

/-- A stop goes on when the loop has ended. -/
theorem resolved_afterLoop (h : w.view.Turn v₀ registry id none) (loop : Nat) :
    Resolved v₀ registry id (w.afterLoop id loop) := by
  unfold afterLoop
  split
  · exact h
  · exact (handed_flush h).resolved

/-- A stop of the loop. -/
theorem resolved_stopLoop (h : w.view.Turn v₀ registry id none) :
    Resolved v₀ registry id (w.stopLoop id) := by
  have hstopped : ({ w with running := false } : World).view.Turn v₀ registry id none := h
  unfold stopLoop
  simp only
  split
  · exact (handed_flush hstopped).resolved
  · rename_i loop _
    split
    · exact resolved_afterLoop hstopped loop
    · have hasked : ((World.cancel { w with running := false } loop).modify loop fun task =>
          { task with waiters := task.waiters ++ [id] }).view =
            (World.cancel { w with running := false } loop).view :=
        view_modify _ loop fun _ => rfl
      show View.Settled v₀ registry (view _)
      rw [view_setActivity, hasked, view_cancel]
      exact hstopped.settled

/-- Commands that begin side by side. -/
theorem resolved_beginAll (h : w.view.Turn v₀ registry id none) (commands : List Command) :
    Resolved v₀ registry id (w.beginAll id commands) := by
  unfold beginAll
  split
  · exact h
  · show View.Settled v₀ registry (view _)
    rw [view_setActivity, view_spawnAll]
    exact (h.withTasks _).settled

/-- An operation of the monitor that does not wait. -/
theorem resolved_perform {α : Type} (h : w.view.Turn v₀ registry id none)
    {outcome : Outcome Number α} (write : α → Result)
    (hmonitor : ∀ held, Reached v₀ registry w.view.monitor held →
      Reached v₀ registry outcome.monitor held) :
    Resolved v₀ registry id (w.perform outcome write) := by
  show (w.absorb outcome).view.Turn v₀ registry id none
  rw [view_absorb]
  exact h.operate hmonitor

/-- An operation that needs a time. -/
theorem resolved_timed (h : w.view.Turn v₀ registry id none) (given : Option Timestamp)
    {act : Timestamp → Progress} (hact : ∀ now, Resolved v₀ registry id (act now)) :
    Resolved v₀ registry id (w.timed given act) := by
  unfold timed
  split
  · exact hact _
  · exact h

/-- A command begins. -/
theorem resolved_begin (h : w.view.Turn v₀ registry id none) (command : Command) :
    Resolved v₀ registry id (w.begin id command) := by
  cases command with
  | startSession session user now =>
    exact resolved_timed h now (resolved_startSession h session user)
  | update sessionId stateName position now =>
    exact resolved_timed h now fun now => resolved_perform h _ fun held hheld =>
      hheld.report sessionId stateName position now
  | stopSession sessionId stoppedAt forced =>
    exact resolved_timed h stoppedAt fun t => resolved_perform h _ fun held hheld =>
      hheld.stop sessionId t forced
  | sweep now =>
    exact resolved_timed h now fun now => resolved_perform h _ fun held hheld => hheld.sweep now
  | setRules rules => exact h.operate fun held hheld => hheld.setRules rules
  | flush => exact (handed_flush h).resolved
  | start =>
    show (World.spawn _ _).view.Turn v₀ registry id none
    rw [view_spawn]
    exact View.Turn.withTasks h 1
  | stop => exact resolved_stopLoop h
  | pause seconds =>
    unfold begin
    simp only
    split
    · show View.Settled v₀ registry (view _)
      rw [view_sleep, view_setActivity]
      exact h.settled
    · exact h
  | together commands => exact resolved_beginAll h commands
  | malformed issues => exact h

/-- A command goes on that had to wait. -/
theorem resolved_resumeCommand {activity : Activity} (hsettled : w.view.Settled v₀ registry)
    (h : w.view.Turn v₀ registry id activity.holding?) :
    Resolved v₀ registry id (w.resumeCommand id activity) := by
  cases activity with
  | evaluating session found rounds left => exact resolved_nextRound h rounds
  | handing batch reception => exact (handed_handOn h).resolved
  | joining loop => exact resolved_afterLoop h loop
  | pausing => exact h
  | gathering results left => exact h
  | fresh => exact hsettled
  | _ => exact hsettled

/-- A script goes on with its next commands, until one has to wait. -/
theorem settled_runScript (h : w.view.Turn v₀ registry id none) (commands : List Command) :
    (w.runScript id commands).view.Settled v₀ registry := by
  induction commands generalizing w with
  | nil =>
    show (w.finish id none).view.Settled v₀ registry
    rw [view_finish]
    exact h.settled
  | cons command rest ih =>
    have hresolved := resolved_begin h command
    unfold runScript
    rcases hbegun : w.begin id command with ⟨begun, _ | result⟩
    · have hleft : (begun.modify id fun task => { task with role := .script rest }).view =
          begun.view := view_modify begun id fun _ => rfl
      rw [hbegun] at hresolved
      simp only
      rw [hleft]
      exact hresolved
    · rw [hbegun] at hresolved
      apply ih
      rw [view_report]
      exact hresolved

/-- A branch ends with its command. -/
theorem settled_closeBranch (parent slot : Nat) {progress : Progress}
    (h : Resolved v₀ registry id progress) :
    (closeBranch id parent slot progress).view.Settled v₀ registry := by
  obtain ⟨w, _ | result⟩ := progress
  · exact h
  · have hturn : w.view.Turn v₀ registry id none := h
    show (queue _ _).view.Settled v₀ registry
    rw [view_queue, view_finish, view_collect]
    exact hturn.settled

/-! ### Loops and probes -/

/-- A round of a loop begins, or the loop ends. -/
theorem settled_loopRound (h : w.view.Turn v₀ registry id none) :
    (w.loopRound id).view.Settled v₀ registry := by
  unfold loopRound
  split
  · rw [view_sleep, view_setActivity]
    exact h.settled
  · rw [view_finish]
    exact h.settled

/-- The sweep of a round. -/
theorem settled_loopSweep (h : w.view.Turn v₀ registry id none) :
    (w.loopSweep id).view.Settled v₀ registry := by
  unfold loopSweep
  cases w.wallClock with
  | error fault =>
    simp only
    rw [view_finish]
    exact h.settled
  | ok now =>
    have hswept : (w.absorb (w.monitor.sweep now)).view.Turn v₀ registry id none := by
      rw [view_absorb]
      exact h.operate fun held hheld => hheld.sweep now
    simp only
    cases (w.monitor.sweep now).result with
    | ok _ => exact settled_loopRound hswept
    | error fault =>
      simp only
      rw [view_finish]
      exact hswept.settled

/-- What follows on the flush of a round. -/
theorem settled_afterFlush {progress : World × Bool} (h : Handed v₀ registry id progress) :
    (afterFlush id progress).view.Settled v₀ registry := by
  obtain ⟨w, _ | _⟩ := progress
  · exact h
  · exact settled_loopSweep h

/-- The turn of a loop. -/
theorem settled_resumeLoop {activity : Activity} (hsettled : w.view.Settled v₀ registry)
    (h : w.view.Turn v₀ registry id activity.holding?) :
    (w.resumeLoop id activity).view.Settled v₀ registry := by
  cases activity with
  | fresh => exact settled_loopRound h
  | pausing => exact settled_afterFlush (handed_flush h)
  | handing batch reception => exact settled_afterFlush (handed_handOn h)
  | evaluating session found rounds left => exact hsettled
  | joining loop => exact hsettled
  | gathering results left => exact hsettled
  | _ => exact hsettled

/-- A loop that is interrupted in its turn holds on to nothing any more. -/
theorem settled_interruptLoop {activity : Activity}
    (h : w.view.Turn v₀ registry id activity.holding?) :
    (w.interruptLoop id activity).view.Settled v₀ registry := by
  have hended : ∀ {ended : World}, ended.view.Turn v₀ registry id none →
      (ended.finish id none).view.Settled v₀ registry := by
    intro ended hturn
    rw [view_finish]
    exact hturn.settled
  cases activity with
  | handing batch reception =>
    apply hended
    rw [view_note]
    cases batch with
    | nil => exact h
    | cons first rest => exact h.operate fun held hheld => hheld.interrupted
  | evaluating session found rounds left =>
    -- A loop never evaluates.  If it did, nobody would go on with the evaluation.
    apply hended
    exact h.operate fun held hheld => hheld.abandon
  | fresh => exact hended h
  | pausing => exact hended h
  | joining loop => exact hended h
  | gathering results left => exact hended h
  | _ => exact hended h

/-- A probe ends. -/
theorem settled_closeProbe (h : w.view.Turn v₀ registry id none) (parent : Nat) (probe : Probe) :
    (w.closeProbe id parent probe).view.Settled v₀ registry := by
  show (queue _ _).view.Settled v₀ registry
  rw [view_queue, view_finish, view_note]
  exact h.settled

/-- The turn of a probe. -/
theorem settled_resumeProbe {activity : Activity} (hsettled : w.view.Settled v₀ registry)
    (h : w.view.Turn v₀ registry id activity.holding?) (parent : Nat) (probe : Probe) :
    (w.resumeProbe id parent probe activity).view.Settled v₀ registry := by
  cases activity with
  | fresh =>
    have hcalled : (if probe.called then w.happened (.called probe.condition) else w).view =
        w.view := by
      split <;> rfl
    have hturn : (if probe.called then w.happened (.called probe.condition)
        else w).view.Turn v₀ registry id none := by
      rw [hcalled]
      exact h
    unfold resumeProbe
    simp only
    cases probe.wait with
    | some seconds =>
      simp only
      rw [view_sleep, view_setActivity]
      exact hturn.settled
    | none => exact settled_closeProbe hturn parent probe
  | pausing => exact settled_closeProbe h parent probe
  | evaluating session found rounds left => exact hsettled
  | handing batch reception => exact hsettled
  | joining loop => exact hsettled
  | gathering results left => exact hsettled
  | _ => exact hsettled

/-! ### Turns -/

/-- The turn of a task. -/
theorem settled_resume (h : w.view.Settled v₀ registry) (id : Nat) :
    (w.resume id).view.Settled v₀ registry := by
  unfold resume
  cases htask : w.tasks[id]? with
  | none => exact h
  | some task =>
    have hview : (w.modify id fun task => { task with cancelled := false }).view = w.view :=
      view_modify w id fun _ => rfl
    have hturn := h.turn (holding_of_task htask)
    rw [← hview] at h hturn
    -- From here on only the world matters in which the task is not cancelled any more.
    generalize w.modify id (fun task => { task with cancelled := false }) = w at h hturn ⊢
    simp only
    cases task.role with
    | script rest =>
      have hresumed := resolved_resumeCommand h hturn
      simp only
      split
      · rename_i hfresh
        rw [hfresh] at hturn
        exact settled_runScript hturn rest
      · split
        · rename_i hprogress
          rw [hprogress] at hresumed
          apply settled_runScript
          rw [view_report]
          exact hresumed
        · rename_i hprogress
          rw [hprogress] at hresumed
          exact hresumed
    | branch parent slot command =>
      simp only
      split
      · rename_i hfresh
        rw [hfresh] at hturn
        exact settled_closeBranch parent slot (resolved_begin hturn command)
      · exact settled_closeBranch parent slot (resolved_resumeCommand h hturn)
    | loop =>
      simp only
      split
      · exact settled_interruptLoop hturn
      · exact settled_resumeLoop h hturn
    | probe parent probe => exact settled_resumeProbe h hturn parent probe

/-- What happens next leaves a settled world. -/
theorem settled_take (h : w.view.Settled v₀ registry) (wake : Wake) :
    (w.take wake).view.Settled v₀ registry := by
  cases wake with
  | resume id => exact settled_resume h id
  | fire id number =>
    show (w.fire id number).view.Settled v₀ registry
    unfold fire
    split
    · exact h
    · split
      · have hwoken : (w.modify id fun task => { task with timer := none }).view = w.view :=
          view_modify w id fun _ => rfl
        rw [view_queue, hwoken]
        exact h
      · exact h
  | childOver parent =>
    show (w.childOver parent).view.Settled v₀ registry
    rw [view_childOver]
    exact h

/-- A step leaves a settled world. -/
theorem settled_step {next : World} (h : w.view.Settled v₀ registry) (hstep : w.step = some next) :
    next.view.Settled v₀ registry := by
  unfold step at hstep
  split at hstep
  · rename_i wake rest _
    obtain rfl := Option.some.inj hstep
    exact settled_take (w := { w with ready := rest }) h wake
  · obtain ⟨timer, _, rfl⟩ := Option.map_eq_some_iff.mp hstep
    exact h

/-- Steps leave a settled world, however many they are. -/
theorem settled_run (h : w.view.Settled v₀ registry) (fuel : Nat) :
    (w.run fuel).view.Settled v₀ registry := by
  induction fuel generalizing w with
  | zero => exact h
  | succ fuel ih =>
    unfold run
    split
    · exact h
    · split
      · rename_i next hstep
        exact ih (settled_step h hstep)
      · exact h

/-- Before the first command of a script nobody holds on to anything. -/
theorem settled_fresh (monitor : Monitor Number) (registry : Registry)
    (receptions : List Reception) (wallStart : Moment) (script : List Command) :
    (fresh monitor registry receptions wallStart script).view.Settled (.fresh monitor)
      registry :=
  ⟨rfl, [], rfl, [], .refl _⟩

/-- Whatever a script asks for and however far it has come, some run of a monitor in use comes
    to the monitor of the world, and to what its tasks hold on to. -/
theorem run_reached (monitor : Monitor Number) (registry : Registry)
    (receptions : List Reception) (wallStart : Moment) (script : List Command)
    (fuel : Nat) :
    Reached (.fresh monitor) registry
      ((fresh monitor registry receptions wallStart script).run fuel).monitor
      ((fresh monitor registry receptions wallStart script).run fuel).view.held :=
  (settled_run (settled_fresh monitor registry receptions wallStart script) fuel).reached

end World

end StreamWatch.Simulation
