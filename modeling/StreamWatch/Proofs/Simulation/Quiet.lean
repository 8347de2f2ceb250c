import StreamWatch.Proofs.Simulation.Wakes

namespace StreamWatch.Simulation

/-!
# Changes that neither start nor stop a loop

Only a start begins a loop, and only a start or a stop says whether loops are to go on.

* `World.loopsAlive` — the loops that have not ended;
* `World.Quiet` — does a change leave the loops, the reports and the roles of the tasks alone?
* `World.Goes.quiet`, `World.quiet_closeBranch`, `World.Rounds.quiet`, `World.quiet_resumeProbe` —
  so do all turns in which no loop is started or stopped;
* `World.quiet_childOver`, `World.quiet_fire`, `World.quiet_moveTime` — and whatever is no turn.
-/

/-- Is this a loop that has not ended? -/
def Task.isLiveLoop (task : Task) : Bool :=
  match task.role, task.activity with
  | .loop, .over => false
  | .loop, _ => true
  | _, _ => false

/-- When is a task a loop that has not ended? -/
theorem Task.isLiveLoop_iff (task : Task) :
    task.isLiveLoop = true ↔ task.role.kind = .loop ∧ task.activity.phase ≠ .ended := by
  obtain ⟨role, activity⟩ := task
  cases role <;> cases activity <;>
    simp [Task.isLiveLoop, Role.kind, Activity.phase]

namespace World

variable {w w' w'' : World} {id other loop : Nat} {task task' : Task} {parts : List Command}
  {acting : Option Nat}

/-- The loops that have not ended. -/
def loopsAlive (w : World) : List Nat :=
  (List.range w.tasks.size).filter fun id => (w.tasks[id]?).any Task.isLiveLoop

/-- Which loops have not ended? -/
theorem mem_loopsAlive : id ∈ w.loopsAlive ↔ ∃ task, w.tasks[id]? = some task ∧
    task.role.kind = .loop ∧ task.activity.phase ≠ .ended := by
  unfold loopsAlive
  rw [List.mem_filter, List.mem_range, Option.any_eq_true]
  constructor
  · rintro ⟨_, task, htask, hlive⟩
    exact ⟨task, htask, task.isLiveLoop_iff.mp hlive⟩
  · rintro ⟨task, htask, hlive⟩
    obtain ⟨hsize, _⟩ := Array.getElem?_eq_some_iff.mp htask
    exact ⟨hsize, task, htask, task.isLiveLoop_iff.mpr hlive⟩

/-- Is one task as another one, but for what it has found or is told? -/
structure Resembles (task task' : Task) : Prop where
  phase : task'.activity.phase = task.activity.phase
  fresh : task'.activity = .fresh ↔ task.activity = .fresh

/-- A task resembles itself. -/
theorem Resembles.refl (task : Task) : Resembles task task := ⟨rfl, Iff.rfl⟩

/-- Does a change leave the loops, the reports and the roles alone?  Only the acting task gets on,
    and only tasks begin that another one waits for. -/
structure Quiet (acting : Option Nat) (parts : List Command) (w w' : World) : Prop where
  loop : w'.loop = w.loop
  running : w'.running = w.running
  reports : w'.reports = w.reports
  kept : ∀ {id task}, w.tasks[id]? = some task → ∃ task', w'.tasks[id]? = some task' ∧
    task'.role = task.role ∧ (acting ≠ some id → Resembles task task')
  begun : ∀ {id task'}, w.tasks[id]? = none → w'.tasks[id]? = some task' →
    (∃ parent, task'.role.Begun parent parts) ∧ (acting ≠ some id → task'.activity.phase = .going)

namespace Quiet

/-- Two such changes are one. -/
theorem trans (h : Quiet acting parts w w') (h' : Quiet acting parts w' w'') :
    Quiet acting parts w w'' where
  loop := h'.loop.trans h.loop
  running := h'.running.trans h.running
  reports := h'.reports.trans h.reports
  kept {id task} htask := by
    obtain ⟨task', htask', hrole, hlike⟩ := h.kept htask
    obtain ⟨task'', htask'', hrole', hlike'⟩ := h'.kept htask'
    refine ⟨task'', htask'', hrole'.trans hrole, fun hid => ?_⟩
    obtain ⟨hphase, hfresh⟩ := hlike hid
    obtain ⟨hphase', hfresh'⟩ := hlike' hid
    exact ⟨hphase'.trans hphase, hfresh'.trans hfresh⟩
  begun {id task''} hnone htask'' := by
    cases hbetween : w'.tasks[id]? with
    | none => exact h'.begun hbetween htask''
    | some task' =>
      obtain ⟨⟨parent, hparent⟩, hgoing⟩ := h.begun hnone hbetween
      obtain ⟨found, hfound, hrole, hlike⟩ := h'.kept hbetween
      obtain rfl := Option.some.inj (hfound.symm.trans htask'')
      exact ⟨⟨parent, hrole ▸ hparent⟩, fun hid => (hlike hid).phase.trans (hgoing hid)⟩

/-- A task has the role that it had before, or it has begun in the change. -/
theorem role_cases (h : Quiet acting parts w w') (htask' : w'.tasks[id]? = some task') :
    (∃ task, w.tasks[id]? = some task ∧ task'.role = task.role) ∨
      ∃ parent, task'.role.Begun parent parts := by
  cases htask : w.tasks[id]? with
  | none => exact .inr (h.begun htask htask').1
  | some task =>
    obtain ⟨found, hfound, hrole, _⟩ := h.kept htask
    obtain rfl := Option.some.inj (hfound.symm.trans htask')
    exact .inl ⟨task, rfl, hrole⟩

/-- A change of anything but the tasks, the loops and the reports. -/
theorem of_same (htasks : w'.tasks = w.tasks) (hloop : w'.loop = w.loop)
    (hrunning : w'.running = w.running) (hreports : w'.reports = w.reports) :
    Quiet acting parts w w' :=
  ⟨hloop, hrunning, hreports, fun htask => ⟨_, htasks ▸ htask, rfl, fun _ => .refl _⟩,
    fun hnone hsome => by rw [htasks, hnone] at hsome; cases hsome⟩

/-- Nothing changes. -/
theorem refl (w : World) : Quiet acting parts w w := of_same rfl rfl rfl rfl

/-- A change that does not show. -/
theorem of_steady (h : Steady w w') : Quiet acting parts w w' :=
  of_same h.tasks h.loop h.running h.reports

/-- A task changes, but not its role, and only the acting task gets on. -/
theorem modify {f : Task → Task} (hrole : ∀ task, w.tasks[id]? = some task →
      (f task).role = task.role)
    (hlike : acting ≠ some id → ∀ task, w.tasks[id]? = some task → Resembles task (f task)) :
    Quiet acting parts w (w.modify id f) := by
  refine ⟨rfl, rfl, rfl, fun {other task} htask => ?_,
    fun {other task'} hnone hsome => absurd hsome (tasks_modify_none hnone)⟩
  by_cases hid : id = other
  · subst hid
    exact ⟨f task, tasks_modify_self htask f, hrole task htask, fun hne => hlike hne task htask⟩
  · exact ⟨task, (tasks_modify_of_ne hid f).trans htask, rfl, fun _ => .refl task⟩

/-- The acting task gets on. -/
theorem setActivity (w : World) (id : Nat) (activity : Activity) :
    Quiet (some id) parts w (w.setActivity id activity) :=
  modify (fun _ _ => rfl) fun hne => absurd rfl hne

/-- A task is told something that does not get it on. -/
theorem mark {f : Task → Task} (hrole : ∀ task, (f task).role = task.role)
    (hactivity : ∀ task, (f task).activity = task.activity) :
    Quiet acting parts w (w.modify id f) :=
  modify (fun task _ => hrole task) fun _ task _ =>
    ⟨congrArg Activity.phase (hactivity task), by rw [hactivity task]⟩

/-- A task waits for a time to come. -/
theorem sleep (w : World) (id : Nat) (seconds : Number) :
    Quiet acting parts w (w.sleep id seconds) := by
  unfold World.sleep
  split
  · exact of_same rfl rfl rfl rfl
  · have htimer : Quiet acting parts w { w with
        timers := insertTimer ⟨w.elapsed + seconds.toFloat, id, w.timerCount⟩ w.timers
        timerCount := w.timerCount + 1 } := of_same rfl rfl rfl rfl
    exact htimer.trans (mark (fun _ => rfl) fun _ => rfl)

/-- A task begins that another one waits for. -/
theorem spawn (w : World) {role : Role} {parent : Nat} (hrole : role.Begun parent parts) :
    Quiet acting parts w (w.spawn role) := by
  refine ⟨rfl, rfl, rfl, fun {other task} htask => ⟨task, ?_, rfl, fun _ => .refl task⟩,
    fun {other task'} hnone hsome => ?_⟩
  · obtain ⟨hsize, _⟩ := Array.getElem?_eq_some_iff.mp htask
    rw [tasks_spawn, if_neg (Nat.ne_of_lt hsize)]
    exact htask
  · rw [tasks_spawn] at hsome
    split at hsome
    · obtain rfl := Option.some.inj hsome
      exact ⟨⟨parent, hrole⟩, fun _ => rfl⟩
    · exact absurd (hsome.symm.trans hnone) nofun

/-- Several tasks begin that another one waits for. -/
theorem spawnAll (w : World) {roles : List Role} {parent : Nat}
    (hroles : ∀ role ∈ roles, role.Begun parent parts) :
    Quiet acting parts w (w.spawnAll roles) := by
  unfold World.spawnAll
  induction roles generalizing w with
  | nil => exact refl w
  | cons role rest ih =>
    have hfirst : Quiet acting parts w (w.spawn role) :=
      spawn w (hroles role List.mem_cons_self)
    exact hfirst.trans (ih _ fun other hother => hroles other (List.mem_cons_of_mem _ hother))

/-- The acting task ends. -/
theorem finish (w : World) (id : Nat) (fault : Option Fault) :
    Quiet (some id) parts w (w.finish id fault) := by
  have hended : Quiet (some id) parts w (w.modify id fun task =>
      { task with activity := .over, fault := fault, waiters := [] }) :=
    modify (fun _ _ => rfl) fun hne => absurd rfl hne
  unfold World.finish
  simp only [foldl_queue]
  exact hended.trans (of_same rfl rfl rfl rfl)

/-- What comes of the branches of a task. -/
theorem collect (w : World) (parent slot : Nat) (result : Result) :
    Quiet acting parts w (w.collect parent slot result) := by
  refine modify (fun task _ => ?_) fun _ task _ => ?_
  · split <;> rfl
  · cases hactivity : task.activity with
    | gathering results left =>
      exact ⟨by rw [hactivity]; rfl, by simp only [hactivity, reduceCtorEq]⟩
    | _ => exact ⟨by simp only [hactivity], by simp only [hactivity]⟩

/-- A task is asked to end. -/
theorem cancel (w : World) (id : Nat) : Quiet acting parts w (w.cancel id) := by
  have hmarked : Quiet acting parts w (w.modify id fun task =>
      { task with timer := none, cancelled := true }) := mark (fun _ => rfl) fun _ => rfl
  unfold World.cancel
  split
  · exact refl w
  · simp only
    split
    · exact hmarked.trans (of_same rfl rfl rfl rfl)
    · exact hmarked

end Quiet

/-! ### Turns -/

/-- A task that waits. -/
theorem Waits.quiet (h : Waits id parts w w') : Quiet (some id) parts w w' := by
  cases h with
  | sleep hsleeps seconds => exact (Quiet.setActivity w id _).trans (.sleep _ id seconds)
  | ask hphase hleft hroles => exact (Quiet.spawnAll w hroles).trans (.setActivity _ id _)

/-- A task that waits has begun, and waits for no loop. -/
theorem Waits.own (h : Waits id parts w w') (htask : w.tasks[id]? = some task) :
    ∃ task', w'.tasks[id]? = some task' ∧ task'.activity ≠ .fresh ∧
      ∀ loop, task'.activity.phase ≠ .joining loop := by
  cases h with
  | sleep hsleeps seconds =>
    rename_i activity
    obtain ⟨hphase, _, hfresh⟩ := Activity.going_of_sleeps hsleeps
    have hslept : Quiet none parts (w.setActivity id activity)
        ((w.setActivity id activity).sleep id seconds) := .sleep _ id seconds
    obtain ⟨own, hown, _, hlike⟩ := hslept.kept (tasks_modify_self htask _)
    refine ⟨own, hown, fun h => hfresh ((hlike nofun).fresh.mp h), fun loop hjoins => ?_⟩
    exact absurd (((hlike nofun).phase.trans hphase).symm.trans hjoins) nofun
  | ask hphase hleft hroles =>
    rename_i activity roles
    have hspawned : Quiet none parts w (w.spawnAll roles) := .spawnAll w hroles
    obtain ⟨own, hown, _⟩ := hspawned.kept htask
    refine ⟨_, tasks_modify_self hown _, fun hfresh => ?_, fun loop hjoins => ?_⟩
    · have hgoing := congrArg Activity.phase hfresh
      exact absurd (hphase.symm.trans hgoing) nofun
    · exact absurd (hphase.symm.trans hjoins) nofun

/-- A task that waits after a change that does not show. -/
theorem Pauses.own (h : Pauses id parts w w') (htask : w.tasks[id]? = some task) :
    ∃ task', w'.tasks[id]? = some task' ∧ task'.activity ≠ .fresh ∧
      ∀ loop, task'.activity.phase ≠ .joining loop := by
  obtain ⟨between, hsteady, hwaits⟩ := h
  exact hwaits.own (hsteady.tasks ▸ htask)

/-- A task that waits after a change that does not show. -/
theorem Pauses.quiet (h : Pauses id parts w w') : Quiet (some id) parts w w' := by
  obtain ⟨between, hsteady, hwaits⟩ := h
  exact (Quiet.of_steady hsteady).trans hwaits.quiet

/-- A command of which nothing shows but that its task waits. -/
theorem Goes.quiet {progress : Progress} (h : Goes id parts w progress) :
    Quiet (some id) parts w progress.1 := by
  obtain ⟨w', _ | result⟩ := progress
  · exact Pauses.quiet h
  · exact .of_steady h

/-- The turn of a loop. -/
theorem Rounds.quiet (h : Rounds id w w') : Quiet (some id) [] w w' := by
  obtain hpauses | ⟨between, fault, hsteady, rfl⟩ := h
  · exact hpauses.quiet
  · exact (Quiet.of_steady hsteady).trans (.finish between id fault)

/-- The turn of a probe. -/
theorem quiet_resumeProbe (w : World) (id parent : Nat) (probe : Probe) (activity : Activity) :
    Quiet (some id) [] w (w.resumeProbe id parent probe activity) := by
  obtain hsame | hpauses | ⟨between, hsteady, hends⟩ := goes_resumeProbe w id parent probe activity
  · rw [hsame]
    exact .refl w
  · exact hpauses.quiet
  · rw [hends]
    exact ((Quiet.of_steady hsteady).trans (.finish between id none)).trans
      (.of_same rfl rfl rfl rfl)

/-- The turn of a branch ends with its command. -/
theorem quiet_closeBranch {progress : Progress} (h : Quiet (some id) parts w progress.1)
    (parent slot : Nat) : Quiet (some id) parts w (closeBranch id parent slot progress) := by
  obtain ⟨w', _ | result⟩ := progress
  · exact h
  · exact h.trans (((Quiet.collect w' parent slot result).trans (.finish _ id none)).trans
      (.of_same rfl rfl rfl rfl))

/-! ### What is no turn -/

/-- A timer that runs out. -/
theorem quiet_fire (w : World) (id number : Nat) : Quiet acting parts w (w.fire id number) := by
  unfold fire
  split
  · exact .refl w
  · split
    · have hreset : Quiet acting parts w (w.modify id fun task => { task with timer := none }) :=
        .mark (fun _ => rfl) fun _ => rfl
      exact hreset.trans (.of_same rfl rfl rfl rfl)
    · exact .refl w

/-- The end of a task that another one waits for. -/
theorem quiet_childOver (w : World) (parent : Nat) :
    Quiet acting parts w (w.childOver parent) := by
  unfold childOver
  cases htask : w.tasks[parent]? with
  | none => exact .refl w
  | some task =>
    have hcounted : Quiet acting parts w (w.setActivity parent (countDown task.activity)) := by
      refine .modify (fun _ _ => rfl) fun _ found hfound => ?_
      obtain rfl := Option.some.inj (htask.symm.trans hfound)
      cases hactivity : task.activity <;>
        exact ⟨by rw [hactivity]; rfl, by simp only [hactivity, countDown, reduceCtorEq]⟩
    simp only
    split
    · exact hcounted.trans (.of_same rfl rfl rfl rfl)
    · exact hcounted

/-- Time moves on. -/
theorem quiet_moveTime (w : World) (timer : Timer) : Quiet acting parts w (w.moveTime timer) :=
  .of_same rfl rfl rfl rfl

end World

end StreamWatch.Simulation
