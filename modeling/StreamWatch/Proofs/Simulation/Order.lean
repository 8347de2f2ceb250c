import StreamWatch.Proofs.Simulation.View

namespace StreamWatch.Simulation

/-!
# The order of turns

The scheduler alone decides who goes on, and what is ready goes on in its order.  So a task goes on
if it has a turn to come, or a timer that will give it one.

* `World.Expects` — is the turn of a stop to come, or that of the loop it waits for?
* `World.GoesOn`, `World.Orderly` — is a task that is a loop, or waits for one, sure to go on? Are
  all of them?
* `World.Keeps`, `World.Spares` — what the turn of a task leaves of the others.  What is ready keeps
  its order, and what becomes ready comes behind it;
* `World.Keeps.orderly` — hence a turn leaves a world orderly;
* the lemmas on `World.Spares` say so of each change of a world.
-/

/-- What a task is for, as others see it. -/
inductive Kind where
  | commands
  | loop
  | probe

/-- What others see a task to be for. -/
def Role.kind : Role → Kind
  | .script _ | .branch .. => .commands
  | .loop => .loop
  | .probe .. => .probe

/-- How far a task is, as others see it. -/
inductive Phase where
  /-- Only time has to pass, or nothing at all. -/
  | going
  /-- It waits for tasks that it has begun. -/
  | gathering
  | joining (loop : Nat)
  | ended

/-- How far others see a task to be. -/
def Activity.phase : Activity → Phase
  | .fresh | .pausing | .handing .. => .going
  | .evaluating .. | .gathering .. => .gathering
  | .joining loop => .joining loop
  | .over => .ended

namespace World

variable {w w' w'' : World} {id other loop : Nat} {task task' : Task} {acting : Option Nat}

/-! ### Order -/

/-- Has a task ended, or is it sure to go on, because time passes or its turn is to come? -/
def Proceeds (w : World) (id : Nat) (task : Task) : Prop :=
  task.activity.phase = .ended ∨
    task.activity.phase = .going ∧ (task.timer.isSome = true ∨ .resume id ∈ w.ready)

/-- Is a stop that waits for a loop sure to go on?  Either the loop has ended and the turn of the
    stop is to come, or the turn of the loop is, which is asked to end and knows of the stop. -/
def Expects (w : World) (stop loop : Nat) : Prop :=
  ∃ task, w.tasks[loop]? = some task ∧ task.role.kind = .loop ∧
    (task.activity.phase = .ended ∧ .resume stop ∈ w.ready ∨
      task.activity.phase ≠ .ended ∧ task.cancelled = true ∧ stop ∈ task.waiters ∧
        .resume loop ∈ w.ready)

/-- Is a task sure to go on, if it is a loop or waits for one?  Only commands wait for loops. -/
structure GoesOn (w : World) (id : Nat) (task : Task) : Prop where
  rounds : task.role.kind = .loop → w.Proceeds id task
  stops : ∀ loop, task.activity.phase = .joining loop →
    task.role.kind = .commands ∧ w.Expects id loop

/-- Is the task in this place sure to go on? -/
def Rests (w : World) (id : Nat) : Prop := ∀ task, w.tasks[id]? = some task → w.GoesOn id task

/-- Is the loop that was started last a loop? -/
def KnowsLoop (w : World) : Prop :=
  ∀ loop, w.loop = some loop → ∃ task, w.tasks[loop]? = some task ∧ task.role.kind = .loop

/-- Are all tasks sure to go on, as far as they are loops or wait for one? -/
structure Orderly (w : World) : Prop where
  knows : w.KnowsLoop
  rests : ∀ id, w.Rests id

/-- Nothing is asked of a task that is no loop, and waits for none. -/
theorem goesOn_of_busy (hkind : task.role.kind ≠ .loop)
    (hphase : ∀ loop, task.activity.phase ≠ .joining loop) : w.GoesOn id task where
  rounds hloop := absurd hloop hkind
  stops loop hjoins := absurd hjoins (hphase loop)

/-- A task that has ended has nothing to wait for. -/
theorem goesOn_of_ended (hphase : task.activity.phase = .ended) : w.GoesOn id task where
  rounds _ := .inl hphase
  stops loop hjoins := by
    rw [hphase] at hjoins
    cases hjoins

/-- A task with a turn or a timer is sure to go on. -/
theorem goesOn_of_going (hphase : task.activity.phase = .going)
    (hcomes : task.timer.isSome = true ∨ .resume id ∈ w.ready) : w.GoesOn id task where
  rounds _ := .inr ⟨hphase, hcomes⟩
  stops loop hjoins := by
    rw [hphase] at hjoins
    cases hjoins

/-! ### What a turn leaves of the others -/

/-- Is a task as good as before?  It may have lost its timer if its turn is to come instead, and it
    may be asked to end. -/
structure Alike (w : World) (id : Nat) (task task' : Task) : Prop where
  kind : task'.role.kind = task.role.kind
  phase : task'.activity.phase = task.activity.phase
  timer : task.timer.isSome = true → task'.timer.isSome = true ∨ .resume id ∈ w.ready
  cancelled : task.cancelled = true → task'.cancelled = true
  waiters : task.waiters ⊆ task'.waiters

/-- A task is as good as it is. -/
theorem Alike.refl (w : World) (id : Nat) (task : Task) : Alike w id task task :=
  ⟨rfl, rfl, .inl, fun h => h, List.Subset.refl _⟩

/-- What is as good twice is as good, if no turn is lost meanwhile. -/
theorem Alike.trans {task'' : Task} (h : Alike w id task task') (h' : Alike w' id task' task'')
    (hready : .resume id ∈ w.ready → .resume id ∈ w'.ready) : Alike w' id task task'' :=
  ⟨h'.kind.trans h.kind, h'.phase.trans h.phase,
    fun htimer => (h.timer htimer).elim h'.timer fun hcomes => .inr (hready hcomes),
    fun hcancelled => h'.cancelled (h.cancelled hcancelled),
    List.Subset.trans h.waiters h'.waiters⟩

/-- What does a turn keep?  The other tasks are as good as before, tasks that have begun have their
    turn to come, and only the turn of the acting task may be lost. -/
structure Keeps (acting : Option Nat) (w w' : World) : Prop where
  ready : ∀ {id}, acting ≠ some id → .resume id ∈ w.ready → .resume id ∈ w'.ready
  others : ∀ {id task}, acting ≠ some id → w.tasks[id]? = some task →
    ∃ task', w'.tasks[id]? = some task' ∧ Alike w' id task task'
  own : ∀ {id task}, acting = some id → w.tasks[id]? = some task →
    ∃ task', w'.tasks[id]? = some task' ∧ task'.role.kind = task.role.kind
  begun : ∀ {id task'}, acting ≠ some id → w.tasks[id]? = none → w'.tasks[id]? = some task' →
    task'.activity.phase = .going ∧ .resume id ∈ w'.ready
  loop : ∀ {loop}, w'.loop = some loop →
    w.loop = some loop ∨ ∃ task, w'.tasks[loop]? = some task ∧ task.role.kind = .loop

/-- Does a turn lose nothing at all, and let nobody pass? -/
structure Spares (acting : Option Nat) (w w' : World) : Prop extends Keeps acting w w' where
  order : w.ready <+: w'.ready

namespace Keeps

/-- What a task is for is kept. -/
theorem kind (h : Keeps acting w w') (htask : w.tasks[id]? = some task) :
    ∃ task', w'.tasks[id]? = some task' ∧ task'.role.kind = task.role.kind := by
  by_cases hid : acting = some id
  · exact h.own hid htask
  · obtain ⟨task', htask', halike⟩ := h.others hid htask
    exact ⟨task', htask', halike.kind⟩

/-- What is kept twice is kept. -/
theorem trans (h : Keeps acting w w') (h' : Keeps acting w' w'') : Keeps acting w w'' where
  ready hid hready := h'.ready hid (h.ready hid hready)
  others hid htask := by
    obtain ⟨task', htask', halike⟩ := h.others hid htask
    obtain ⟨task'', htask'', halike'⟩ := h'.others hid htask'
    exact ⟨task'', htask'', halike.trans halike' (h'.ready hid)⟩
  own hid htask := by
    obtain ⟨task', htask', hkind⟩ := h.own hid htask
    obtain ⟨task'', htask'', hkind'⟩ := h'.own hid htask'
    exact ⟨task'', htask'', hkind'.trans hkind⟩
  begun {id task''} hid hnone htask'' := by
    cases hbetween : w'.tasks[id]? with
    | none => exact h'.begun hid hbetween htask''
    | some task' =>
      obtain ⟨hphase, hready⟩ := h.begun hid hnone hbetween
      obtain ⟨found, hfound, halike⟩ := h'.others hid hbetween
      obtain rfl := Option.some.inj (hfound.symm.trans htask'')
      exact ⟨halike.phase.trans hphase, h'.ready hid hready⟩
  loop hloop := by
    obtain hloop | hnew := h'.loop hloop
    · obtain hloop | ⟨task', htask', hkind⟩ := h.loop hloop
      · exact .inl hloop
      · obtain ⟨task'', htask'', hkind'⟩ := h'.kind htask'
        exact .inr ⟨task'', htask'', hkind'.trans hkind⟩
    · exact .inr hnew

/-- The loop that was started last is known. -/
theorem knows (h : Keeps acting w w') (hknows : w.KnowsLoop) : w'.KnowsLoop := by
  intro loop hloop
  obtain hloop | hnew := h.loop hloop
  · obtain ⟨task, htask, hkind⟩ := hknows loop hloop
    obtain ⟨task', htask', hkind'⟩ := h.kind htask
    exact ⟨task', htask', hkind'.trans hkind⟩
  · exact hnew

/-- A loop that is not acting still goes on. -/
theorem proceeds (h : Keeps acting w w') (hid : acting ≠ some id)
    (hloop : w.Proceeds id task) (halike : Alike w' id task task') :
    w'.Proceeds id task' := by
  obtain hended | ⟨hgoing, hcomes⟩ := hloop
  · exact .inl (halike.phase.trans hended)
  · exact .inr ⟨halike.phase.trans hgoing, hcomes.elim halike.timer fun hready =>
      .inr (h.ready hid hready)⟩

/-- A stop still goes on whose turn is not lost, if the loop is not acting. -/
theorem expects (h : Keeps acting w w') (hid : .resume id ∈ w.ready → .resume id ∈ w'.ready)
    (hloop : acting ≠ some loop) (hexpects : w.Expects id loop) : w'.Expects id loop := by
  obtain ⟨task, htask, hkind, hcomes⟩ := hexpects
  obtain ⟨task', htask', halike⟩ := h.others hloop htask
  refine ⟨task', htask', halike.kind.trans hkind, ?_⟩
  obtain ⟨hended, hready⟩ | ⟨hgoing, hcancelled, hwaits, hready⟩ := hcomes
  · exact .inl ⟨halike.phase.trans hended, hid hready⟩
  · exact .inr ⟨fun hended => hgoing (halike.phase.symm.trans hended), halike.cancelled hcancelled,
      halike.waiters hwaits, h.ready hloop hready⟩

/-- **A turn leaves a world orderly** if the acting task is sure to go on by then, and so are the
    stops that wait for it. -/
theorem orderly (h : Keeps acting w w') (horderly : w.Orderly)
    (hown : ∀ id, acting = some id → w'.Rests id)
    (hstops : ∀ {id other task}, acting = some id → other ≠ id → w.tasks[other]? = some task →
      task.activity.phase = .joining id → w'.Expects other id) : w'.Orderly := by
  refine ⟨h.knows horderly.knows, fun other => ?_⟩
  by_cases hother : acting = some other
  · exact hown other hother
  · intro task' htask'
    cases htask : w.tasks[other]? with
    | none =>
      obtain ⟨hphase, hready⟩ := h.begun hother htask htask'
      exact goesOn_of_going hphase (.inr hready)
    | some task =>
      obtain ⟨found, hfound, halike⟩ := h.others hother htask
      obtain rfl := Option.some.inj (hfound.symm.trans htask')
      obtain ⟨hrounds, hjoins⟩ := horderly.rests other task htask
      refine ⟨fun hkind => h.proceeds hother (hrounds (halike.kind.symm.trans hkind)) halike,
        fun loop hphase => ?_⟩
      have hjoining : task.activity.phase = .joining loop := halike.phase.symm.trans hphase
      obtain ⟨hkind, hexpects⟩ := hjoins loop hjoining
      refine ⟨halike.kind.trans hkind, ?_⟩
      -- Only the acting task can end what a stop waits for.
      by_cases hloop : acting = some loop
      · refine hstops hloop (fun hsame => hother ?_) htask hjoining
        rw [hsame]
        exact hloop
      · exact h.expects (h.ready hother) hloop hexpects

/-- Something that is ready is taken, which is no turn of a task that is not acting. -/
theorem pop {wake : Wake} {rest : List Wake} (hready : w.ready = wake :: rest)
    (hwake : ∀ id, acting ≠ some id → wake ≠ .resume id) :
    Keeps acting w { w with ready := rest } where
  ready hid hmem := by
    rw [hready] at hmem
    exact (List.mem_cons.mp hmem).resolve_left fun hsame => hwake _ hid hsame.symm
  others _ htask := ⟨_, htask, .refl _ _ _⟩
  own _ htask := ⟨_, htask, rfl⟩
  begun _ hnone hsome := by rw [hnone] at hsome; cases hsome
  loop hloop := .inl hloop

end Keeps

namespace Spares

/-- Where what is ready keeps its order no turn is lost. -/
theorem of_order (horder : w.ready <+: w'.ready)
    (hothers : ∀ {id task}, acting ≠ some id → w.tasks[id]? = some task →
      ∃ task', w'.tasks[id]? = some task' ∧ Alike w' id task task')
    (hown : ∀ {id task}, acting = some id → w.tasks[id]? = some task →
      ∃ task', w'.tasks[id]? = some task' ∧ task'.role.kind = task.role.kind)
    (hbegun : ∀ {id task'}, acting ≠ some id → w.tasks[id]? = none → w'.tasks[id]? = some task' →
      task'.activity.phase = .going ∧ .resume id ∈ w'.ready)
    (hloop : w'.loop = w.loop) : Spares acting w w' :=
  ⟨⟨fun _ hready => horder.subset hready, hothers, hown, hbegun, fun h => .inl (hloop ▸ h)⟩, horder⟩

/-- Nobody passes twice. -/
theorem trans (h : Spares acting w w') (h' : Spares acting w' w'') : Spares acting w w'' :=
  ⟨h.toKeeps.trans h'.toKeeps, h.order.trans h'.order⟩

/-- A change of anything but the tasks and what is ready spares all. -/
theorem same (htasks : w'.tasks = w.tasks) (hready : w'.ready = w.ready)
    (hloop : w'.loop = w.loop) : Spares acting w w' := by
  refine .of_order (hready ▸ List.prefix_refl _) (fun _ htask => ?_) (fun _ htask => ?_)
    (fun _ hnone hsome => ?_) hloop
  · exact ⟨_, htasks ▸ htask, .refl _ _ _⟩
  · exact ⟨_, htasks ▸ htask, rfl⟩
  · rw [htasks, hnone] at hsome
    cases hsome

/-- Where nothing changes all are spared. -/
theorem refl (w : World) : Spares acting w w := same rfl rfl rfl

/-- More becomes ready, behind what is ready already. -/
theorem more (w : World) (wakes : List Wake) :
    Spares acting w { w with ready := w.ready ++ wakes } :=
  .of_order (List.prefix_append _ _) (fun _ htask => ⟨_, htask, .refl _ _ _⟩)
    (fun _ htask => ⟨_, htask, rfl⟩)
    (fun _ hnone hsome => by rw [hnone] at hsome; cases hsome) rfl

/-- Something becomes ready. -/
theorem queue (w : World) (wake : Wake) : Spares acting w (w.queue wake) := more w [wake]

end Spares

/-- Notices are events, and nothing else. -/
theorem note_eq (w : World) (notices : List (Notice Number)) :
    w.note notices = { w with events := (w.note notices).events } := by
  unfold note
  induction notices generalizing w with
  | nil => rfl
  | cons notice rest ih => exact ih (w.happened (.noted notice))

/-- The tasks after one of them has changed. -/
theorem tasks_modify (w : World) (id other : Nat) (f : Task → Task) :
    (w.modify id f).tasks[other]? =
      if id = other then w.tasks[other]?.map f else w.tasks[other]? := Array.getElem?_modify

/-- The task that has changed. -/
theorem tasks_modify_self (htask : w.tasks[id]? = some task) (f : Task → Task) :
    (w.modify id f).tasks[id]? = some (f task) := by
  rw [tasks_modify, if_pos rfl, htask, Option.map_some]

/-- A task that has not changed. -/
theorem tasks_modify_of_ne (hne : id ≠ other) (f : Task → Task) :
    (w.modify id f).tasks[other]? = w.tasks[other]? := by
  rw [tasks_modify, if_neg hne]

/-- A change of a task begins none. -/
theorem tasks_modify_none {f : Task → Task} (hnone : w.tasks[other]? = none) :
    (w.modify id f).tasks[other]? ≠ some task := by
  rw [tasks_modify, hnone]
  split <;> nofun

/-- A task is what its change has made of it. -/
theorem exists_of_modify {f : Task → Task} (h : (w.modify id f).tasks[id]? = some task') :
    ∃ task, w.tasks[id]? = some task ∧ task' = f task := by
  rw [tasks_modify, if_pos rfl] at h
  obtain ⟨task, htask, hsame⟩ := Option.map_eq_some_iff.mp h
  exact ⟨task, htask, hsame.symm⟩

namespace Spares

/-- A task changes that is as good as before. -/
theorem modify {f : Task → Task}
    (halike : ∀ task, w.tasks[id]? = some task → Alike (w.modify id f) id task (f task)) :
    Spares acting w (w.modify id f) := by
  have hfound : ∀ {other task}, w.tasks[other]? = some task →
      ∃ task', (w.modify id f).tasks[other]? = some task' ∧
        Alike (w.modify id f) other task task' := by
    intro other task htask
    by_cases hid : id = other
    · subst hid
      exact ⟨f task, tasks_modify_self htask f, halike task htask⟩
    · exact ⟨task, (tasks_modify_of_ne hid f).trans htask, .refl _ _ _⟩
  refine .of_order (List.prefix_refl _) (fun _ htask => hfound htask) (fun _ htask => ?_)
    (fun _ hnone hsome => absurd hsome (tasks_modify_none hnone)) rfl
  obtain ⟨task', htask', halike'⟩ := hfound htask
  exact ⟨task', htask', halike'.kind⟩

/-- The acting task changes, but not its role. -/
theorem modifyOwn {f : Task → Task} (hkind : ∀ task, w.tasks[id]? = some task →
    (f task).role.kind = task.role.kind) : Spares (some id) w (w.modify id f) := by
  refine .of_order (List.prefix_refl _) (fun {other task} hother htask => ?_)
    (fun {other task} hother htask => ?_)
    (fun _ hnone hsome => absurd hsome (tasks_modify_none hnone)) rfl
  · have hne : id ≠ other := fun hsame => hother (congrArg some hsame)
    exact ⟨task, (tasks_modify_of_ne hne f).trans htask, .refl _ _ _⟩
  · obtain rfl := Option.some.inj hother
    exact ⟨f task, tasks_modify_self htask f, hkind task htask⟩

/-- The acting task gets on. -/
theorem setActivity (w : World) (id : Nat) (activity : Activity) :
    Spares (some id) w (w.setActivity id activity) := modifyOwn fun _ _ => rfl

/-- The acting task waits. -/
theorem sleep (w : World) (id : Nat) (seconds : Number) :
    Spares (some id) w (w.sleep id seconds) := by
  unfold World.sleep
  split
  · exact queue w _
  · have htimer : Spares (some id) w { w with
        timers := insertTimer ⟨w.elapsed + seconds.toFloat, id, w.timerCount⟩ w.timers
        timerCount := w.timerCount + 1 } := same rfl rfl rfl
    exact htimer.trans (modifyOwn fun _ _ => rfl)

/-- A task begins. -/
theorem spawn (w : World) (role : Role) : Spares acting w (w.spawn role) := by
  have hkept : ∀ {other : Nat} {task}, w.tasks[other]? = some task →
      (w.spawn role).tasks[other]? = some task := by
    intro other task htask
    obtain ⟨hlt, _⟩ := Array.getElem?_eq_some_iff.mp htask
    show (w.tasks.push _)[other]? = some task
    rw [Array.getElem?_push, if_neg (Nat.ne_of_lt hlt), htask]
  refine .of_order (List.prefix_append _ _) (fun _ htask => ⟨_, hkept htask, .refl _ _ _⟩)
    (fun _ htask => ⟨_, hkept htask, rfl⟩) (fun {other task'} _ hnone hsome => ?_) rfl
  have hpushed : (w.tasks.push ⟨role, .fresh, none, false, [], none⟩)[other]? = some task' := hsome
  rw [Array.getElem?_push] at hpushed
  split at hpushed
  · rename_i hlast
    obtain rfl := Option.some.inj hpushed
    subst hlast
    exact ⟨rfl, List.mem_append_right _ (List.mem_singleton_self _)⟩
  · rw [hnone] at hpushed
    cases hpushed

/-- Several tasks begin. -/
theorem spawnAll (w : World) (roles : List Role) : Spares acting w (w.spawnAll roles) := by
  unfold World.spawnAll
  induction roles generalizing w with
  | nil => exact refl w
  | cons role rest ih => exact (spawn w role).trans (ih _)

/-- Notices spare all. -/
theorem note (w : World) (notices : List (Notice Number)) : Spares acting w (w.note notices) := by
  rw [note_eq]
  exact same rfl rfl rfl

/-- A change of the monitor spares all. -/
theorem changed (w : World) (m : Monitor Number) (notices : List (Notice Number)) :
    Spares acting w (({ w with monitor := m } : World).note notices) := by
  have hchanged : Spares acting w { w with monitor := m } := same rfl rfl rfl
  exact hchanged.trans (note _ notices)

/-- The receptions to come spare all. -/
theorem nextReception (w : World) : Spares acting w w.nextReception.2 := by
  unfold World.nextReception
  split <;> exact same rfl rfl rfl

/-- What comes of the branches of a task spares all. -/
theorem collect (w : World) (parent slot : Nat) (result : Result) :
    Spares acting w (w.collect parent slot result) := by
  refine modify fun task _ => ?_
  split
  · rename_i hactivity
    refine ⟨rfl, ?_, .inl, fun h => h, List.Subset.refl _⟩
    rw [hactivity]
    rfl
  · exact .refl _ _ _

/-- A task that is asked to end, and waits for a timer, has its turn instead. -/
theorem cancel (w : World) (id : Nat) : Spares acting w (w.cancel id) := by
  unfold World.cancel
  cases htask : w.tasks[id]? with
  | none => exact refl w
  | some task =>
    have halike : ∀ {w₁ : World}, w₁.tasks = w.tasks →
        (task.timer.isSome = true → .resume id ∈ w₁.ready) →
        Spares acting w₁ (w₁.modify id fun task =>
          { task with timer := none, cancelled := true }) := by
      intro w₁ htasks hcomes
      refine modify fun found hfound => ⟨rfl, rfl, fun htimer => .inr ?_, fun _ => rfl,
        List.Subset.refl _⟩
      rw [htasks, htask] at hfound
      obtain rfl := Option.some.inj hfound
      exact hcomes htimer
    simp only
    split
    · -- Whether the turn is queued before or after the change makes no difference.
      have hcomes : .resume id ∈ (w.queue (.resume id)).ready :=
        List.mem_append_right _ (List.mem_singleton_self _)
      exact (queue w (.resume id)).trans (halike rfl fun _ => hcomes)
    · rename_i htimer
      exact halike rfl fun h => absurd h htimer

end Spares

/-! ### The ends of a turn -/

/-- The tasks that wait for the end of another one become ready. -/
theorem foldl_queue (waiters : List Nat) (w : World) :
    waiters.foldl (fun w waiter => w.queue (.resume waiter)) w =
      { w with ready := w.ready ++ waiters.map .resume } := by
  induction waiters generalizing w with
  | nil => rw [List.map_nil, List.append_nil]; rfl
  | cons waiter rest ih =>
    rw [List.foldl_cons, ih]
    simp only [queue, List.append_assoc, List.map_cons, List.singleton_append]

/-- The end of the acting task spares the others. -/
theorem Spares.finish (w : World) (id : Nat) (fault : Option Fault) :
    Spares (some id) w (w.finish id fault) := by
  have hended : Spares (some id) w (w.modify id fun task =>
      { task with activity := .over, fault := fault, waiters := [] }) := modifyOwn fun _ _ => rfl
  unfold World.finish
  simp only [foldl_queue]
  exact hended.trans (more _ _)

/-- A task that has ended has ended. -/
theorem phase_finish {fault : Option Fault} (h : (w.finish id fault).tasks[id]? = some task') :
    task'.activity.phase = .ended := by
  unfold finish at h
  simp only [foldl_queue] at h
  obtain ⟨task, _, rfl⟩ := exists_of_modify h
  rfl

/-- The end of a task wakes those that wait for it. -/
theorem woken_finish (htask : w.tasks[id]? = some task) (hwaits : other ∈ task.waiters)
    (fault : Option Fault) : .resume other ∈ (w.finish id fault).ready := by
  unfold finish
  simp only [foldl_queue, htask, Option.map_some, Option.getD_some]
  exact List.mem_append_right _ (List.mem_map_of_mem hwaits)

/-- A task that has ended has nothing to wait for. -/
theorem rests_finish (w : World) (id : Nat) (fault : Option Fault) :
    (w.finish id fault).Rests id := fun _ htask => goesOn_of_ended (phase_finish htask)

/-- A task that waits for a time to come is sure to go on. -/
theorem rests_sleep (w : World) (id : Nat) {activity : Activity} (hphase : activity.phase = .going)
    (seconds : Number) : ((w.setActivity id activity).sleep id seconds).Rests id := by
  intro task htask
  unfold sleep at htask ⊢
  split at htask
  · rename_i hnone
    rw [if_pos hnone]
    obtain ⟨before, _, rfl⟩ := exists_of_modify htask
    exact goesOn_of_going hphase (.inr (List.mem_append_right _ (List.mem_singleton_self _)))
  · rename_i hsome
    rw [if_neg hsome]
    obtain ⟨between, hbetween, rfl⟩ := exists_of_modify htask
    obtain ⟨before, _, rfl⟩ := exists_of_modify hbetween
    exact goesOn_of_going hphase (.inl rfl)

end World

end StreamWatch.Simulation
