import StreamWatch.Proofs.Watch.Basic
import StreamWatch.Simulation.Run

namespace StreamWatch.Simulation

/-!
# What a simulation shows of a monitor in use

The tasks of a simulation that wait in the middle of a start or of a flush are the callers of
the monitor that it works on.

* `Holding` — what such a task holds on to;
* `World.view` — the monitor of a world, with what each task holds on to. Timers, events and
  reports do not show in it;
* the lemmas here say what each change of a world does to its view.
-/

/-- What a task that waits holds on to. -/
inductive Holding where
  | batch (batch : List Match)
  | evaluation (evaluation : Evaluation)

/-- What a task holds on to, if it waits for a reception or for an evaluation. An empty batch
    is nothing to hold on to. -/
def Activity.holding? : Activity → Option Holding
  | .handing [] _ => none
  | .handing (first :: rest) _ => some (.batch (first :: rest))
  | .evaluating session found _ _ => some (.evaluation ⟨session, found⟩)
  | _ => none

/-- A monitor, the evaluators of its rules, and what each task holds on to. -/
structure View where
  registry : Registry
  monitor : Monitor Number
  holdings : List (Option Holding)

namespace View

/-- A view with another monitor. -/
def withMonitor (view : View) (m : Monitor Number) : View := { view with monitor := m }

/-- A view in which a task holds on to something else. -/
def withHolding (view : View) (id : Nat) (holding : Option Holding) : View :=
  { view with holdings := view.holdings.set id holding }

/-- A view with more tasks, which hold on to nothing. -/
def withTasks (view : View) (count : Nat) : View :=
  { view with holdings := view.holdings ++ List.replicate count none }

/-- Nothing changes where a task holds on to what it held on to before. -/
theorem withHolding_self {view : View} {id : Nat} {holding : Option Holding}
    (h : view.holdings[id]? = some holding) : view.withHolding id holding = view := by
  obtain ⟨hid, rfl⟩ := List.getElem?_eq_some_iff.mp h
  rw [withHolding, List.set_getElem_self hid]

end View

namespace World

/-- What a world shows. -/
def view (w : World) : View :=
  ⟨w.registry, w.monitor, w.tasks.toList.map fun task => task.activity.holding?⟩

/-- A task shows in its place. -/
theorem holding_of_task {w : World} {id : Nat} {task : Task} (h : w.tasks[id]? = some task) :
    w.view.holdings[id]? = some task.activity.holding? := by
  simp only [view, List.getElem?_map, Array.getElem?_toList, h, Option.map_some]

/-! ### Changes that do not show -/

/-- A change of a task does not show if it leaves alone what the task holds on to. -/
theorem view_modify (w : World) (id : Nat) {f : Task → Task}
    (h : ∀ task, (f task).activity.holding? = task.activity.holding?) :
    (w.modify id f).view = w.view := by
  have hholdings := Watch.map_modify_same f (fun task => task.activity.holding?) h w.tasks.toList id
  simp only [view, modify, Array.toList_modify, hholdings]

/-- A change of a task shows in what the task holds on to then. -/
theorem view_modify_set (w : World) (id : Nat) {f : Task → Task} {holding : Option Holding}
    (h : ∀ task, (f task).activity.holding? = holding) :
    (w.modify id f).view = w.view.withHolding id holding := by
  have hholdings := Watch.map_modify_set f (fun task => task.activity.holding?) h w.tasks.toList id
  simp only [view, modify, Array.toList_modify, hholdings, View.withHolding]

/-- An event does not show. -/
@[simp] theorem view_happened (w : World) (event : Event) : (w.happened event).view = w.view :=
  rfl

/-- Notices do not show. -/
@[simp] theorem view_note (w : World) (notices : List (Notice Number)) :
    (w.note notices).view = w.view := by
  unfold note
  induction notices generalizing w with
  | nil => rfl
  | cons notice rest ih => exact (ih _).trans (view_happened w _)

/-- A report does not show. -/
@[simp] theorem view_report (w : World) (result : Result) : (w.report result).view = w.view :=
  rfl

/-- What may happen next does not show. -/
@[simp] theorem view_queue (w : World) (wake : Wake) : (w.queue wake).view = w.view := rfl

/-- A timer does not show. -/
@[simp] theorem view_sleep (w : World) (id : Nat) (seconds : Number) :
    (w.sleep id seconds).view = w.view := by
  unfold sleep
  split
  · rfl
  · exact view_modify _ id fun _ => rfl

/-- That a task is to be interrupted does not show. -/
@[simp] theorem view_cancel (w : World) (id : Nat) : (w.cancel id).view = w.view := by
  have hmarked : (w.modify id fun task => { task with timer := none, cancelled := true }).view =
      w.view := view_modify w id fun _ => rfl
  unfold cancel
  split
  · rfl
  · simp only
    split
    · exact hmarked
    · exact hmarked

/-- What comes of the branches of a task does not show. -/
@[simp] theorem view_collect (w : World) (parent slot : Nat) (result : Result) :
    (w.collect parent slot result).view = w.view := by
  refine view_modify w parent fun task => ?_
  split
  · rename_i hactivity
    rw [hactivity]
    rfl
  · rfl

/-- The receptions to come do not show. -/
@[simp] theorem view_nextReception (w : World) : w.nextReception.2.view = w.view := by
  unfold nextReception
  split <;> rfl

/-! ### Changes that show -/

/-- An operation of the monitor shows in the monitor. -/
@[simp] theorem view_absorb {α : Type} (w : World) (outcome : Outcome Number α) :
    (w.absorb outcome).view = w.view.withMonitor outcome.monitor :=
  view_note _ _

/-- How far a task is shows in what it holds on to. -/
@[simp] theorem view_setActivity (w : World) (id : Nat) (activity : Activity) :
    (w.setActivity id activity).view = w.view.withHolding id activity.holding? :=
  view_modify_set w id fun _ => rfl

/-- A task that begins holds on to nothing. -/
@[simp] theorem view_spawn (w : World) (role : Role) :
    (w.spawn role).view = w.view.withTasks 1 := by
  simp only [view, spawn, queue, Array.toList_push, List.map_append, List.map_cons, List.map_nil,
    View.withTasks]
  rfl

/-- Tasks that begin hold on to nothing. -/
@[simp] theorem view_spawnAll (w : World) (roles : List Role) :
    (w.spawnAll roles).view = w.view.withTasks roles.length := by
  unfold spawnAll
  induction roles generalizing w with
  | nil => simp only [List.foldl_nil, List.length_nil, View.withTasks, List.replicate_zero,
      List.append_nil]
  | cons role rest ih =>
    rw [List.foldl_cons, ih, view_spawn, View.withTasks, View.withTasks, View.withTasks,
      List.append_assoc, List.replicate_append_replicate, Nat.add_comm, List.length_cons]

/-- A task that ends holds on to nothing. -/
@[simp] theorem view_finish (w : World) (id : Nat) (fault : Option Fault) :
    (w.finish id fault).view = w.view.withHolding id none := by
  have hwoken : ∀ (waiters : List Nat) (w : World),
      (waiters.foldl (fun w waiter => w.queue (.resume waiter)) w).view = w.view := by
    intro waiters
    induction waiters with
    | nil => exact fun _ => rfl
    | cons waiter rest ih => exact fun w => (ih _).trans (view_queue w _)
  exact (hwoken _ _).trans (view_modify_set w id fun _ => rfl)

/-- One of those that a task waits for has ended, which does not show. -/
@[simp] theorem view_childOver (w : World) (parent : Nat) :
    (w.childOver parent).view = w.view := by
  unfold childOver
  split
  · rfl
  · rename_i task htask
    have hcounted : (countDown task.activity).holding? = task.activity.holding? := by
      cases task.activity <;> rfl
    have hview : (w.setActivity parent (countDown task.activity)).view = w.view := by
      rw [view_setActivity, hcounted]
      exact View.withHolding_self (holding_of_task htask)
    simp only
    split
    · exact hview
    · exact hview

end World

end StreamWatch.Simulation
