import StreamWatch.Proofs.Simulation.Turns

namespace StreamWatch.Simulation

/-!
# What wakes a task

A task that waits is woken by one thing at most: by a turn that is ready, by its timer, by the end
of a loop, or by the last of the tasks that it has begun.  This file counts what is to come, and
says what each change of a world does to the counts.

* `World.wakes`, `World.news` — the turns that are to come for a task, and the ends it will hear of;
* `World.Paced` — is every task woken once at most, and not before all have ended that it waits for?
* `World.Acting` — is this the turn of a task that nothing else is going to wake?
* `World.SamePace` — a change that leaves all counts alone;
* `World.Waits.paced`, `World.Acting.finish`, `World.Acting.tell`, `World.Acting.join` — however a
  turn ends, its task is woken once at most after it.
-/

/-- Is this a turn of a task? -/
def Wake.isTurnOf (id : Nat) : Wake → Bool
  | .resume task => task == id
  | _ => false

/-- Does a task hear by this that one it waits for has ended? -/
def Wake.isNewsFor (id : Nat) : Wake → Bool
  | .childOver parent => parent == id
  | _ => false

/-- The task that has begun a task and waits for it. -/
def Role.parent? : Role → Option Nat
  | .branch parent _ _ | .probe parent _ => some parent
  | .script _ | .loop => none

/-- Those that a task has to tell of its end, which it has not told yet. -/
def Task.parents (task : Task) : List Nat :=
  match task.activity with
  | .over => []
  | _ => task.role.parent?.toList

namespace World

variable {w w' w'' : World} {id other loop count : Nat} {task task' : Task} {parts : List Command}

/-! ### What is to come -/

/-- How often do tasks have a task on a list? -/
def mentions (w : World) (names : Task → List Nat) (id : Nat) : Nat :=
  (w.tasks.toList.flatMap names).count id

/-- The timers of a task. -/
def timing (w : World) (id : Nat) : Nat := ((w.tasks[id]?).bind Task.timer).toList.length

/-- The turns that are to come for a task, now or when a timer runs out or another task ends. -/
def wakes (w : World) (id : Nat) : Nat :=
  w.ready.countP (Wake.isTurnOf id) + w.timing id + w.mentions Task.waiters id

/-- The ends of other tasks that a task is going to hear of. -/
def news (w : World) (id : Nat) : Nat :=
  w.mentions Task.parents id + w.ready.countP (Wake.isNewsFor id)

/-- How many tasks does a task wait for? -/
def left (w : World) (id : Nat) : Nat :=
  ((w.tasks[id]?).map fun task => task.activity.left).getD 0

/-- Is every task woken at most once, if it has not ended? -/
def WokenOnce (w : World) : Prop :=
  ∀ id, w.wakes id + min 1 (w.left id) ≤ if w.isOver id then 0 else 1

/-- Is every task woken at most once, and not before all have ended that it waits for? -/
structure Paced (w : World) : Prop where
  once : w.WokenOnce
  news : ∀ id, w.news id ≤ w.left id

/-- Is this the turn of a task, which nothing else is going to wake?  It may have begun some other
    tasks by now. -/
structure Acting (w : World) (id count : Nat) : Prop where
  once : w.WokenOnce
  news : ∀ b, w.news b ≤ w.left b + if b = id then count else 0
  alive : w.isOver id = false
  wakes : w.wakes id = 0
  left : w.left id = 0

/-! ### Changes of one task -/

/-- The lists of the tasks after one of them has changed. -/
theorem mentions_modify (names : Task → List Nat) (htask : w.tasks[id]? = some task)
    (f : Task → Task) (b : Nat) :
    (w.modify id f).mentions names b + (names task).count b =
      w.mentions names b + (names (f task)).count b := by
  obtain ⟨hid, hget⟩ := Array.getElem?_eq_some_iff.mp htask
  obtain ⟨front, found, back, hsplit, hlength, hmodified⟩ :=
    List.exists_of_modify f (l := w.tasks.toList) (i := id) hid
  obtain rfl : found = task := by
    have hfound : w.tasks.toList[id]? = some found := by
      rw [hsplit, ← hlength, List.getElem?_append_right (Nat.le_refl _), Nat.sub_self,
        List.getElem?_cons_zero]
    rw [Array.getElem?_toList, htask] at hfound
    exact (Option.some.inj hfound).symm
  have hlists : (w.modify id f).tasks.toList = front ++ f found :: back := by
    rw [← hmodified]
    exact Array.toList_modify
  simp only [mentions, hlists, hsplit, List.flatMap_append, List.flatMap_cons, List.count_append]
  omega

/-- A list that a change leaves alone. -/
theorem mentions_modify_same {names : Task → List Nat} {f : Task → Task}
    (htask : w.tasks[id]? = some task) (hsame : names (f task) = names task) (b : Nat) :
    (w.modify id f).mentions names b = w.mentions names b := by
  have hcount := mentions_modify names htask f b
  rw [hsame] at hcount
  exact Nat.add_right_cancel hcount

/-- The timer of the task that has changed. -/
theorem timing_modify_self (htask : w.tasks[id]? = some task) (f : Task → Task) :
    (w.modify id f).timing id = (f task).timer.toList.length := by
  rw [timing, tasks_modify_self htask, Option.bind_some]

/-- The timers of the others stay. -/
theorem timing_modify_of_ne {f : Task → Task} (hne : id ≠ other) :
    (w.modify id f).timing other = w.timing other := by
  rw [timing, tasks_modify_of_ne hne, timing]

/-- The timer of a task. -/
theorem timing_eq (htask : w.tasks[id]? = some task) :
    w.timing id = task.timer.toList.length := by
  rw [timing, htask, Option.bind_some]

/-- What a task waits for. -/
theorem left_eq (htask : w.tasks[id]? = some task) : w.left id = task.activity.left := by
  rw [left, htask, Option.map_some, Option.getD_some]

/-- What a task waits for depends on the task. -/
theorem left_congr {b : Nat} (htask : w'.tasks[b]? = w.tasks[b]?) : w'.left b = w.left b := by
  rw [left, htask, left]

/-- Whether a task has ended depends on the task. -/
theorem isOver_congr {b : Nat} (htask : w'.tasks[b]? = w.tasks[b]?) : w'.isOver b = w.isOver b := by
  rw [isOver, htask, isOver]

/-- Has this task ended? -/
theorem isOver_iff (htask : w.tasks[id]? = some task) :
    w.isOver id = true ↔ task.activity.phase = .ended := by
  refine ⟨fun h => ?_, fun h => ?_⟩
  · by_contra hgoing
    unfold isOver at h
    rw [htask, Option.map_some] at h
    cases hactivity : task.activity with
    | fresh | pausing | evaluating | handing | joining | gathering =>
      rw [hactivity] at h
      cases h
    | _ =>
      rw [hactivity] at hgoing
      exact hgoing rfl
  · by_contra hnot
    exact phase_of_not_isOver htask hnot h

/-- A task that goes on has not ended. -/
theorem going_of_alive (halive : w.isOver id = false) (htask : w.tasks[id]? = some task) :
    task.activity.phase ≠ .ended := by
  intro hended
  rw [(isOver_iff htask).mpr hended] at halive
  cases halive

/-- A task that has not ended is there. -/
theorem exists_of_not_isOver (h : w.isOver id = false) :
    ∃ task, w.tasks[id]? = some task ∧ task.activity.phase ≠ .ended := by
  cases htask : w.tasks[id]? with
  | none =>
    rw [isOver, htask, Option.map_none] at h
    cases h
  | some task => exact ⟨task, rfl, going_of_alive h htask⟩

/-- A change that leaves a timer alone. -/
theorem timing_modify_same {f : Task → Task} (htask : w.tasks[id]? = some task)
    (htimer : (f task).timer = task.timer) (b : Nat) : (w.modify id f).timing b = w.timing b := by
  by_cases hb : id = b
  · subst hb
    rw [timing_modify_self htask, htimer, timing_eq htask]
  · exact timing_modify_of_ne hb

/-- A change that leaves alone what wakes its task, and whom that wakes. -/
theorem wakes_modify_same {f : Task → Task} (htask : w.tasks[id]? = some task)
    (htimer : (f task).timer = task.timer) (hwaiters : (f task).waiters = task.waiters) (b : Nat) :
    (w.modify id f).wakes b = w.wakes b := by
  rw [wakes, timing_modify_same htask htimer, mentions_modify_same htask hwaiters, wakes]
  rfl

/-- A change that leaves alone whom its task tells. -/
theorem news_modify_same {f : Task → Task} (htask : w.tasks[id]? = some task)
    (hparents : (f task).parents = task.parents) (b : Nat) :
    (w.modify id f).news b = w.news b := by
  rw [news, mentions_modify_same htask hparents, news]
  rfl

/-- A change that leaves alone what its task waits for. -/
theorem left_modify_same {f : Task → Task} (htask : w.tasks[id]? = some task)
    (hleft : (f task).activity.left = task.activity.left) (b : Nat) :
    (w.modify id f).left b = w.left b := by
  by_cases hb : id = b
  · subst hb
    rw [left_eq (tasks_modify_self htask f), hleft, left_eq htask]
  · exact left_congr (tasks_modify_of_ne hb f)

/-- A change that does not end its task. -/
theorem isOver_modify_same {f : Task → Task} (htask : w.tasks[id]? = some task)
    (hphase : (f task).activity.phase = .ended ↔ task.activity.phase = .ended) (b : Nat) :
    (w.modify id f).isOver b = w.isOver b := by
  by_cases hb : id = b
  · subst hb
    rw [Bool.eq_iff_iff, isOver_iff (tasks_modify_self htask f), hphase, isOver_iff htask]
  · exact isOver_congr (tasks_modify_of_ne hb f)

/-- Nobody beyond the last task goes on. -/
theorem isOver_of_size_le (h : w.tasks.size ≤ id) : w.isOver id = true := by
  rw [isOver, Array.getElem?_eq_none h, Option.map_none]

/-- A task that has not ended tells its parent. -/
theorem parents_of_going (hphase : task.activity.phase ≠ .ended) :
    task.parents = task.role.parent?.toList := by
  unfold Task.parents
  split
  · rename_i hover
    rw [hover] at hphase
    exact absurd rfl hphase
  · rfl

/-! ### Turns that go on -/

/-- Does everything stay that is to come, and everyone that waits for it? -/
structure SamePace (w w' : World) : Prop where
  wakes : ∀ b, w'.wakes b = w.wakes b
  news : ∀ b, w'.news b = w.news b
  left : ∀ b, w'.left b = w.left b
  isOver : ∀ b, w'.isOver b = w.isOver b

namespace SamePace

/-- Nothing changes that is to come. -/
theorem refl (w : World) : SamePace w w := ⟨fun _ => rfl, fun _ => rfl, fun _ => rfl, fun _ => rfl⟩

/-- What is to come depends on the tasks and on what is ready. -/
theorem of_same (htasks : w'.tasks = w.tasks) (hready : w'.ready = w.ready) : SamePace w w' := by
  have hsame : ∀ b : Nat, w'.tasks[b]? = w.tasks[b]? := fun b => by rw [htasks]
  refine ⟨fun b => ?_, fun b => ?_, fun b => left_congr (hsame b), fun b => isOver_congr (hsame b)⟩
  · rw [World.wakes, timing, mentions, htasks, hready, World.wakes, timing, mentions]
  · rw [World.news, mentions, htasks, hready, World.news, mentions]

/-- A change that does not show. -/
theorem of_steady (h : Steady w w') : SamePace w w' := of_same h.tasks h.ready

/-- A task changes, but neither its timer nor whom it waits for or wakes. -/
theorem modify {f : Task → Task} (htask : w.tasks[id]? = some task)
    (htimer : (f task).timer = task.timer) (hwaiters : (f task).waiters = task.waiters)
    (hparents : (f task).parents = task.parents)
    (hleft : (f task).activity.left = task.activity.left)
    (hphase : (f task).activity.phase = .ended ↔ task.activity.phase = .ended) :
    SamePace w (w.modify id f) :=
  ⟨wakes_modify_same htask htimer hwaiters, news_modify_same htask hparents,
    left_modify_same htask hleft, isOver_modify_same htask hphase⟩

/-- The turn of a task comes instead of its timer. -/
theorem expire {f : Task → Task} (htask : w.tasks[id]? = some task)
    (hsome : task.timer.isSome = true) (htimer : (f task).timer = none)
    (hwaiters : (f task).waiters = task.waiters) (hactivity : (f task).activity = task.activity)
    (hrole : (f task).role = task.role) :
    SamePace w ((w.modify id f).queue (.resume id)) := by
  have hparents : (f task).parents = task.parents := by
    rw [Task.parents, hactivity, hrole, Task.parents]
  have hready : ((w.modify id f).queue (.resume id)).ready = w.ready ++ [.resume id] := rfl
  refine ⟨fun b => ?_, fun b => ?_, left_modify_same htask (congrArg _ hactivity),
    isOver_modify_same htask (iff_of_eq (congrArg (·.phase = .ended) hactivity))⟩
  · have htiming : ((w.modify id f).queue (.resume id)).timing b = (w.modify id f).timing b := rfl
    have hmentions : ((w.modify id f).queue (.resume id)).mentions Task.waiters b =
        w.mentions Task.waiters b := mentions_modify_same htask hwaiters b
    rw [World.wakes, hready, htiming, hmentions, List.countP_append, List.countP_singleton,
      World.wakes]
    by_cases hb : id = b
    · subst hb
      obtain ⟨number, hnumber⟩ := Option.isSome_iff_exists.mp hsome
      rw [timing_modify_self htask, htimer, timing_eq htask, hnumber]
      simp only [Wake.isTurnOf, beq_self_eq_true, if_true, Option.toList_none, Option.toList_some,
        List.length_nil, List.length_singleton, Nat.add_zero]
    · rw [timing_modify_of_ne hb, Wake.isTurnOf, if_neg (by simpa using hb), Nat.add_zero]
  · have hmentions : ((w.modify id f).queue (.resume id)).mentions Task.parents b =
        w.mentions Task.parents b := mentions_modify_same htask hparents b
    have hnone : Wake.isNewsFor b (.resume id) = false := rfl
    rw [World.news, hmentions, hready, List.countP_append, List.countP_singleton, hnone,
      if_neg Bool.false_ne_true, Nat.add_zero, World.news]

/-- A task is asked to end. -/
theorem cancel (w : World) (id : Nat) : SamePace w (w.cancel id) := by
  unfold World.cancel
  cases htask : w.tasks[id]? with
  | none => exact refl w
  | some task =>
    simp only
    split
    · rename_i hsome
      exact expire htask hsome rfl rfl rfl rfl
    · rename_i hnone
      have htimer : none = task.timer := (Option.not_isSome_iff_eq_none.mp hnone).symm
      exact modify htask htimer rfl rfl rfl Iff.rfl

/-- What comes of the branches of a task. -/
theorem collect (w : World) (parent slot : Nat) (result : Result) :
    SamePace w (w.collect parent slot result) := by
  cases htask : w.tasks[parent]? with
  | none =>
    refine of_same (Array.ext_getElem? fun other => ?_) rfl
    rw [World.collect, tasks_modify]
    split
    · rename_i hother
      rw [← hother, htask, Option.map_none]
    · rfl
  | some task =>
    unfold World.collect
    -- Only the results change of a task that gathers them.
    cases hactivity : task.activity <;> refine modify htask ?_ ?_ ?_ ?_ ?_ <;>
      simp only [hactivity, Task.parents, Activity.left, Activity.phase]

/-- All that is asked of a world stays. -/
theorem paced (hsame : SamePace w w') (h : w.Paced) : w'.Paced := by
  refine ⟨fun b => ?_, fun b => ?_⟩
  · rw [hsame.wakes, hsame.left, hsame.isOver]
    exact h.once b
  · rw [hsame.news, hsame.left]
    exact h.news b

/-- The turn of a task goes on. -/
theorem acting (hsame : SamePace w w') (h : w.Acting id count) : w'.Acting id count := by
  refine ⟨fun b => ?_, fun b => ?_, (hsame.isOver id).trans h.alive, (hsame.wakes id).trans h.wakes,
    (hsame.left id).trans h.left⟩
  · rw [hsame.wakes, hsame.left, hsame.isOver]
    exact h.once b
  · rw [hsame.news, hsame.left]
    exact h.news b

end SamePace

/-- The task of a turn is one of the tasks. -/
theorem Acting.ne_size (h : w.Acting id count) : id ≠ w.tasks.size := by
  rintro rfl
  have halive := h.alive
  rw [isOver_of_size_le (Nat.le_refl _)] at halive
  cases halive

/-- The tasks after another one has begun. -/
theorem tasks_spawn (w : World) (role : Role) (b : Nat) :
    (w.spawn role).tasks[b]? =
      if b = w.tasks.size then some ⟨role, .fresh, none, false, [], none⟩ else w.tasks[b]? :=
  Array.getElem?_push

/-- The lists of the tasks after another one has begun. -/
theorem mentions_spawn (names : Task → List Nat) (w : World) (role : Role) (b : Nat) :
    (w.spawn role).mentions names b =
      w.mentions names b + (names ⟨role, .fresh, none, false, [], none⟩).count b := by
  simp only [mentions, spawn, queue, Array.toList_push, List.flatMap_append, List.flatMap_cons,
    List.flatMap_nil, List.append_nil, List.count_append]

/-- A task that begins has its turn to come, and wakes nobody else. -/
theorem wakes_spawn (w : World) (role : Role) (b : Nat) :
    (w.spawn role).wakes b = w.wakes b + if w.tasks.size = b then 1 else 0 := by
  have htiming : (w.spawn role).timing b = w.timing b := by
    rw [timing, tasks_spawn, timing]
    split
    · rename_i hb
      rw [hb, Array.getElem?_eq_none (Nat.le_refl _)]
      rfl
    · rfl
  have hready : (w.spawn role).ready = w.ready ++ [.resume w.tasks.size] := rfl
  rw [wakes, wakes, htiming, mentions_spawn, hready, List.countP_append, List.countP_singleton,
    List.count_nil]
  simp only [Wake.isTurnOf, beq_iff_eq]
  omega

/-- A task that begins will tell its parent of its end. -/
theorem news_spawn (w : World) (role : Role) (b : Nat) :
    (w.spawn role).news b = w.news b + role.parent?.toList.count b := by
  have hready : (w.spawn role).ready = w.ready ++ [.resume w.tasks.size] := rfl
  rw [news, news, mentions_spawn, hready, List.countP_append, List.countP_singleton]
  simp only [Wake.isNewsFor, Bool.false_eq_true, if_false, Nat.add_zero]
  exact Nat.add_right_comm _ _ _

/-- A task that begins waits for nobody. -/
theorem left_spawn (w : World) (role : Role) (b : Nat) : (w.spawn role).left b = w.left b := by
  rw [left, tasks_spawn, left]
  split
  · rename_i hb
    rw [hb, Array.getElem?_eq_none (Nat.le_refl _)]
    rfl
  · rfl

/-- A task that begins has not ended. -/
theorem isOver_spawn_size (w : World) (role : Role) :
    (w.spawn role).isOver w.tasks.size = false := by
  rw [isOver, tasks_spawn, if_pos rfl]
  rfl

/-- Another task has ended if it had before. -/
theorem isOver_spawn_of_ne {b : Nat} (hb : b ≠ w.tasks.size) (role : Role) :
    (w.spawn role).isOver b = w.isOver b :=
  isOver_congr (by rw [tasks_spawn, if_neg hb])

/-- A task begins, which is woken once. -/
theorem WokenOnce.spawn (h : w.WokenOnce) (role : Role) : (w.spawn role).WokenOnce := by
  intro b
  have honce := h b
  rw [wakes_spawn, left_spawn]
  by_cases hb : b = w.tasks.size
  · subst hb
    rw [isOver_of_size_le (Nat.le_refl _), if_pos rfl] at honce
    rw [isOver_spawn_size, if_pos rfl, if_neg Bool.false_ne_true]
    omega
  · rw [if_neg (Ne.symm hb), isOver_spawn_of_ne hb]
    exact honce

/-- In its turn a task begins another one, which tells nobody else of its end. -/
theorem Acting.spawn (h : w.Acting id count) {role : Role}
    (hrole : ∀ parent ∈ role.parent?, parent = id) :
    (w.spawn role).Acting id (count + role.parent?.toList.length) := by
  refine ⟨h.once.spawn role, fun b => ?_, ?_, ?_, (left_spawn w role id).trans h.left⟩
  · have hnews := h.news b
    have htold : role.parent?.toList.count b =
        if b = id then role.parent?.toList.length else 0 := by
      cases hparent : role.parent? with
      | none =>
        split <;> rfl
      | some parent =>
        obtain rfl := hrole parent hparent
        split
        · rename_i hb
          rw [hb]
          exact List.count_singleton_self
        · rename_i hb
          exact List.count_eq_zero_of_not_mem fun hmem => hb (List.mem_singleton.mp hmem)
    rw [news_spawn, left_spawn, htold]
    by_cases hb : b = id
    · simp only [if_pos hb] at hnews ⊢
      omega
    · simpa only [if_neg hb, Nat.add_zero] using hnews
  · rw [isOver_spawn_of_ne h.ne_size]
    exact h.alive
  · rw [wakes_spawn, if_neg (Ne.symm h.ne_size)]
    exact h.wakes

/-- In its turn a task begins several others. -/
theorem Acting.spawnAll (h : w.Acting id count) {roles : List Role}
    (hroles : ∀ role ∈ roles, role.parent? = some id) :
    (w.spawnAll roles).Acting id (count + roles.length) := by
  unfold World.spawnAll
  induction roles generalizing w count with
  | nil => exact h
  | cons role rest ih =>
    have hrole := hroles role List.mem_cons_self
    have hparent : ∀ parent ∈ role.parent?, parent = id := fun parent hparent =>
      Option.some.inj ((Option.mem_def.mp hparent).symm.trans hrole)
    -- Every one of them is one end more that the task is going to hear of.
    have hfirst := h.spawn hparent
    rw [hrole] at hfirst
    have hrest := ih hfirst fun other hother => hroles other (List.mem_cons_of_mem _ hother)
    rw [List.length_cons, Nat.add_comm rest.length, ← Nat.add_assoc]
    exact hrest

/-! ### Turns that end -/

/-- Between turns nobody has begun anything that waits for its end. -/
theorem Acting.paced (h : w.Acting id 0) : w.Paced := by
  refine ⟨h.once, fun b => ?_⟩
  have hnews := h.news b
  simpa only [ite_self, Nat.add_zero] using hnews

/-- A turn ends in which one thing has come that wakes its task. -/
theorem Acting.woken (h : w.Acting id 0)
    (hwakes : ∀ b, w'.wakes b = w.wakes b + if id = b then 1 else 0)
    (hnews : ∀ b, w'.news b = w.news b) (hleft : ∀ b, w'.left b = w.left b)
    (hover : ∀ b, w'.isOver b = w.isOver b) : w'.Paced := by
  refine ⟨fun b => ?_, fun b => ?_⟩
  · rw [hwakes, hleft, hover]
    by_cases hb : id = b
    · subst hb
      rw [h.wakes, h.left, h.alive, if_pos rfl, if_neg Bool.false_ne_true]
      exact Nat.le_refl 1
    · rw [if_neg hb]
      exact h.once b
  · rw [hnews, hleft]
    exact h.paced.news b

/-- A turn becomes ready. -/
theorem wakes_queue (w : World) (id b : Nat) :
    (w.queue (.resume id)).wakes b = w.wakes b + if id = b then 1 else 0 := by
  have hready : (w.queue (.resume id)).ready = w.ready ++ [.resume id] := rfl
  have htiming : (w.queue (.resume id)).timing b = w.timing b := rfl
  have hmentions : (w.queue (.resume id)).mentions Task.waiters b = w.mentions Task.waiters b := rfl
  rw [wakes, hready, htiming, hmentions, List.countP_append, List.countP_singleton, wakes]
  simp only [Wake.isTurnOf, beq_iff_eq]
  omega

/-- Nobody hears of a turn. -/
theorem news_queue (w : World) (id b : Nat) : (w.queue (.resume id)).news b = w.news b := by
  have hready : (w.queue (.resume id)).ready = w.ready ++ [.resume id] := rfl
  have hmentions : (w.queue (.resume id)).mentions Task.parents b = w.mentions Task.parents b := rfl
  have hnone : Wake.isNewsFor b (.resume id) = false := rfl
  rw [news, hmentions, hready, List.countP_append, List.countP_singleton, hnone,
    if_neg Bool.false_ne_true, Nat.add_zero, news]

/-- A task whose timer is set is woken by it, and by nothing else. -/
theorem Acting.setTimer (h : w.Acting id 0) (number : Nat) :
    (w.modify id fun task => { task with timer := some number }).Paced := by
  obtain ⟨task, htask, _⟩ := exists_of_not_isOver h.alive
  have hnone : w.timing id = 0 := by
    have hwakes := h.wakes
    rw [World.wakes] at hwakes
    omega
  refine h.woken (fun b => ?_) (news_modify_same htask rfl) (left_modify_same htask rfl)
    (isOver_modify_same htask Iff.rfl)
  have hwaiters : ∀ b, (w.modify id fun task =>
      { task with timer := some number }).mentions Task.waiters b = w.mentions Task.waiters b :=
    mentions_modify_same htask rfl
  rw [World.wakes, hwaiters, World.wakes]
  by_cases hb : id = b
  · subst hb
    rw [timing_modify_self htask, hnone, if_pos rfl]
    exact Nat.add_right_comm _ _ _
  · rw [timing_modify_of_ne hb, if_neg hb]
    rfl

/-- A task that waits for a time to come is woken once. -/
theorem Acting.sleep (h : w.Acting id 0) (seconds : Number) : (w.sleep id seconds).Paced := by
  unfold World.sleep
  split
  · exact h.woken (wakes_queue w id) (news_queue w id) (fun _ => rfl) fun _ => rfl
  · have htimer : SamePace w { w with
        timers := insertTimer ⟨w.elapsed + seconds.toFloat, id, w.timerCount⟩ w.timers
        timerCount := w.timerCount + 1 } := .of_same rfl rfl
    exact (htimer.acting h).setTimer w.timerCount

/-- A task gets on that waits for nobody. -/
theorem Acting.setActivity (h : w.Acting id count) {activity : Activity}
    (hphase : activity.phase ≠ .ended) (hleft : activity.left = 0) :
    (w.setActivity id activity).Acting id count := by
  obtain ⟨task, htask, hgoing⟩ := exists_of_not_isOver h.alive
  have hnobody : task.activity.left = 0 := (left_eq htask).symm.trans h.left
  have hparents : Task.parents { task with activity := activity } = task.parents := by
    rw [parents_of_going hgoing, parents_of_going hphase]
  have hsame : SamePace w (w.setActivity id activity) :=
    .modify htask rfl rfl hparents (hleft.trans hnobody.symm)
      ⟨fun hended => absurd hended hphase, fun hended => absurd hended hgoing⟩
  exact hsame.acting h

/-- A task waits for those that it has begun. -/
theorem Acting.ask (h : w.Acting id count) {activity : Activity}
    (hphase : activity.phase ≠ .ended) (hleft : activity.left = count) :
    (w.setActivity id activity).Paced := by
  obtain ⟨task, htask, hgoing⟩ := exists_of_not_isOver h.alive
  have hparents : Task.parents { task with activity := activity } = task.parents := by
    rw [parents_of_going hgoing, parents_of_going hphase]
  have hover := isOver_modify_same htask (f := fun task => { task with activity := activity })
    ⟨fun hended => absurd hended hphase, fun hended => absurd hended hgoing⟩
  refine ⟨fun b => ?_, fun b => ?_⟩
  · have honce := h.once b
    rw [World.setActivity, wakes_modify_same htask rfl rfl, hover]
    by_cases hb : id = b
    · subst hb
      rw [h.wakes, h.alive, if_neg Bool.false_ne_true]
      omega
    · rw [left_congr (tasks_modify_of_ne hb _)]
      exact honce
  · have htold := h.news b
    rw [World.setActivity, news_modify_same htask hparents]
    by_cases hb : id = b
    · subst hb
      rw [h.left, if_pos rfl] at htold
      rw [left_eq (tasks_modify_self htask _), hleft]
      omega
    · rw [if_neg (Ne.symm hb)] at htold
      rw [left_congr (tasks_modify_of_ne hb _)]
      exact htold

/-- A task that is begun to be waited for has the parent that waits. -/
theorem parent_of_begun {role : Role} (h : role.Begun id parts) : role.parent? = some id := by
  cases h <;> rfl

/-- **A task that waits is woken once**, and not before all have ended that it has begun. -/
theorem Waits.paced (hwaits : Waits id parts w w') (h : w.Acting id 0) : w'.Paced := by
  cases hwaits with
  | sleep hsleeps seconds =>
    obtain ⟨hphase, hleft, _⟩ := Activity.going_of_sleeps hsleeps
    have hgoing := h.setActivity (hphase.trans_ne nofun) hleft
    exact hgoing.sleep seconds
  | ask hphase hleft hroles =>
    have hbegun := h.spawnAll fun role hrole => parent_of_begun (hroles role hrole)
    rw [Nat.zero_add] at hbegun
    exact hbegun.ask (hphase ▸ nofun) hleft

/-- The same after a change that does not show. -/
theorem Pauses.paced (hpauses : Pauses id parts w w') (h : w.Acting id 0) : w'.Paced := by
  obtain ⟨between, hsteady, hwaits⟩ := hpauses
  exact hwaits.paced ((SamePace.of_steady hsteady).acting h)

/-- What the end of a task comes to. -/
theorem finish_eq (htask : w.tasks[id]? = some task) (fault : Option Fault) :
    w.finish id fault =
      { w.modify id fun task => { task with activity := .over, fault := fault, waiters := [] } with
        ready := w.ready ++ task.waiters.map .resume } := by
  unfold finish
  simp only [foldl_queue, htask, Option.map_some, Option.getD_some]
  rfl

/-- A task that ends wakes those that wait for it, as they were to be woken. -/
theorem wakes_finish (htask : w.tasks[id]? = some task) (fault : Option Fault) (b : Nat) :
    (w.finish id fault).wakes b = w.wakes b := by
  have hturns : (task.waiters.map Wake.resume).countP (Wake.isTurnOf b) = task.waiters.count b := by
    rw [List.countP_map]
    rfl
  have hwaiters := mentions_modify Task.waiters htask
    (fun task => { task with activity := .over, fault := fault, waiters := [] }) b
  have htiming := timing_modify_same htask
    (f := fun task => { task with activity := .over, fault := fault, waiters := [] }) rfl b
  -- Those that waited for it are mentioned no more, but their turns are ready by now.
  rw [List.count_nil] at hwaiters
  rw [finish_eq htask]
  simp only [wakes, mentions, timing, List.countP_append, hturns] at hwaiters htiming ⊢
  omega

/-- A task that ends will tell nobody any more. -/
theorem news_finish (htask : w.tasks[id]? = some task) (fault : Option Fault) (b : Nat) :
    (w.finish id fault).news b + task.parents.count b = w.news b := by
  have hnone : (task.waiters.map Wake.resume).countP (Wake.isNewsFor b) = 0 := by
    rw [List.countP_map]
    exact List.countP_eq_zero.mpr fun _ _ => Bool.false_ne_true
  have hparents := mentions_modify Task.parents htask
    (fun task => { task with activity := .over, fault := fault, waiters := [] }) b
  have hover : Task.parents { task with activity := .over, fault := fault, waiters := [] } = [] :=
    rfl
  rw [hover, List.count_nil] at hparents
  rw [finish_eq htask]
  simp only [news, mentions, List.countP_append, hnone] at hparents ⊢
  omega

/-- The task of a turn ends, and whoever is told of it hears of no more than it waits for. -/
theorem Acting.paced_of_over (h : w.Acting id 0) {w' : World}
    (hwakes : ∀ b, w'.wakes b = w.wakes b) (hnews : ∀ b, w'.news b ≤ w.news b)
    (hothers : ∀ b : Nat, id ≠ b → w'.tasks[b]? = w.tasks[b]?)
    (hended : ∀ task', w'.tasks[id]? = some task' → task'.activity = .over) : w'.Paced := by
  have hleft : w'.left id = 0 := by
    cases hfound : w'.tasks[id]? with
    | none => rw [World.left, hfound]; rfl
    | some task' => rw [left_eq hfound, hended task' hfound]; rfl
  refine ⟨fun b => ?_, fun b => ?_⟩
  · by_cases hb : id = b
    · subst hb
      rw [hwakes, h.wakes, hleft]
      exact Nat.zero_le _
    · rw [hwakes, left_congr (hothers b hb), isOver_congr (hothers b hb)]
      exact h.once b
  · have htold := Nat.le_trans (hnews b) (h.paced.news b)
    by_cases hb : id = b
    · subst hb
      rw [h.left] at htold
      rw [hleft]
      exact htold
    · rw [left_congr (hothers b hb)]
      exact htold

/-- A task ends in its turn. -/
theorem Acting.finish (h : w.Acting id 0) (fault : Option Fault) : (w.finish id fault).Paced := by
  obtain ⟨task, htask, _⟩ := exists_of_not_isOver h.alive
  refine h.paced_of_over (wakes_finish htask fault) (fun b => ?_) (fun b hb => ?_)
    fun task' htask' => ?_
  · exact Nat.le.intro (news_finish htask fault b)
  · rw [finish_eq htask]
    exact tasks_modify_of_ne hb _
  · rw [finish_eq htask] at htask'
    obtain ⟨before, _, rfl⟩ := exists_of_modify htask'
    rfl

/-- A task ends in its turn, and its parent is told. -/
theorem Acting.tell (h : w.Acting id 0) {parent : Nat} (htask : w.tasks[id]? = some task)
    (hparent : task.role.parent? = some parent) :
    ((w.finish id none).queue (.childOver parent)).Paced := by
  have hgoing := going_of_alive h.alive htask
  have hready : ((w.finish id none).queue (.childOver parent)).ready =
      (w.finish id none).ready ++ [.childOver parent] := rfl
  refine h.paced_of_over (fun b => ?_) (fun b => ?_) (fun b hb => ?_) fun task' htask' => ?_
  · have hturn : Wake.isTurnOf b (.childOver parent) = false := rfl
    rw [← wakes_finish htask none b, World.wakes, hready, List.countP_append,
      List.countP_singleton, hturn, if_neg Bool.false_ne_true, Nat.add_zero]
    rfl
  · have hnews := news_finish htask none b
    rw [parents_of_going hgoing, hparent, Option.toList_some, List.count_singleton] at hnews
    rw [World.news, hready, List.countP_append, List.countP_singleton, Wake.isNewsFor,
      ← Nat.add_assoc]
    exact Nat.le_of_eq hnews
  · show (w.finish id none).tasks[b]? = w.tasks[b]?
    rw [finish_eq htask]
    exact tasks_modify_of_ne hb _
  · have hfound : (w.finish id none).tasks[id]? = some task' := htask'
    rw [finish_eq htask] at hfound
    obtain ⟨before, _, rfl⟩ := exists_of_modify hfound
    rfl

/-- The turn of a loop. -/
theorem Rounds.paced (hrounds : Rounds id w w') (h : w.Acting id 0) : w'.Paced := by
  obtain hpauses | ⟨between, fault, hsteady, rfl⟩ := hrounds
  · exact hpauses.paced h
  · exact ((SamePace.of_steady hsteady).acting h).finish fault

/-- A stop waits for a loop that has not ended, and that wakes it. -/
theorem Acting.join (h : w.Acting id 0) (hne : id ≠ loop) (hloop : w.isOver loop = false) :
    (((w.cancel loop).modify loop fun task =>
      { task with waiters := task.waiters ++ [id] }).setActivity id (.joining loop)).Paced := by
  have hcancelled : (w.cancel loop).Acting id 0 := (SamePace.cancel w loop).acting h
  obtain ⟨waiting, hwaiting, hgoing⟩ := exists_of_not_isOver hcancelled.alive
  obtain ⟨task, htask, _⟩ :=
    exists_of_not_isOver (((SamePace.cancel w loop).isOver loop).trans hloop)
  -- From here on the end of the loop is going to wake the stop.
  have hwoken : ((w.cancel loop).modify loop fun task =>
      { task with waiters := task.waiters ++ [id] }).Paced := by
    refine hcancelled.woken (fun b => ?_) (news_modify_same htask rfl) (left_modify_same htask rfl)
      (isOver_modify_same htask Iff.rfl)
    have hwaiters := mentions_modify Task.waiters htask
      (fun task => { task with waiters := task.waiters ++ [id] }) b
    have htiming := timing_modify_same htask
      (f := fun task => { task with waiters := task.waiters ++ [id] }) rfl b
    rw [List.count_append, List.count_singleton] at hwaiters
    rw [World.wakes, htiming, World.wakes]
    simp only [beq_iff_eq] at hwaiters
    have hready : ((w.cancel loop).modify loop fun task =>
        { task with waiters := task.waiters ++ [id] }).ready = (w.cancel loop).ready := rfl
    rw [hready]
    omega
  have hfound := (tasks_modify_of_ne (Ne.symm hne) fun task =>
    { task with waiters := task.waiters ++ [id] }).trans hwaiting
  have hjoins : (Activity.joining loop).phase ≠ .ended := nofun
  have hparents : Task.parents { waiting with activity := .joining loop } = waiting.parents := by
    rw [parents_of_going hgoing, parents_of_going hjoins]
  have hsame : SamePace _ (((w.cancel loop).modify loop fun task =>
      { task with waiters := task.waiters ++ [id] }).setActivity id (.joining loop)) :=
    .modify hfound rfl rfl hparents ((left_eq hwaiting).symm.trans hcancelled.left).symm
      ⟨fun hended => absurd hended hjoins, fun hended => absurd hended hgoing⟩
  exact hsame.paced hwoken

end World

end StreamWatch.Simulation
