import StreamWatch.Proofs.Simulation.Wakes

namespace StreamWatch.Simulation

/-!
# No task is woken twice

A task that has its turn is not waited for by anything else, and so a stop that waits for a loop
goes on only when that has ended.

* `World.Comes` — what a command comes to, as far as its task is woken after it;
* `World.paced_resume`, `World.paced_childOver` — what becomes of what is ready;
* `World.paced_step`, `World.paced_run` — every world that a script comes to is paced;
* `World.ended_of_turn` — hence the loop has ended when the stop that waits for it has its turn.
-/

namespace World

variable {w w' : World} {id loop : Nat} {task task' : Task} {parts : List Command}

/-! ### Commands -/

/-- What does a command come to?  Either its task is still acting, and as it was, or it waits. -/
def Comes (id : Nat) (w : World) : Progress → Prop
  | (w', some _) => w'.Acting id 0 ∧ w'.tasks[id]? = w.tasks[id]?
  | (w', none) => w'.Paced

/-- A command of which nothing shows but that its task waits. -/
theorem Goes.comes {progress : Progress} (hgoes : Goes id parts w progress) (h : w.Acting id 0) :
    Comes id w progress := by
  obtain ⟨w', _ | result⟩ := progress
  · exact Pauses.paced hgoes h
  · exact ⟨(SamePace.of_steady hgoes).acting h, by rw [hgoes.tasks]⟩

/-- A command begins. -/
theorem comes_begin (h : w.Acting id 0) (hturn : w.ScriptTurn id) (command : Command) :
    Comes id w (w.begin id command) := by
  by_cases hstart : command = .start
  · subst hstart
    have hsame : SamePace w { w with running := true, loop := some w.tasks.size } :=
      .of_same rfl rfl
    exact ⟨(hsame.acting h).spawn nofun, (tasks_spawn _ .loop id).trans (if_neg h.ne_size)⟩
  by_cases hstop : command = .stop
  · subst hstop
    have hsame : SamePace w { w with running := false } := .of_same rfl rfl
    have hstopped := hsame.acting h
    have hcomes : ∀ {progress}, Goes id [] { w with running := false } progress →
        Comes id w progress := fun hgoes => hgoes.comes hstopped
    show Comes id w (w.stopLoop id)
    unfold stopLoop
    simp only
    split
    · exact hcomes (flushes_flush _ id).goes
    · rename_i loop hlast
      split
      · exact hcomes (goes_afterLoop _ id loop)
      · rename_i hgoing
        exact hstopped.join (hturn.lastLoop hlast).1 (Bool.eq_false_iff.mpr hgoing)
  · exact (goes_begin w id hstart hstop).comes h

/-- Who carries out a script of its own has nobody to tell of its end. -/
theorem Paced.setScript (h : w.Paced) (id : Nat) (rest : List Command) :
    (w.modify id fun task => { task with role := .script rest }).Paced := by
  cases htask : w.tasks[id]? with
  | none =>
    have hnobody : ∀ b : Nat, (w.modify id fun task =>
        { task with role := .script rest }).tasks[b]? = w.tasks[b]? := by
      intro b
      by_cases hb : id = b
      · rw [← hb, tasks_modify, if_pos rfl, htask, Option.map_none]
      · exact tasks_modify_of_ne hb _
    have hsame : SamePace w (w.modify id fun task => { task with role := .script rest }) :=
      .of_same (Array.ext_getElem? hnobody) rfl
    exact hsame.paced h
  | some task =>
    have hparents := mentions_modify Task.parents htask
      fun task => { task with role := .script rest }
    have hnobody : Task.parents { task with role := .script rest } = [] := by
      unfold Task.parents
      split <;> rfl
    refine ⟨fun b => ?_, fun b => ?_⟩
    · rw [wakes_modify_same htask rfl rfl, left_modify_same htask rfl,
        isOver_modify_same htask Iff.rfl]
      exact h.once b
    · have htold := h.news b
      have hfewer := hparents b
      rw [hnobody, List.count_nil] at hfewer
      rw [left_modify_same htask rfl]
      have hready : (w.modify id fun task => { task with role := .script rest }).ready = w.ready :=
        rfl
      rw [World.news] at htold ⊢
      rw [hready]
      omega

/-- The report of a result wakes nobody. -/
theorem Acting.report (h : w.Acting id 0) (result : Result) : (w.report result).Acting id 0 := by
  have hsame : SamePace w (w.report result) := .of_same rfl rfl
  exact hsame.acting h

/-- A script goes on. -/
theorem paced_runScript (h : w.Acting id 0) (hturn : w.ScriptTurn id) (commands : List Command) :
    (w.runScript id commands).Paced := by
  induction commands generalizing w with
  | nil => exact h.finish none
  | cons command rest ih =>
    have hcomes := comes_begin h hturn command
    have hleaves := leaves_begin hturn command
    unfold runScript
    split
    · rename_i w' result hprogress
      rw [hprogress] at hcomes hleaves
      exact ih (hcomes.1.report result) (hleaves.scriptTurn hturn)
    · rename_i w' hprogress
      rw [hprogress] at hcomes
      exact Paced.setScript hcomes id rest

/-- A command goes on that had to wait. -/
theorem comes_resumeCommand (h : w.Acting id 0) (htask : w.tasks[id]? = some task)
    (hfresh : task.activity ≠ .fresh) : Comes id w (w.resumeCommand id task.activity) := by
  have hgoing := going_of_alive h.alive htask
  exact (goes_resumeCommand w id hgoing hfresh).comes h

/-- What comes of a branch changes no role. -/
theorem role_collect {parent slot : Nat} {result : Result}
    (h : (w.collect parent slot result).tasks[id]? = some task') :
    ∃ task, w.tasks[id]? = some task ∧ task'.role = task.role := by
  by_cases hid : parent = id
  · subst hid
    obtain ⟨task, htask, rfl⟩ := exists_of_modify h
    refine ⟨task, htask, ?_⟩
    split <;> rfl
  · exact ⟨task', (tasks_modify_of_ne hid _).symm.trans h, rfl⟩

/-- A branch ends with its command. -/
theorem paced_closeBranch {progress : Progress} (hcomes : Comes id w progress) {parent : Nat}
    (slot : Nat) (htask : w.tasks[id]? = some task) (hrole : task.role.parent? = some parent) :
    (closeBranch id parent slot progress).Paced := by
  obtain ⟨w', _ | result⟩ := progress
  · exact hcomes
  · obtain ⟨hacting, hsame⟩ := hcomes
    have hcollected := (SamePace.collect w' parent slot result).acting hacting
    obtain ⟨own, hown, _⟩ := exists_of_not_isOver hcollected.alive
    obtain ⟨before, hbefore, hkept⟩ := role_collect hown
    obtain rfl := Option.some.inj (htask.symm.trans (hsame.symm.trans hbefore))
    exact hcollected.tell hown (hkept ▸ hrole)

/-- The turn of a script. -/
theorem paced_scriptTurn (h : w.Acting id 0) (hturn : w.ScriptTurn id)
    (htask : w.tasks[id]? = some task) (commands : List Command) :
    (match task.activity with
      | .fresh => w.runScript id commands
      | activity =>
        match w.resumeCommand id activity with
        | (w, some result) => (w.report result).runScript id commands
        | (w, none) => w).Paced := by
  have hcomes := comes_resumeCommand h htask
  have hleaves := leaves_resumeCommand hturn htask
  split
  · exact paced_runScript h hturn commands
  · rename_i hfresh
    split
    · rename_i w' result hprogress
      rw [hprogress] at hcomes hleaves
      exact paced_runScript ((hcomes hfresh).1.report result) (hleaves.scriptTurn hturn) commands
    · rename_i w' hprogress
      rw [hprogress] at hcomes
      exact hcomes hfresh

/-- The turn of a branch. -/
theorem paced_branchTurn (h : w.Acting id 0) (hturn : w.ScriptTurn id)
    (htask : w.tasks[id]? = some task) {parent slot : Nat} {command : Command}
    (hrole : task.role = .branch parent slot command) :
    (match task.activity with
      | .fresh => closeBranch id parent slot (w.begin id command)
      | activity => closeBranch id parent slot (w.resumeCommand id activity)).Paced := by
  have hparent : task.role.parent? = some parent := by rw [hrole]; rfl
  have hcomes := comes_resumeCommand h htask
  split
  · exact paced_closeBranch (comes_begin h hturn command) slot htask hparent
  · rename_i hfresh
    exact paced_closeBranch (hcomes hfresh) slot htask hparent

/-- The turn of a probe. -/
theorem paced_probeTurn (h : w.Acting id 0) (htask : w.tasks[id]? = some task) {parent : Nat}
    {probe : Probe} (hrole : task.role = .probe parent probe) (activity : Activity) :
    (w.resumeProbe id parent probe activity).Paced := by
  have hparent : task.role.parent? = some parent := by rw [hrole]; rfl
  obtain hsame | hpauses | ⟨between, hsteady, hends⟩ := goes_resumeProbe w id parent probe activity
  · rw [hsame]
    exact h.paced
  · exact hpauses.paced h
  · rw [hends]
    exact ((SamePace.of_steady hsteady).acting h).tell (hsteady.tasks ▸ htask) hparent

section
variable {wake : Wake} {rest : List Wake}

/-- Something is taken that is ready, which may have been the turn of a task. -/
theorem wakes_pop (hready : w.ready = wake :: rest) (b : Nat) :
    w.wakes b = ({ w with ready := rest } : World).wakes b + if wake.isTurnOf b then 1 else 0 := by
  have hpopped : ({ w with ready := rest } : World).wakes b =
      rest.countP (Wake.isTurnOf b) + w.timing b + w.mentions Task.waiters b := rfl
  rw [wakes, hready, List.countP_cons, hpopped]
  omega

/-- Something is taken that is ready, which may have been news for a task. -/
theorem news_pop (hready : w.ready = wake :: rest) (b : Nat) :
    w.news b = ({ w with ready := rest } : World).news b + if wake.isNewsFor b then 1 else 0 := by
  have hpopped : ({ w with ready := rest } : World).news b =
      w.mentions Task.parents b + rest.countP (Wake.isNewsFor b) := rfl
  rw [news, hready, List.countP_cons, hpopped]
  omega

/-- A task is taken whose turn it is, and that nothing else is going to wake. -/
theorem Paced.acting (h : w.Paced) (hready : w.ready = .resume id :: rest) :
    (w.taking id rest).Acting id 0 := by
  have hwakes : w.wakes id = ({ w with ready := rest } : World).wakes id + 1 := by
    rw [wakes_pop hready, Wake.isTurnOf, if_pos (beq_self_eq_true id)]
  -- This turn is the one thing that was to wake the task.
  have hmine := h.once id
  have halive : w.isOver id = false := by
    by_contra hover
    rw [if_pos (Bool.not_eq_false _ ▸ hover)] at hmine
    omega
  rw [halive, if_neg Bool.false_ne_true] at hmine
  have hpopped : ({ w with ready := rest } : World).Acting id 0 := by
    refine ⟨fun b => ?_, fun b => ?_, halive, by omega, ?_⟩
    · have honce := h.once b
      rw [wakes_pop hready] at honce
      exact Nat.le_trans (Nat.add_le_add_right (Nat.le_add_right _ _) _) honce
    · have hnews := h.news b
      rw [news_pop hready] at hnews
      exact Nat.le_trans (Nat.le_of_add_right_le hnews) (Nat.le_add_right _ _)
    · show w.left id = 0
      omega
  obtain ⟨task, htask, _⟩ := exists_of_not_isOver hpopped.alive
  have hreset : SamePace ({ w with ready := rest } : World) (w.taking id rest) :=
    .modify htask rfl rfl rfl rfl Iff.rfl
  exact hreset.acting hpopped

/-- Only who has not ended has a turn. -/
theorem Paced.going (h : w.Paced) (hready : w.ready = .resume id :: rest)
    (htask : w.tasks[id]? = some task) : task.activity.phase ≠ .ended := by
  have hown : (w.taking id rest).tasks[id]? = some { task with cancelled := false } :=
    tasks_modify_self htask _
  have hgoing := going_of_alive (h.acting hready).alive hown
  exact hgoing

/-- A loop that has its turn goes on. -/
theorem Paced.loopGoing (h : w.Paced) (horderly : w.Orderly) (hready : w.ready = .resume id :: rest)
    (htask : w.tasks[id]? = some task) (hrole : task.role = .loop) :
    task.activity.phase = .going := by
  have hkind : task.role.kind = .loop := by rw [hrole]; rfl
  exact (((horderly.rests id task htask).rounds hkind).resolve_left (h.going hready htask)).1

/-- The turn of a task. -/
theorem paced_resume (h : w.Paced) (horderly : w.Orderly) (hready : w.ready = .resume id :: rest) :
    (({ w with ready := rest } : World).resume id).Paced := by
  have hacting := h.acting hready
  obtain ⟨own, hown, hgoing⟩ := exists_of_not_isOver hacting.alive
  obtain ⟨task, htask, rfl⟩ := exists_of_modify hown
  have hscript := scriptTurn_taking horderly hready htask
  unfold resume
  simp only [htask]
  cases hrole : task.role with
  | script commands =>
    rw [hrole] at hscript
    exact paced_scriptTurn hacting (hscript rfl) hown commands
  | branch parent slot command =>
    rw [hrole] at hscript
    exact paced_branchTurn hacting (hscript rfl) hown hrole
  | loop =>
    have hphase := h.loopGoing horderly hready htask hrole
    exact (goes_loopTurn (w.taking id rest) id hphase task.cancelled).paced hacting
  | probe parent probe => exact paced_probeTurn hacting hown hrole task.activity

/-- A timer that runs out gives its task the turn that it was to have. -/
theorem samePace_fire (w : World) (id number : Nat) : SamePace w (w.fire id number) := by
  unfold fire
  cases htask : w.tasks[id]? with
  | none => exact .refl w
  | some task =>
    simp only
    split
    · rename_i htimer
      exact .expire htask (htimer ▸ rfl) rfl rfl rfl rfl
    · exact .refl w

/-- One of those has ended that a task waits for. -/
theorem left_countDown (activity : Activity) :
    (countDown activity).left = activity.left - 1 ∧
      (countDown activity).phase = activity.phase ∧
      (0 < activity.left → (isLast (countDown activity) = true ↔ activity.left = 1)) := by
  cases activity with
  | evaluating session found rounds left =>
    refine ⟨rfl, rfl, fun hleft => ?_⟩
    have hlast : isLast (countDown (.evaluating session found rounds left)) = (left - 1 == 0) := rfl
    rw [hlast, beq_iff_eq]
    simp only [Activity.left] at hleft ⊢
    omega
  | gathering results left =>
    refine ⟨rfl, rfl, fun hleft => ?_⟩
    have hlast : isLast (countDown (.gathering results left)) = (left - 1 == 0) := rfl
    rw [hlast, beq_iff_eq]
    simp only [Activity.left] at hleft ⊢
    omega
  | _ => exact ⟨rfl, rfl, fun hleft => absurd hleft (Nat.lt_irrefl 0)⟩

end

/-- Who hears that one has ended waits for one fewer, and that is all. -/
theorem counted (htask : w.tasks[id]? = some task) (hgoing : task.activity.phase ≠ .ended) :
    let after := w.setActivity id (countDown task.activity)
    ∀ b, after.wakes b = w.wakes b ∧ after.news b = w.news b ∧ after.isOver b = w.isOver b ∧
      after.left b = w.left b - if id = b then 1 else 0 := by
  intro after b
  obtain ⟨hleft, hphase, _⟩ := left_countDown task.activity
  have hparents : Task.parents { task with activity := countDown task.activity } =
      task.parents := by
    rw [parents_of_going hgoing, parents_of_going fun hended => hgoing (hphase.symm.trans hended)]
  refine ⟨wakes_modify_same htask rfl rfl b, news_modify_same htask hparents b,
    isOver_modify_same htask (iff_of_eq (congrArg (· = .ended) hphase)) b, ?_⟩
  by_cases hb : id = b
  · subst hb
    rw [if_pos rfl, left_eq htask]
    exact (left_eq (tasks_modify_self htask _)).trans hleft
  · rw [if_neg hb, Nat.sub_zero]
    exact left_congr (tasks_modify_of_ne hb _)

/-- A task hears that one has ended that it waits for.  After the last one it has its turn. -/
theorem paced_childOver {parent : Nat} (honce : w.WokenOnce)
    (hnews : ∀ b, w.news b + (if parent = b then 1 else 0) ≤ w.left b) :
    (w.childOver parent).Paced := by
  have hmine := honce parent
  have hwaits := Nat.le_trans (Nat.le_add_left 1 _) (if_pos (rfl : parent = parent) ▸ hnews parent)
  have halive : w.isOver parent = false := by
    by_contra hover
    rw [if_pos (Bool.not_eq_false _ ▸ hover)] at hmine
    omega
  rw [halive, if_neg Bool.false_ne_true] at hmine
  obtain ⟨task, htask, hgoing⟩ := exists_of_not_isOver halive
  have hcounted := counted htask hgoing
  have htold : ∀ b, (w.setActivity parent (countDown task.activity)).news b ≤
      (w.setActivity parent (countDown task.activity)).left b := by
    intro b
    obtain ⟨_, hsame, _, hleft⟩ := hcounted b
    rw [hsame, hleft]
    exact Nat.le_sub_of_add_le (hnews b)
  unfold childOver
  simp only [htask]
  split
  · -- It was the last one, and the turn that the task was waiting for is to come now.
    rename_i hended
    have hone : w.left parent = 1 := by
      rw [left_eq htask] at hwaits ⊢
      exact ((left_countDown task.activity).2.2 hwaits).mp hended
    refine ⟨fun b => ?_, fun b => ?_⟩
    · obtain ⟨hwakes, _, hover, hleft⟩ := hcounted b
      rw [wakes_queue, hwakes]
      show _ + min 1 ((w.setActivity parent (countDown task.activity)).left b) ≤
        if (w.setActivity parent (countDown task.activity)).isOver b then 0 else 1
      rw [hover, hleft]
      by_cases hb : parent = b
      · subst hb
        rw [halive, if_pos rfl, if_neg Bool.false_ne_true]
        omega
      · rw [if_neg hb]
        exact honce b
    · rw [news_queue]
      exact htold b
  · refine ⟨fun b => ?_, htold⟩
    obtain ⟨hwakes, _, hover, hleft⟩ := hcounted b
    rw [hwakes, hover, hleft]
    by_cases hb : parent = b
    · subst hb
      rw [halive, if_pos rfl, if_neg Bool.false_ne_true]
      omega
    · rw [if_neg hb]
      exact honce b

/-! ### Steps -/

/-- Time moves on when nothing is ready.  The timers that run out are no turns yet, and no news. -/
theorem paced_moveTime (h : w.Paced) (hready : w.ready = []) (timer : Timer) :
    (w.moveTime timer).Paced := by
  have hfires : ∀ (timers : List Timer) b,
      (timers.map fun timer => Wake.fire timer.task timer.number).countP (Wake.isTurnOf b) = 0 ∧
      (timers.map fun timer => Wake.fire timer.task timer.number).countP (Wake.isNewsFor b) = 0 :=
    fun timers b =>
      ⟨by rw [List.countP_map]; exact List.countP_eq_zero.mpr fun _ _ => Bool.false_ne_true,
        by rw [List.countP_map]; exact List.countP_eq_zero.mpr fun _ _ => Bool.false_ne_true⟩
  refine ⟨fun b => ?_, fun b => ?_⟩
  · have honce := h.once b
    rw [wakes, hready, List.countP_nil] at honce
    rw [wakes]
    unfold moveTime
    simp only [(hfires _ b).1]
    exact honce
  · have hnews := h.news b
    rw [news, hready, List.countP_nil] at hnews
    rw [news]
    unfold moveTime
    simp only [(hfires _ b).2]
    exact hnews

/-- **Every step leaves a world paced.** -/
theorem paced_step {next : World} (h : w.Paced) (horderly : w.Orderly)
    (hstep : w.step = some next) : next.Paced := by
  unfold step at hstep
  cases hready : w.ready with
  | cons wake rest =>
    simp only [hready, Option.some.injEq] at hstep
    subst hstep
    have hpopped : ∀ b, ({ w with ready := rest } : World).wakes b ≤ w.wakes b := fun b => by
      rw [wakes_pop hready b]
      exact Nat.le_add_right _ _
    have honce : ({ w with ready := rest } : World).WokenOnce := fun b =>
      Nat.le_trans (Nat.add_le_add_right (hpopped b) _) (h.once b)
    cases wake with
    | resume id => exact paced_resume h horderly hready
    | fire id number =>
      refine (samePace_fire _ id number).paced ⟨honce, fun b => ?_⟩
      have hnews := h.news b
      rw [news_pop hready] at hnews
      exact Nat.le_of_add_right_le hnews
    | childOver parent =>
      refine paced_childOver honce fun b => ?_
      have hnews := h.news b
      rw [news_pop hready] at hnews
      simp only [Wake.isNewsFor, beq_iff_eq] at hnews
      exact hnews
  | nil =>
    simp only [hready] at hstep
    obtain ⟨timer, _, rfl⟩ := Option.map_eq_some_iff.mp hstep
    exact paced_moveTime h hready timer

/-- Steps leave a world paced, however many they are. -/
theorem paced_run (h : w.Paced) (horderly : w.Orderly) (fuel : Nat) : (w.run fuel).Paced := by
  induction fuel generalizing w with
  | zero => exact h
  | succ fuel ih =>
    unfold run
    split
    · exact h
    · split
      · rename_i next hstep
        exact ih (paced_step h horderly hstep) (orderly_step horderly hstep)
      · exact h

/-- Before the first command of a script its turn is to come, and nothing else. -/
theorem paced_fresh (monitor : Monitor Number) (registry : Registry)
    (receptions : List Reception) (wallStart : Moment) (script : List Command) :
    (fresh monitor registry receptions wallStart script).Paced := by
  have hnobody : ∀ b, (fresh monitor registry receptions wallStart script).left b = 0 := by
    intro b
    cases b <;> rfl
  refine ⟨fun b => ?_, fun b => Nat.zero_le _⟩
  rw [hnobody]
  cases b with
  | zero => exact Nat.le_refl 1
  | succ b =>
    have hnobody : (fresh monitor registry receptions wallStart script).wakes (b + 1) = 0 := rfl
    rw [hnobody]
    exact Nat.zero_le _

/-- **The loop has ended when the stop that waits for it has its turn.** -/
theorem ended_of_turn (h : w.Paced) (horderly : w.Orderly) (hjoins : w.Joining id loop)
    {rest : List Wake} (hready : w.ready = .resume id :: rest) :
    ∃ task, w.tasks[loop]? = some task ∧ task.role.kind = .loop ∧
      task.activity.phase = .ended := by
  obtain ⟨_, task, htask, hkind, ⟨hended, _⟩ | ⟨_, _, hwaits, _⟩⟩ :=
    expects_of_joining horderly hjoins
  · exact ⟨task, htask, hkind, hended⟩
  · -- It would be woken a second time, by the end of the loop.
    have hmentioned : 0 < w.mentions Task.waiters id := by
      refine List.count_pos_iff.mpr (List.mem_flatMap.mpr ⟨task, ?_, hwaits⟩)
      obtain ⟨hloop, rfl⟩ := Array.getElem?_eq_some_iff.mp htask
      exact Array.mem_toList_iff.mpr (Array.getElem_mem hloop)
    have hturn : 0 < w.ready.countP (Wake.isTurnOf id) :=
      List.countP_pos_iff.mpr ⟨.resume id, hready ▸ List.mem_cons_self, beq_self_eq_true id⟩
    have honce := h.once id
    rw [wakes] at honce
    split at honce <;> omega

end World

end StreamWatch.Simulation
