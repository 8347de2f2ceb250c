import Mathlib.Data.List.Perm.Subperm
import StreamWatch.Proofs.Simulation.Pacing
import StreamWatch.Proofs.Simulation.Quiet

namespace StreamWatch.Simulation

/-!
# Loops that are alive

A start begins a loop, and remembers it as the one that was started last.  A stop ends the loop that
was started last, and no other.

* `World.begins` — the commands that begin in the next step, each with the world it begins in;
* `World.StartsAlone` — does every start begin while no loop is alive?
* `World.Tended` — is the loop that is alive the one that was started last, and is it to go on, or
  does a stop wait for it?
* `World.tended_step`, `World.tended_run` — so it is where all starts begin alone;
* `World.two_le_of_begins` — and where one does not, two loops are alive after it.
-/

namespace World

variable {w w' w'' : World} {id other loop : Nat} {task task' : Task} {parts : List Command}
  {acting : Option Nat}

/-! ### Commands that begin -/

/-- The commands of a script that begin in one turn, each with the world it begins in. -/
def scriptBegins (w : World) (id : Nat) : List Command → List (World × Command)
  | [] => []
  | command :: rest =>
    (w, command) ::
      match w.begin id command with
      | (w, some result) => (w.report result).scriptBegins id rest
      | (_, none) => []

/-- The commands that begin in the turn of a task. -/
def turnBegins (w : World) (id : Nat) (task : Task) : List (World × Command) :=
  match task.role, task.activity with
  | .script rest, .fresh => w.scriptBegins id rest
  | .script rest, activity =>
    match w.resumeCommand id activity with
    | (w, some result) => (w.report result).scriptBegins id rest
    | (_, none) => []
  | .branch _ _ command, .fresh => [(w, command)]
  | _, _ => []

/-- The commands that begin in the next step. -/
def begins (w : World) : List (World × Command) :=
  match w.ready with
  | .resume id :: rest =>
    match w.tasks[id]? with
    | some task => if w.isOver 0 then [] else (w.taking id rest).turnBegins id task
    | none => []
  | _ => []

/-- Does every start begin while no loop is alive? -/
def StartsAlone (w : World) : Prop :=
  ∀ n, ∀ begun ∈ (w.run n).begins, begun.2 = .start → begun.1.loopsAlive = []

/-! ### Loops that are tended -/

/-- Is the loop that is alive the one that was started last?  And is it to go on, or does a stop
    wait for it, other than that of the acting task? -/
structure Tended (acting : Option Nat) (w : World) : Prop where
  last : ∀ loop ∈ w.loopsAlive, w.loop = some loop
  tended : ∀ loop ∈ w.loopsAlive,
    w.running = true ∨ ∃ stop, acting ≠ some stop ∧ w.Joining stop loop

/-- Between turns it may be any stop. -/
theorem Tended.atRest (h : w.Tended acting) : w.Tended none :=
  ⟨h.last, fun loop hloop => (h.tended loop hloop).imp_right fun ⟨stop, _, hjoins⟩ =>
    ⟨stop, nofun, hjoins⟩⟩

/-- Where no loop is alive all are tended. -/
theorem tended_of_none (h : w.loopsAlive = []) : w.Tended acting := by
  refine ⟨?_, ?_⟩ <;> rw [h] <;> exact fun _ hloop => absurd hloop List.not_mem_nil

/-- Only the acting task is acting. -/
theorem alive_of_acting (h : w.isOver id = false) (other : Nat) (hother : some id = some other) :
    w.isOver other = false := by
  obtain rfl := Option.some.inj hother
  exact h

/-- The loops that are alive after a change that starts none. -/
theorem Quiet.loopsAlive (h : Quiet acting parts w w')
    (hacting : ∀ id, acting = some id → w.isOver id = false) :
    w'.loopsAlive ⊆ w.loopsAlive := by
  intro loop hloop
  obtain ⟨task', htask', hkind, hphase⟩ := mem_loopsAlive.mp hloop
  cases htask : w.tasks[loop]? with
  | none =>
    obtain ⟨⟨parent, hbegun⟩, _⟩ := h.begun htask htask'
    cases hrole : task'.role with
    | loop => rw [hrole] at hbegun; cases hbegun
    | script | branch | probe => rw [hrole] at hkind; cases hkind
  | some task =>
    obtain ⟨found, hfound, hrole, hlike⟩ := h.kept htask
    obtain rfl := Option.some.inj (hfound.symm.trans htask')
    refine mem_loopsAlive.mpr ⟨task, htask, hrole ▸ hkind, fun hended => ?_⟩
    by_cases hid : acting = some loop
    · exact going_of_alive (hacting loop hid) htask hended
    · exact hphase ((hlike hid).phase.trans hended)

/-- A stop that is not acting still waits after such a change. -/
theorem Quiet.joining (h : Quiet acting parts w w') {stop : Nat} (hstop : acting ≠ some stop) :
    w'.Joining stop loop ↔ w.Joining stop loop := by
  constructor
  · rintro ⟨task', htask', hphase⟩
    cases htask : w.tasks[stop]? with
    | none =>
      obtain ⟨_, hgoing⟩ := h.begun htask htask'
      rw [hgoing hstop] at hphase
      cases hphase
    | some task =>
      obtain ⟨found, hfound, _, hlike⟩ := h.kept htask
      obtain rfl := Option.some.inj (hfound.symm.trans htask')
      exact ⟨task, htask, (hlike hstop).phase.symm.trans hphase⟩
  · rintro ⟨task, htask, hphase⟩
    obtain ⟨task', htask', _, hlike⟩ := h.kept htask
    exact ⟨task', htask', (hlike hstop).phase.trans hphase⟩

/-- Loops are tended after a change that neither starts nor stops one. -/
theorem Tended.quiet (h : w.Tended acting) (hquiet : Quiet acting parts w w')
    (hacting : ∀ id, acting = some id → w.isOver id = false) : w'.Tended acting := by
  have halive := hquiet.loopsAlive hacting
  refine ⟨fun loop hloop => hquiet.loop.trans (h.last loop (halive hloop)), fun loop hloop => ?_⟩
  rw [hquiet.running]
  exact (h.tended loop (halive hloop)).imp_right fun ⟨stop, hstop, hjoins⟩ =>
    ⟨stop, hstop, (hquiet.joining hstop).mpr hjoins⟩

/-- The loops that are alive are tended by others than the task whose turn it is, since what that
    has waited for has ended. -/
theorem Tended.taking (h : w.Tended none) (hpaced : w.Paced) (horderly : w.Orderly)
    {rest : List Wake} (hready : w.ready = .resume id :: rest) :
    (w.taking id rest).Tended (some id) := by
  have hquiet : Quiet none [] w (w.taking id rest) := by
    have hpopped : Quiet none [] w { w with ready := rest } := .of_same rfl rfl rfl rfl
    exact hpopped.trans (.mark (fun _ => rfl) fun _ => rfl)
  have halive := hquiet.loopsAlive nofun
  refine ⟨fun loop hloop => h.last loop (halive hloop), fun loop hloop => ?_⟩
  obtain hrunning | ⟨stop, _, hjoins⟩ := h.tended loop (halive hloop)
  · exact .inl hrunning
  · refine .inr ⟨stop, fun hstop => ?_, (hquiet.joining nofun).mpr hjoins⟩
    -- A stop has its turn when its loop has ended, but this one is alive.
    obtain rfl := Option.some.inj hstop
    obtain ⟨task, htask, _, hended⟩ := ended_of_turn hpaced horderly hjoins hready
    obtain ⟨found, hfound, _, hgoing⟩ := mem_loopsAlive.mp (halive hloop)
    obtain rfl := Option.some.inj (htask.symm.trans hfound)
    exact hgoing hended

/-! ### Commands -/

/-- Are the loops tended after a command, by the time that it has a result or waits? -/
def Tends (id : Nat) : Progress → Prop
  | (w, some _) => w.Tended (some id)
  | (w, none) => w.Tended none

/-- A command of which nothing shows but that its task waits. -/
theorem Goes.tends {progress : Progress} (hgoes : Goes id parts w progress)
    (h : w.Tended (some id)) (halive : w.isOver id = false) : Tends id progress := by
  have htended := h.quiet hgoes.quiet (alive_of_acting halive)
  obtain ⟨w', _ | result⟩ := progress
  · exact htended.atRest
  · exact htended

/-- The loops that are alive after a start. -/
theorem loopsAlive_startLoop (w : World) :
    w.startLoop.loopsAlive = w.loopsAlive ++ [w.tasks.size] := by
  have hsize : w.startLoop.tasks.size = w.tasks.size + 1 := Array.size_push _
  have htasks : ∀ b : Nat, w.startLoop.tasks[b]? =
      if b = w.tasks.size then some ⟨.loop, .fresh, none, false, [], none⟩ else w.tasks[b]? :=
    fun b => tasks_spawn _ .loop b
  have hothers : (List.range w.tasks.size).filter
      (fun id => (w.startLoop.tasks[id]?).any Task.isLiveLoop) = w.loopsAlive := by
    refine List.filter_congr fun b hb => ?_
    rw [htasks, if_neg (Nat.ne_of_lt (List.mem_range.mp hb))]
  have hnew : (w.startLoop.tasks[w.tasks.size]?).any Task.isLiveLoop = true := by
    rw [htasks, if_pos rfl]
    rfl
  rw [loopsAlive, hsize, List.range_succ, List.filter_append, hothers, List.filter_singleton, hnew]
  rfl

/-- A loop is started while no other one is alive. -/
theorem tended_startLoop (h : w.loopsAlive = []) : w.startLoop.Tended acting := by
  have halive := loopsAlive_startLoop w
  rw [h, List.nil_append] at halive
  refine ⟨fun loop hloop => ?_, fun _ _ => .inl rfl⟩
  rw [halive, List.mem_singleton] at hloop
  exact congrArg some hloop.symm

/-- A stop that waits for the one loop that is alive tends it. -/
theorem tended_ask (hlast : w.loop = some loop) (honly : ∀ other ∈ w.loopsAlive, other = loop)
    (halive : w.isOver id = false) :
    (((w.cancel loop).modify loop fun task =>
      { task with waiters := task.waiters ++ [id] }).setActivity id
      (.joining loop)).Tended none := by
  have hasked : Quiet (some id) [] w ((w.cancel loop).modify loop fun task =>
      { task with waiters := task.waiters ++ [id] }) :=
    (Quiet.cancel w loop).trans (.mark (fun _ => rfl) fun _ => rfl)
  have hquiet := hasked.trans (.setActivity _ id (.joining loop))
  have hfewer := hquiet.loopsAlive (alive_of_acting halive)
  obtain ⟨task, htask, _⟩ := exists_of_not_isOver halive
  obtain ⟨own, hown, _⟩ := hasked.kept htask
  refine ⟨fun other hother => ?_, fun other hother => .inr ⟨id, nofun, ?_⟩⟩
  · rw [honly other (hfewer hother)]
    exact hquiet.loop.trans hlast
  · rw [honly other (hfewer hother)]
    exact ⟨_, tasks_modify_self hown _, rfl⟩

/-- The loop that was started last is stopped, and no other one is alive. -/
theorem tends_stopLoop (h : w.Tended (some id)) (halive : w.isOver id = false) :
    Tends id (w.stopLoop id) := by
  have hgoes : ∀ {progress}, w.loopsAlive = [] → Goes id [] { w with running := false } progress →
      Tends id progress := fun hnone hgoes => hgoes.tends (tended_of_none hnone) halive
  unfold stopLoop
  simp only
  split
  · -- No loop was started before.
    rename_i hlast
    refine hgoes (List.eq_nil_iff_forall_not_mem.mpr fun loop hloop => ?_) (flushes_flush _ id).goes
    exact absurd ((h.last loop hloop).symm.trans hlast) nofun
  · rename_i last hlast
    have honly : ∀ loop ∈ w.loopsAlive, loop = last := fun loop hloop =>
      Option.some.inj ((h.last loop hloop).symm.trans hlast)
    split
    · rename_i hover
      refine hgoes (List.eq_nil_iff_forall_not_mem.mpr fun loop hloop => ?_) (goes_afterLoop _ id _)
      obtain ⟨task, htask, _, hgoing⟩ := mem_loopsAlive.mp hloop
      rw [honly loop hloop] at htask
      exact hgoing ((isOver_iff htask).mp hover)
    · exact tended_ask (w := { w with running := false }) hlast honly halive

/-- **Loops are tended after every command**, if a start begins while no loop is alive. -/
theorem tends_begin (h : w.Tended (some id)) (halive : w.isOver id = false) {command : Command}
    (hstart : command = .start → w.loopsAlive = []) : Tends id (w.begin id command) := by
  by_cases hstarts : command = .start
  · subst hstarts
    exact tended_startLoop (hstart rfl)
  by_cases hstops : command = .stop
  · subst hstops
    exact tends_stopLoop h halive
  · exact (goes_begin w id hstarts hstops).tends h halive

/-! ### Turns -/

/-- A report is none of the tasks. -/
theorem Tended.report (h : w.Tended acting) (result : Result) : (w.report result).Tended acting :=
  ⟨h.last, h.tended⟩

/-- A task that carries out a script is no loop. -/
theorem Tended.setScript (h : w.Tended acting) (id : Nat) (rest : List Command) :
    (w.modify id fun task => { task with role := .script rest }).Tended acting := by
  have halive : ∀ loop ∈ (w.modify id fun task =>
      { task with role := .script rest }).loopsAlive, loop ∈ w.loopsAlive := by
    intro loop hloop
    obtain ⟨task, htask, hkind, hphase⟩ := mem_loopsAlive.mp hloop
    by_cases hid : id = loop
    · subst hid
      obtain ⟨before, _, rfl⟩ := exists_of_modify htask
      cases hkind
    · exact mem_loopsAlive.mpr ⟨task, (tasks_modify_of_ne hid _).symm.trans htask, hkind, hphase⟩
  refine ⟨fun loop hloop => h.last loop (halive loop hloop), fun loop hloop => ?_⟩
  obtain hrunning | ⟨stop, hstop, task, htask, hphase⟩ := h.tended loop (halive loop hloop)
  · exact .inl hrunning
  · refine .inr ⟨stop, hstop, ?_⟩
    by_cases hid : id = stop
    · subst hid
      exact ⟨_, tasks_modify_self htask _, hphase⟩
    · exact ⟨task, (tasks_modify_of_ne hid _).trans htask, hphase⟩

/-- Loops are tended after a script, if its starts begin while no loop is alive. -/
theorem tended_runScript (h : w.Tended (some id)) (hacting : w.Acting id 0)
    (hturn : w.ScriptTurn id) {commands : List Command}
    (hstarts : ∀ begun ∈ w.scriptBegins id commands, begun.2 = .start → begun.1.loopsAlive = []) :
    (w.runScript id commands).Tended none := by
  induction commands generalizing w with
  | nil =>
    have hfinish : Quiet (some id) [] w (w.finish id none) := .finish w id none
    exact (h.quiet hfinish (alive_of_acting hacting.alive)).atRest
  | cons command rest ih =>
    have hcomes := comes_begin hacting hturn command
    have hleaves := leaves_begin hturn command
    unfold scriptBegins at hstarts
    have htends := tends_begin h hacting.alive (hstarts _ List.mem_cons_self)
    unfold runScript
    split
    · rename_i w' result hprogress
      rw [hprogress] at hcomes hleaves htends
      simp only [hprogress] at hstarts
      exact ih (Tended.report htends result) (hcomes.1.report result) (hleaves.scriptTurn hturn)
        fun begun hbegun => hstarts begun (List.mem_cons_of_mem _ hbegun)
    · rename_i w' hprogress
      rw [hprogress] at htends
      exact Tended.setScript htends id rest

/-- What begins in the turn of a script. -/
theorem turnBegins_script (w : World) (id : Nat) {commands : List Command}
    (hrole : task.role = .script commands) :
    w.turnBegins id task =
      match task.activity with
      | .fresh => w.scriptBegins id commands
      | activity =>
        match w.resumeCommand id activity with
        | (w, some result) => (w.report result).scriptBegins id commands
        | (_, none) => [] := by
  unfold turnBegins
  rw [hrole]
  cases task.activity <;> rfl

/-- The turn of a script. -/
theorem tended_scriptTurn (h : w.Tended (some id)) (hacting : w.Acting id 0)
    (hturn : w.ScriptTurn id) (htask : w.tasks[id]? = some task) {commands : List Command}
    (hstarts : ∀ begun ∈ (match task.activity with
      | .fresh => w.scriptBegins id commands
      | activity =>
        match w.resumeCommand id activity with
        | (w, some result) => (w.report result).scriptBegins id commands
        | (_, none) => []), begun.2 = .start → begun.1.loopsAlive = []) :
    (match task.activity with
      | .fresh => w.runScript id commands
      | activity =>
        match w.resumeCommand id activity with
        | (w, some result) => (w.report result).runScript id commands
        | (w, none) => w).Tended none := by
  have hgoes : task.activity ≠ .fresh → Goes id [] w (w.resumeCommand id task.activity) :=
    goes_resumeCommand w id (going_of_alive hacting.alive htask)
  have hcomes := comes_resumeCommand hacting htask
  have hleaves := leaves_resumeCommand hturn htask
  split
  · rename_i hactivity
    rw [hactivity] at hstarts
    exact tended_runScript h hacting hturn hstarts
  · rename_i activity hfresh
    have htends := (hgoes hfresh).tends h hacting.alive
    split
    · rename_i w' result hprogress
      rw [hprogress] at hcomes hleaves htends
      refine tended_runScript (Tended.report htends result) ((hcomes hfresh).1.report result)
        (hleaves.scriptTurn hturn) ?_
      simp only [hprogress] at hstarts
      exact hstarts
    · rename_i w' hprogress
      rw [hprogress] at htends
      exact htends

/-- A branch ends with its command. -/
theorem tended_closeBranch {progress : Progress} (htends : Tends id progress)
    (hcomes : Comes id w progress) (parent slot : Nat) :
    (closeBranch id parent slot progress).Tended none := by
  obtain ⟨w', _ | result⟩ := progress
  · exact htends
  · have hclosed : Quiet (some id) [] w' (closeBranch id parent slot (w', some result)) :=
      quiet_closeBranch (.refl w') parent slot
    exact (Tended.quiet htends hclosed (alive_of_acting hcomes.1.alive)).atRest

/-- The turn of a branch. -/
theorem tended_branchTurn (h : w.Tended (some id)) (hacting : w.Acting id 0)
    (hturn : w.ScriptTurn id) (htask : w.tasks[id]? = some task) {parent slot : Nat}
    {command : Command} (hstarts : task.activity = .fresh → command = .start → w.loopsAlive = []) :
    (match task.activity with
      | .fresh => closeBranch id parent slot (w.begin id command)
      | activity => closeBranch id parent slot (w.resumeCommand id activity)).Tended none := by
  have hended := going_of_alive hacting.alive htask
  have hcomes := comes_resumeCommand hacting htask
  split
  · rename_i hfresh
    exact tended_closeBranch (tends_begin h hacting.alive (hstarts hfresh))
      (comes_begin hacting hturn command) parent slot
  · rename_i hfresh
    exact tended_closeBranch ((goes_resumeCommand w id hended hfresh).tends h hacting.alive)
      (hcomes hfresh) parent slot

/-- The turn of a task, where all starts that begin in it begin while no loop is alive. -/
theorem tended_resume (h : w.Tended none) (hpaced : w.Paced) (horderly : w.Orderly)
    {rest : List Wake} (hready : w.ready = .resume id :: rest) (htask : w.tasks[id]? = some task)
    (hstarts : ∀ begun ∈ (w.taking id rest).turnBegins id task,
      begun.2 = .start → begun.1.loopsAlive = []) :
    (({ w with ready := rest } : World).resume id).Tended none := by
  have hacting := hpaced.acting hready
  have htended := h.taking hpaced horderly hready
  have hown : (w.taking id rest).tasks[id]? = some { task with cancelled := false } :=
    tasks_modify_self htask _
  have hscript := scriptTurn_taking horderly hready htask
  have hquiet : ∀ {next}, Quiet (some id) [] (w.taking id rest) next → next.Tended none :=
    fun hquiet => (htended.quiet hquiet (alive_of_acting hacting.alive)).atRest
  unfold resume
  simp only [htask]
  cases hrole : task.role with
  | script commands =>
    rw [hrole] at hscript
    rw [turnBegins_script _ _ hrole] at hstarts
    exact tended_scriptTurn htended hacting (hscript rfl) hown hstarts
  | branch parent slot command =>
    rw [hrole] at hscript
    refine tended_branchTurn htended hacting (hscript rfl) hown fun hfresh => ?_
    refine hstarts (w.taking id rest, command) ?_
    have hactivity : task.activity = .fresh := hfresh
    unfold turnBegins
    rw [hrole, hactivity]
    exact List.mem_singleton_self _
  | loop =>
    have hphase := hpaced.loopGoing horderly hready htask hrole
    exact hquiet (goes_loopTurn _ id hphase task.cancelled).quiet
  | probe parent probe => exact hquiet (quiet_resumeProbe _ id parent probe task.activity)

/-! ### Steps -/

/-- **Loops are tended after every step**, if all starts that begin in it begin while no loop is
    alive. -/
theorem tended_step {next : World} (h : w.Tended none) (hpaced : w.Paced) (horderly : w.Orderly)
    (hgoing : w.isOver 0 ≠ true)
    (hstarts : ∀ begun ∈ w.begins, begun.2 = .start → begun.1.loopsAlive = [])
    (hstep : w.step = some next) : next.Tended none := by
  have hquiet : ∀ {next}, Quiet none [] w next → next.Tended none :=
    fun hquiet => h.quiet hquiet nofun
  unfold step at hstep
  unfold begins at hstarts
  cases hready : w.ready with
  | cons wake rest =>
    simp only [hready, Option.some.injEq] at hstep
    subst hstep
    have hpopped : Quiet none [] w { w with ready := rest } := .of_same rfl rfl rfl rfl
    cases wake with
    | resume id =>
      obtain ⟨own, hown, _⟩ := exists_of_not_isOver (hpaced.acting hready).alive
      obtain ⟨task, htask, _⟩ := exists_of_modify hown
      have hfound : w.tasks[id]? = some task := htask
      simp only [hready, hfound, if_neg hgoing] at hstarts
      exact tended_resume h hpaced horderly hready hfound hstarts
    | fire id number => exact hquiet (hpopped.trans (quiet_fire _ id number))
    | childOver parent => exact hquiet (hpopped.trans (quiet_childOver _ parent))
  | nil =>
    simp only [hready] at hstep
    obtain ⟨timer, _, rfl⟩ := Option.map_eq_some_iff.mp hstep
    exact hquiet (quiet_moveTime w timer)

/-- One more step. -/
theorem run_succ (w : World) (n : Nat) : w.run (n + 1) = (w.run n).run 1 := by
  have hunfold : ∀ (w : World) n, w.run (n + 1) =
      if w.isOver 0 then w else (w.step.map fun next => next.run n).getD w := by
    intro w n
    rw [run]
    cases w.step <;> rfl
  -- A run unfolds at its first step, so that the induction is on the worlds behind it.
  induction n generalizing w with
  | zero => rfl
  | succ n ih =>
    rw [hunfold w (n + 1), hunfold w n]
    split
    · rename_i hover
      rw [hunfold, if_pos hover]
    · rename_i hgoing
      cases hstep : w.step with
      | some next => exact ih next
      | none =>
        show w = w.run 1
        rw [hunfold, if_neg hgoing, hstep]
        rfl

/-- There is a step more only while the script goes on and something is left to happen. -/
theorem run_one (w : World) : w.run 1 = w ∨ w.isOver 0 ≠ true ∧ w.step = some (w.run 1) := by
  unfold run
  split
  · exact .inl rfl
  · rename_i hgoing
    split
    · rename_i next hstep
      exact .inr ⟨hgoing, hstep⟩
    · exact .inl rfl

/-- Loops are tended in every world that a script comes to, if all its starts begin alone. -/
theorem tended_run (h : w.Tended none) (hpaced : w.Paced) (horderly : w.Orderly)
    (hstarts : w.StartsAlone) (n : Nat) : (w.run n).Tended none := by
  induction n with
  | zero => exact h
  | succ n ih =>
    rw [run_succ]
    obtain hsame | ⟨hgoing, hstep⟩ := (w.run n).run_one
    · rw [hsame]
      exact ih
    · exact tended_step ih (paced_run hpaced horderly n) (orderly_run horderly n) hgoing (hstarts n)
        hstep

/-! ### How many loops are alive -/

/-- No loop is listed twice. -/
theorem nodup_loopsAlive (w : World) : w.loopsAlive.Nodup := List.nodup_range.filter _

/-- **One loop at most is alive** where loops are tended. -/
theorem Tended.length_le_one (h : w.Tended acting) : w.loopsAlive.length ≤ 1 := by
  have hnodup := nodup_loopsAlive w
  have hlast := h.last
  cases hlive : w.loopsAlive with
  | nil => exact Nat.zero_le 1
  | cons first rest =>
    cases rest with
    | nil => exact Nat.le_refl 1
    | cons second rest =>
      rw [hlive] at hnodup hlast
      -- Both would be the one that was started last.
      have hfirst := hlast first List.mem_cons_self
      have hsecond := hlast second (List.mem_cons_of_mem _ List.mem_cons_self)
      obtain rfl := Option.some.inj (hfirst.symm.trans hsecond)
      exact absurd List.mem_cons_self (List.nodup_cons.mp hnodup).1

/-- In a turn that is none of a loop, every loop stays alive that is. -/
theorem Keeps.loopsAlive (h : Keeps (some id) w w') (hturn : w.ScriptTurn id) :
    w.loopsAlive.length ≤ w'.loopsAlive.length := by
  refine ((nodup_loopsAlive w).subperm fun loop hloop => ?_).length_le
  obtain ⟨task, htask, hkind, hphase⟩ := mem_loopsAlive.mp hloop
  have hid : some id ≠ some loop := by
    -- The task of the turn carries out commands, and loops do not.
    rintro ⟨⟩
    rw [hturn.kind htask] at hkind
    cases hkind
  obtain ⟨task', htask', halike⟩ := h.others hid htask
  exact mem_loopsAlive.mpr ⟨task', htask', halike.kind.trans hkind,
    fun hended => hphase (halike.phase.symm.trans hended)⟩

/-- A loop that is started beside another one. -/
theorem two_le_startLoop (h : w.loopsAlive ≠ []) : 2 ≤ w.startLoop.loopsAlive.length := by
  rw [loopsAlive_startLoop, List.length_append, List.length_singleton]
  exact Nat.succ_le_succ (List.length_pos_iff.mpr h)

/-- A script in which a start begins while a loop is alive leaves two of them. -/
theorem two_le_runScript (hturn : w.ScriptTurn id) {commands : List Command}
    {begun : World × Command} (hbegun : begun ∈ w.scriptBegins id commands)
    (hstart : begun.2 = .start) (hlive : begun.1.loopsAlive ≠ []) :
    2 ≤ (w.runScript id commands).loopsAlive.length := by
  induction commands generalizing w with
  | nil => exact absurd hbegun List.not_mem_nil
  | cons command rest ih =>
    unfold scriptBegins at hbegun
    have hleaves := leaves_begin hturn command
    obtain rfl | hlater := List.mem_cons.mp hbegun
    · simp only at hstart hlive
      subst hstart
      have hreported : Spares (some id) w (w.startLoop.report .nothing) :=
        (spares_startLoop w).trans (.same rfl rfl rfl)
      have hstarted := hturn.keeps hreported.toKeeps
      -- The commands behind the start end no loop.
      exact Nat.le_trans (two_le_startLoop hlive)
        ((yields_runScript hstarted rest).1.toKeeps.loopsAlive hstarted)
    · unfold runScript
      split
      · rename_i w' result hprogress
        rw [hprogress] at hleaves
        simp only [hprogress] at hlater
        exact ih (hleaves.scriptTurn hturn) hlater
      · rename_i w' hprogress
        simp only [hprogress] at hlater
        exact absurd hlater List.not_mem_nil

/-- The turn of a script in which a start begins while a loop is alive leaves two of them. -/
theorem two_le_scriptTurn (hturn : w.ScriptTurn id) (htask : w.tasks[id]? = some task)
    {commands : List Command} {begun : World × Command}
    (hbegun : begun ∈ (match task.activity with
      | .fresh => w.scriptBegins id commands
      | activity =>
        match w.resumeCommand id activity with
        | (w, some result) => (w.report result).scriptBegins id commands
        | (_, none) => []))
    (hstart : begun.2 = .start) (hlive : begun.1.loopsAlive ≠ []) :
    2 ≤ (match task.activity with
      | .fresh => w.runScript id commands
      | activity =>
        match w.resumeCommand id activity with
        | (w, some result) => (w.report result).runScript id commands
        | (w, none) => w).loopsAlive.length := by
  have hleaves := leaves_resumeCommand hturn htask
  split
  · rename_i hactivity
    rw [hactivity] at hbegun
    exact two_le_runScript hturn hbegun hstart hlive
  · split
    · rename_i w' result hprogress
      rw [hprogress] at hleaves
      simp only [hprogress] at hbegun
      exact two_le_runScript (hleaves.scriptTurn hturn) hbegun hstart hlive
    · rename_i hprogress
      simp only [hprogress] at hbegun
      exact absurd hbegun List.not_mem_nil

/-- A turn in which a start begins while a loop is alive leaves two of them. -/
theorem two_le_resume (horderly : w.Orderly) {rest : List Wake}
    (hready : w.ready = .resume id :: rest) (htask : w.tasks[id]? = some task)
    {begun : World × Command} (hbegun : begun ∈ (w.taking id rest).turnBegins id task)
    (hstart : begun.2 = .start) (hlive : begun.1.loopsAlive ≠ []) :
    2 ≤ (({ w with ready := rest } : World).resume id).loopsAlive.length := by
  have hown : (w.taking id rest).tasks[id]? = some { task with cancelled := false } :=
    tasks_modify_self htask _
  have hscript := scriptTurn_taking horderly hready htask
  unfold resume
  simp only [htask]
  cases hrole : task.role with
  | script commands =>
    rw [hrole] at hscript
    rw [turnBegins_script _ _ hrole] at hbegun
    exact two_le_scriptTurn (hscript rfl) hown hbegun hstart hlive
  | branch parent slot command =>
    rw [hrole] at hscript
    unfold turnBegins at hbegun
    rw [hrole] at hbegun
    cases hactivity : task.activity with
    | fresh =>
      rw [hactivity] at hbegun
      obtain rfl := List.mem_singleton.mp hbegun
      simp only at hstart hlive
      subst hstart
      have hstarted := (hscript rfl).keeps (spares_startLoop _).toKeeps
      have hdone : Leaves id (w.taking id rest).startLoop
          ((w.taking id rest).startLoop, some .nothing) := Spares.refl _
      exact Nat.le_trans (two_le_startLoop hlive)
        ((yields_closeBranch hdone parent slot).1.toKeeps.loopsAlive hstarted)
    | pausing | evaluating | handing | joining | gathering | _ =>
      rw [hactivity] at hbegun
      exact absurd hbegun List.not_mem_nil
  | loop | probe =>
    unfold turnBegins at hbegun
    rw [hrole] at hbegun
    exact absurd hbegun List.not_mem_nil

/-- **Two loops are alive** after a step in which a start begins while a loop is alive. -/
theorem two_le_of_begins (horderly : w.Orderly) {begun : World × Command}
    (hbegun : begun ∈ w.begins) (hstart : begun.2 = .start) (hlive : begun.1.loopsAlive ≠ []) :
    2 ≤ (w.run 1).loopsAlive.length := by
  unfold begins at hbegun
  cases hready : w.ready with
  | nil =>
    rw [hready] at hbegun
    exact absurd hbegun List.not_mem_nil
  | cons wake rest =>
    cases wake with
    | fire | childOver =>
      rw [hready] at hbegun
      exact absurd hbegun List.not_mem_nil
    | resume id =>
      simp only [hready] at hbegun
      split at hbegun
      · rename_i task htask
        split at hbegun
        · exact absurd hbegun List.not_mem_nil
        · rename_i hgoing
          have hrun : w.run 1 = ({ w with ready := rest } : World).resume id := by
            unfold run
            rw [if_neg hgoing]
            simp only [step, hready]
            rfl
          rw [hrun]
          exact two_le_resume horderly hready htask hbegun hstart hlive
      · exact absurd hbegun List.not_mem_nil

end World

end StreamWatch.Simulation
