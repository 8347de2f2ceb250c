import StreamWatch.Proofs.Simulation.Loops

namespace StreamWatch.Simulation

/-!
# Starts and stops one after the other

In a script that starts and stops loops one after the other, the reports say how far it is, and so
whether a loop was started last or stopped since.

* `Command.Steers`, `Sequential` — does a command start or stop a loop? Is that only done by
  commands that are not carried out side by side with others?
* `startedLast` — is the last start or stop of some commands a start?
* `World.Follows`, `World.Placed` — how far a script is, in the middle of its turn and between
  turns;
* `World.placed_step`, `World.startsAlone_of_stopsBetween` — the script follows its commands, and
  where no two starts follow each other without a stop, every start begins while no loop is alive.
-/

/-- Does a command start or stop a loop, or begin one that does? -/
inductive Command.Steers : Command → Prop
  | start : Steers .start
  | stop : Steers .stop
  | within {commands : List Command} {command : Command} (hmem : command ∈ commands)
    (hsteers : Steers command) : Steers (.together commands)

/-- Are loops started and stopped one after the other, by commands of the script itself? -/
def Sequential (script : List Command) : Prop :=
  ∀ command ∈ script, command.Steers → command = .start ∨ command = .stop

/-- Is a loop started after a command, if that is so before it? -/
def Command.leaves (started : Bool) : Command → Bool
  | .start => true
  | .stop => false
  | _ => started

/-- Is the last start or stop of some commands a start? -/
def startedLast (commands : List Command) : Bool := commands.foldl Command.leaves false

/-- Is there a stop between any two starts? -/
def StopsBetween (script : List Command) : Prop :=
  ∀ n, script[n]? = some .start → startedLast (script.take n) = false

/-- One command more. -/
theorem startedLast_succ {script rest : List Command} {n : Nat} {command : Command}
    (h : script.drop n = command :: rest) :
    startedLast (script.take (n + 1)) = command.leaves (startedLast (script.take n)) := by
  have hget : script[n]? = some command := by
    rw [← List.head?_drop, h, List.head?_cons]
  rw [List.take_add_one, hget, Option.toList_some, startedLast, List.foldl_append]
  rfl

/-- What is begun side by side by a command of such a script neither starts nor stops loops. -/
theorem Sequential.parts {script : List Command} (h : Sequential script) {command : Command}
    (hmem : command ∈ script) : ∀ part ∈ command.parts, ¬ part.Steers := by
  intro part hpart hsteers
  cases command with
  | together commands =>
    obtain hstart | hstop := h _ hmem (.within hpart hsteers)
    · cases hstart
    · cases hstop
  | _ => exact absurd hpart List.not_mem_nil

/-- A command that neither starts nor stops a loop begins none that does. -/
theorem parts_of_not_steers {command : Command} (h : ¬ command.Steers) :
    ∀ part ∈ command.parts, ¬ part.Steers := by
  intro part hpart hsteers
  cases command with
  | together commands => exact h (.within hpart hsteers)
  | _ => exact absurd hpart List.not_mem_nil

namespace World

variable {w w' w'' : World} {id other loop : Nat} {task task' : Task} {parts : List Command}
  {acting : Option Nat} {script : List Command} {count : Nat}

/-! ### Places in a script -/

/-- Do only the commands of a script that have begun tell whether a loop is started?  Nobody else
    starts or stops one. -/
structure Follows (script : List Command) (count : Nat) (w : World) : Prop where
  branches : ∀ {id : Nat} {task : Task} {parent slot : Nat} {command : Command},
    w.tasks[id]? = some task → task.role = .branch parent slot command → ¬ command.Steers
  scripts : ∀ {id : Nat} {task : Task} {commands : List Command}, w.tasks[id]? = some task →
    task.role = .script commands → id = 0
  running : w.running = true → startedLast (script.take count) = true
  joining : ∀ {stop loop}, w.Joining stop loop → stop = 0

/-- A change that neither starts nor stops a loop, and in which the acting task waits for none. -/
theorem Follows.quiet (h : w.Follows script count) (hquiet : Quiet acting parts w w')
    (hparts : ∀ part ∈ parts, ¬ part.Steers)
    (hown : ∀ {id loop}, acting = some id → w'.Joining id loop → id = 0) :
    w'.Follows script count where
  branches {id task' parent slot command} htask' hrole := by
    obtain ⟨task, htask, hsame⟩ | ⟨_, hbegun⟩ := hquiet.role_cases htask'
    · exact h.branches htask (hsame.symm.trans hrole)
    · rw [hrole] at hbegun
      cases hbegun with
      | branch slot hmem => exact hparts _ hmem
  scripts {id task' commands} htask' hrole := by
    obtain ⟨task, htask, hsame⟩ | ⟨_, hbegun⟩ := hquiet.role_cases htask'
    · exact h.scripts htask (hsame.symm.trans hrole)
    · rw [hrole] at hbegun
      cases hbegun
  running hrunning := h.running (hquiet.running.symm.trans hrunning)
  joining {stop loop} hjoins := by
    by_cases hstop : acting = some stop
    · exact hown hstop hjoins
    · exact h.joining ((hquiet.joining hstop).mp hjoins)

/-- A loop that is alive in the turn of the script was started last. -/
theorem Follows.started (h : w.Follows script count) (htended : w.Tended (some 0))
    (hlive : w.loopsAlive ≠ []) : startedLast (script.take count) = true := by
  obtain ⟨loop, hloop⟩ := List.exists_mem_of_ne_nil _ hlive
  obtain hrunning | ⟨stop, hstop, hjoins⟩ := htended.tended loop hloop
  · exact h.running hrunning
  · exact absurd (congrArg some (h.joining hjoins).symm) hstop

/-- How far is a script between turns?  It has not begun, it is over, or a command waits that is no
    start.  If that waits for a loop, one was started before. -/
inductive Placed (script : List Command) (w : World) : Prop
  | fresh (task : Task) (htask : w.tasks[0]? = some task) (hfresh : task.activity = .fresh)
    (hrole : task.role = .script script) (hreports : w.reports = []) (hfollows : w.Follows script 0)
  | waits (task : Task) (command : Command) (rest : List Command) (htask : w.tasks[0]? = some task)
    (hfresh : task.activity ≠ .fresh) (hrole : task.role = .script rest)
    (hrest : script.drop w.reports.length = command :: rest) (hstart : command ≠ .start)
    (hfollows : w.Follows script (w.reports.length + 1))
    (hjoins : ∀ loop, w.Joining 0 loop → startedLast (script.take w.reports.length) = true)
  | gone (task : Task) (htask : w.tasks[0]? = some task) (hended : task.activity.phase = .ended)
    (hfollows : w.Follows script w.reports.length)

/-- **From a stop to the next start no loop is alive**: where the last start or stop that has
    returned is no start. -/
theorem Placed.started (h : w.Placed script) (htended : w.Tended none) (hlive : w.loopsAlive ≠ []) :
    startedLast (script.take w.reports.length) = true := by
  obtain ⟨loop, hloop⟩ := List.exists_mem_of_ne_nil _ hlive
  have htends := htended.tended loop hloop
  cases h with
  | fresh task htask hfresh hrole hreports hfollows =>
    obtain hrunning | ⟨stop, _, found, hfound, hphase⟩ := htends
    · rw [hreports]
      exact hfollows.running hrunning
    · obtain rfl := hfollows.joining ⟨found, hfound, hphase⟩
      obtain rfl := Option.some.inj (htask.symm.trans hfound)
      rw [hfresh] at hphase
      cases hphase
  | waits task command rest htask hfresh hrole hrest hstart hfollows hjoins =>
    obtain hrunning | ⟨stop, _, hjoining⟩ := htends
    · have hstarted := hfollows.running hrunning
      rw [startedLast_succ hrest] at hstarted
      cases command with
      | start => exact absurd rfl hstart
      | stop => cases hstarted
      | _ => exact hstarted
    · obtain rfl := hfollows.joining hjoining
      exact hjoins loop hjoining
  | gone task htask hended hfollows =>
    -- A script that is over waits for no loop.
    obtain hrunning | ⟨stop, _, found, hfound, hphase⟩ := htends
    · exact hfollows.running hrunning
    · obtain rfl := hfollows.joining ⟨found, hfound, hphase⟩
      obtain rfl := Option.some.inj (htask.symm.trans hfound)
      rw [hended] at hphase
      cases hphase

/-- The turn of another task leaves the script in its place. -/
theorem Placed.quiet (h : w.Placed script) (hquiet : Quiet acting parts w w')
    (hacting : acting ≠ some 0) (hparts : ∀ part ∈ parts, ¬ part.Steers)
    (hown : ∀ {id loop}, acting = some id → w'.Joining id loop → id = 0) : w'.Placed script := by
  cases h with
  | fresh task htask hfresh hrole hreports hfollows =>
    obtain ⟨task', htask', hsame, hlike⟩ := hquiet.kept htask
    exact .fresh task' htask' ((hlike hacting).fresh.mpr hfresh) (hsame.trans hrole)
      (hquiet.reports.trans hreports) (hfollows.quiet hquiet hparts hown)
  | waits task command rest htask hfresh hrole hrest hstart hfollows hjoins =>
    obtain ⟨task', htask', hsame, hlike⟩ := hquiet.kept htask
    refine .waits task' command rest htask' (fun h => hfresh ((hlike hacting).fresh.mp h))
      (hsame.trans hrole) ?_ hstart ?_ fun loop hjoining => ?_
    · rw [hquiet.reports]
      exact hrest
    · rw [hquiet.reports]
      exact hfollows.quiet hquiet hparts hown
    · rw [hquiet.reports]
      exact hjoins loop ((hquiet.joining hacting).mp hjoining)
  | gone task htask hended hfollows =>
    obtain ⟨task', htask', _, hlike⟩ := hquiet.kept htask
    refine .gone task' htask' ((hlike hacting).phase.trans hended) ?_
    rw [hquiet.reports]
    exact hfollows.quiet hquiet hparts hown

/-! ### The turn of the script -/

/-- What does a command of the script come to, after `count` others?  If it waits, it is no start,
    and if it waits for a loop, one was started before. -/
def Passes (script : List Command) (count : Nat) (w : World) (command : Command) :
    Progress → Prop
  | (w', some _) => w'.Follows script (count + 1) ∧ w'.reports = w.reports
  | (w', none) => command ≠ .start ∧ w'.Follows script (count + 1) ∧ w'.reports = w.reports ∧
    (∃ task, w'.tasks[0]? = some task ∧ task.activity ≠ .fresh) ∧
    ∀ loop, w'.Joining 0 loop → startedLast (script.take count) = true

/-- One more command has begun, which changes nothing of what is started. -/
theorem Follows.more (h : w.Follows script count)
    (hrunning : w.running = true → startedLast (script.take (count + 1)) = true) :
    w.Follows script (count + 1) :=
  ⟨h.branches, h.scripts, hrunning, h.joining⟩

/-- A command of which nothing shows but that its task waits. -/
theorem Goes.passes {progress : Progress} (command : Command)
    (hgoes : Goes 0 parts w progress) (h : w.Follows script (count + 1))
    (hparts : ∀ part ∈ parts, ¬ part.Steers) (hstart : command ≠ .start)
    (htask : w.tasks[0]? = some task) : Passes script count w command progress := by
  have hfollows := h.quiet hgoes.quiet hparts fun hid _ => (Option.some.inj hid).symm
  have hreports := hgoes.quiet.reports
  obtain ⟨w', _ | result⟩ := progress
  · obtain ⟨own, hown, hfresh, hgoing⟩ := Pauses.own hgoes htask
    refine ⟨hstart, hfollows, hreports, ⟨own, hown, hfresh⟩, fun loop ⟨found, hfound, hphase⟩ => ?_⟩
    obtain rfl := Option.some.inj (hown.symm.trans hfound)
    exact absurd hphase (hgoing loop)
  · exact ⟨hfollows, hreports⟩

/-- The script stops a loop. -/
theorem passes_stopLoop (h : w.Follows script count) (htended : w.Tended (some 0))
    (halive : w.isOver 0 = false) (hknows : w.KnowsLoop) :
    Passes script count w .stop (w.stopLoop 0) := by
  obtain ⟨task, htask, _⟩ := exists_of_not_isOver halive
  have hstopped : ({ w with running := false } : World).Follows script (count + 1) :=
    ⟨h.branches, h.scripts, nofun, h.joining⟩
  have hgoes : ∀ {progress}, Goes 0 [] { w with running := false } progress →
      Passes script count w .stop progress := by
    intro progress hgoes
    have hpasses := hgoes.passes .stop hstopped nofun nofun htask
    obtain ⟨w', _ | result⟩ := progress <;> exact hpasses
  unfold stopLoop
  simp only
  split
  · exact hgoes (flushes_flush _ 0).goes
  · rename_i loop hlast
    split
    · exact hgoes (goes_afterLoop _ 0 loop)
    · rename_i hgoing
      have hasked : Quiet (some 0) [] { w with running := false }
          ((({ w with running := false } : World).cancel loop).modify loop fun task =>
            { task with waiters := task.waiters ++ [0] }) :=
        (Quiet.cancel _ loop).trans (.mark (fun _ => rfl) fun _ => rfl)
      have hquiet := hasked.trans (.setActivity _ 0 (.joining loop))
      obtain ⟨own, hown, _⟩ := hasked.kept htask
      obtain ⟨known, hknown, hkind⟩ := hknows loop hlast
      refine ⟨nofun, hstopped.quiet hquiet nofun fun hid _ => (Option.some.inj hid).symm,
        hquiet.reports, ⟨_, tasks_modify_self hown _, nofun⟩, fun _ _ => h.started htended ?_⟩
      -- The loop that it waits for is alive.
      have hlive : loop ∈ w.loopsAlive :=
        mem_loopsAlive.mpr ⟨known, hknown, hkind, phase_of_not_isOver hknown hgoing⟩
      exact List.ne_nil_of_mem hlive

/-- The script starts a loop. -/
theorem follows_startLoop (h : w.Follows script count)
    (hstarted : startedLast (script.take (count + 1)) = true) :
    w.startLoop.Follows script (count + 1) := by
  have htasks : ∀ b : Nat, w.startLoop.tasks[b]? =
      if b = w.tasks.size then some ⟨.loop, .fresh, none, false, [], none⟩ else w.tasks[b]? :=
    fun b => tasks_spawn _ .loop b
  refine ⟨fun {id task parent slot command} htask hrole => ?_,
    fun {id task commands} htask hrole => ?_, fun _ => hstarted,
    fun {stop loop} ⟨task, htask, hphase⟩ => ?_⟩ <;> rw [htasks] at htask <;> split at htask
  · obtain rfl := Option.some.inj htask
    cases hrole
  · exact h.branches htask hrole
  · obtain rfl := Option.some.inj htask
    cases hrole
  · exact h.scripts htask hrole
  · obtain rfl := Option.some.inj htask
    cases hphase
  · exact h.joining ⟨task, htask, hphase⟩

/-- **Every command of the script takes it one place further.** -/
theorem passes_begin (hsequential : Sequential script) (h : w.Follows script count)
    (htended : w.Tended (some 0)) (halive : w.isOver 0 = false) (hknows : w.KnowsLoop)
    {command : Command} {rest : List Command} (hrest : script.drop count = command :: rest) :
    Passes script count w command (w.begin 0 command) := by
  obtain ⟨task, htask, _⟩ := exists_of_not_isOver halive
  have hleaves := startedLast_succ hrest
  by_cases hstarts : command = .start
  · subst hstarts
    exact ⟨follows_startLoop h hleaves, rfl⟩
  by_cases hstops : command = .stop
  · subst hstops
    exact passes_stopLoop h htended halive hknows
  · have hmem : command ∈ script := List.mem_of_mem_drop (hrest ▸ List.mem_cons_self)
    have hsame : startedLast (script.take (count + 1)) = startedLast (script.take count) := by
      rw [hleaves]
      cases command with
      | start => exact absurd rfl hstarts
      | stop => exact absurd rfl hstops
      | _ => rfl
    exact (goes_begin w 0 hstarts hstops).passes _
      (h.more fun hrunning => hsame ▸ h.running hrunning)
      (hsequential.parts hmem) hstarts htask

/-- A stop waits for a loop whatever its commands are. -/
theorem joining_setScript {stop : Nat} {rest : List Command}
    (h : (w.modify id fun task => { task with role := .script rest }).Joining stop loop) :
    w.Joining stop loop := by
  obtain ⟨task, htask, hphase⟩ := h
  by_cases hid : id = stop
  · subst hid
    obtain ⟨before, hbefore, rfl⟩ := exists_of_modify htask
    exact ⟨before, hbefore, hphase⟩
  · exact ⟨task, (tasks_modify_of_ne hid _).symm.trans htask, hphase⟩

/-- The script keeps the commands that follow. -/
theorem Follows.setScript (h : w.Follows script count) (rest : List Command) :
    (w.modify 0 fun task => { task with role := .script rest }).Follows script count := by
  refine ⟨fun {id task parent slot command} htask hrole => ?_,
    fun {id task commands} htask hrole => ?_, h.running, fun hjoins =>
    h.joining (joining_setScript hjoins)⟩ <;> by_cases hid : 0 = id
  · subst hid
    obtain ⟨before, _, rfl⟩ := exists_of_modify htask
    cases hrole
  · exact h.branches ((tasks_modify_of_ne hid _).symm.trans htask) hrole
  · exact hid.symm
  · exact h.scripts ((tasks_modify_of_ne hid _).symm.trans htask) hrole

/-- Is this the turn of a script whose loops are tended? -/
structure InTurn (script : List Command) (w : World) : Prop where
  follows : w.Follows script w.reports.length
  tended : w.Tended (some 0)
  acting : w.Acting 0 0
  turn : w.ScriptTurn 0

/-- After the report of a command the turn of the script goes on with the next one. -/
theorem InTurn.of_result {command : Command} {rest : List Command} {result : Result}
    (hrest : script.drop w.reports.length = command :: rest)
    (hpasses : Passes script w.reports.length w command (w', some result))
    (hcomes : Comes 0 w (w', some result)) (hleaves : Leaves 0 w (w', some result))
    (htends : Tends 0 (w', some result)) (hturn : w.ScriptTurn 0) :
    (w'.report result).InTurn script ∧ script.drop (w'.report result).reports.length = rest := by
  obtain ⟨hfollows, hreports⟩ := hpasses
  have hlength : (w'.report result).reports.length = w.reports.length + 1 := by
    rw [← hreports]
    rfl
  refine ⟨⟨?_, Tended.report htends result, hcomes.1.report result,
    hleaves.scriptTurn hturn⟩, ?_⟩ <;> rw [hlength]
  · exact ⟨hfollows.branches, hfollows.scripts, hfollows.running, hfollows.joining⟩
  · rw [← List.drop_drop, hrest, List.drop_one, List.tail_cons]

/-- After a command that has a result the turn of the script goes on. -/
theorem InTurn.next (h : w.InTurn script) (hsequential : Sequential script) {command : Command}
    {rest : List Command} (hrest : script.drop w.reports.length = command :: rest)
    (halone : command = .start → w.loopsAlive = []) {result : Result}
    (hprogress : w.begin 0 command = (w', some result)) :
    (w'.report result).InTurn script ∧
      script.drop (w'.report result).reports.length = rest :=
  InTurn.of_result hrest
    (hprogress ▸ passes_begin hsequential h.follows h.tended h.acting.alive h.turn.knows hrest)
    (hprogress ▸ comes_begin h.acting h.turn command) (hprogress ▸ leaves_begin h.turn command)
    (hprogress ▸ tends_begin h.tended h.acting.alive halone) h.turn

/-- **The script comes to its next place**, if its starts begin while no loop is alive. -/
theorem placed_runScript (hsequential : Sequential script) (h : w.InTurn script)
    {commands : List Command} (hrest : script.drop w.reports.length = commands)
    (hstarts : ∀ begun ∈ w.scriptBegins 0 commands, begun.2 = .start → begun.1.loopsAlive = []) :
    (w.runScript 0 commands).Placed script := by
  induction commands generalizing w with
  | nil =>
    obtain ⟨task, htask, _⟩ := exists_of_not_isOver h.acting.alive
    have hfinish : Quiet (some 0) [] w (w.finish 0 none) := .finish w 0 none
    obtain ⟨own, hown, _⟩ := hfinish.kept htask
    refine .gone own hown (phase_finish hown) ?_
    rw [runScript, hfinish.reports]
    exact h.follows.quiet hfinish nofun fun hid _ => (Option.some.inj hid).symm
  | cons command rest ih =>
    unfold scriptBegins at hstarts
    have halone := hstarts _ List.mem_cons_self
    unfold runScript
    split
    · rename_i w' result hprogress
      simp only [hprogress] at hstarts
      obtain ⟨hnext, hrest'⟩ := h.next hsequential hrest halone hprogress
      exact ih hnext hrest' fun begun hbegun => hstarts begun (List.mem_cons_of_mem _ hbegun)
    · rename_i w' hprogress
      have hpasses := passes_begin hsequential h.follows h.tended h.acting.alive h.turn.knows hrest
      rw [hprogress] at hpasses
      obtain ⟨hstart, hfollows, hreports, ⟨own, hown, hfresh⟩, hjoins⟩ := hpasses
      have hsame : (w'.modify 0 fun task => { task with role := .script rest }).reports =
          w.reports := hreports
      refine .waits _ command rest (tasks_modify_self hown _) hfresh rfl ?_ hstart ?_
        fun loop hjoining => ?_ <;> rw [hsame]
      · exact hrest
      · exact hfollows.setScript rest
      · exact hjoins loop (joining_setScript hjoining)

/-- **Every start begins while no loop is alive** if there is a stop between any two starts. -/
theorem alone_scriptBegins (hsequential : Sequential script) (hbetween : StopsBetween script)
    (h : w.InTurn script) {commands : List Command}
    (hrest : script.drop w.reports.length = commands) :
    ∀ begun ∈ w.scriptBegins 0 commands, begun.2 = .start → begun.1.loopsAlive = [] := by
  induction commands generalizing w with
  | nil => exact fun begun hbegun => absurd hbegun List.not_mem_nil
  | cons command rest ih =>
    have halone : command = .start → w.loopsAlive = [] := by
      rintro rfl
      by_contra hlive
      -- The loop that is alive was started last, but there is a stop in between.
      have hget : script[w.reports.length]? = some .start := by
        rw [← List.head?_drop, hrest, List.head?_cons]
      have hstarted := h.follows.started h.tended hlive
      rw [hbetween _ hget] at hstarted
      cases hstarted
    intro begun hbegun hstart
    unfold scriptBegins at hbegun
    obtain rfl | hlater := List.mem_cons.mp hbegun
    · exact halone hstart
    · split at hlater
      · rename_i w' result hprogress
        obtain ⟨hnext, hrest'⟩ := h.next hsequential hrest halone hprogress
        exact ih hnext hrest' begun hlater hstart
      · exact absurd hlater List.not_mem_nil

/-! ### Turns -/

/-- What has the script to do when its turn has come?  Its next command begins, or the one that
    waits goes on and has a result, or waits again. -/
def OnTurn (script : List Command) (w : World) (task : Task) (commands : List Command) : Prop :=
  (task.activity = .fresh ∧ w.InTurn script ∧ script.drop w.reports.length = commands) ∨
    task.activity ≠ .fresh ∧
      match w.resumeCommand 0 task.activity with
      | (w', some result) => (w'.report result).InTurn script ∧
        script.drop (w'.report result).reports.length = commands
      | (w', none) => w'.Placed script

/-- The script has its turn in its place. -/
theorem Placed.scriptTurn (hplaced : w.Placed script) (htask : w.tasks[0]? = some task)
    {commands : List Command} (hrole : task.role = .script commands)
    (htended : w.Tended (some 0)) (hacting : w.Acting 0 0) (hturn : w.ScriptTurn 0) :
    w.OnTurn script task commands := by
  have hgoing := going_of_alive hacting.alive htask
  cases hplaced with
  | fresh found hfound hfresh hscript hreports hfollows =>
    obtain rfl := Option.some.inj (htask.symm.trans hfound)
    obtain rfl := Role.script.inj (hrole.symm.trans hscript)
    refine .inl ⟨hfresh, ⟨hreports ▸ hfollows, htended, hacting, hturn⟩, ?_⟩
    rw [hreports]
    rfl
  | gone found hfound hended hfollows =>
    obtain rfl := Option.some.inj (htask.symm.trans hfound)
    exact absurd hended hgoing
  | waits found command rest hfound hfresh hscript hrest hstart hfollows hjoins =>
    obtain rfl := Option.some.inj (htask.symm.trans hfound)
    obtain rfl := Role.script.inj (hrole.symm.trans hscript)
    refine .inr ⟨hfresh, ?_⟩
    have hgoes := goes_resumeCommand w 0 hgoing hfresh
    have hpasses := hgoes.passes command hfollows nofun hstart htask
    split
    · rename_i w' result hprogress
      exact InTurn.of_result hrest (hprogress ▸ hpasses)
        (hprogress ▸ comes_resumeCommand hacting htask hfresh)
        (hprogress ▸ leaves_resumeCommand hturn htask)
        (hprogress ▸ hgoes.tends htended hacting.alive) hturn
    · rename_i w' hprogress
      rw [hprogress] at hgoes hpasses
      obtain ⟨_, hfollows', hreports, ⟨own, hown, hbegun⟩, hjoins'⟩ := hpasses
      obtain ⟨found, hfound', hsame, _⟩ := hgoes.quiet.kept htask
      obtain rfl := Option.some.inj (hown.symm.trans hfound')
      refine .waits own command commands hown hbegun (hsame.trans hscript) ?_ hstart ?_ ?_ <;>
        rw [hreports]
      · exact hrest
      · exact hfollows'
      · exact hjoins'

/-- Nobody but the script starts or stops a loop. -/
theorem Placed.follows (h : w.Placed script) : ∃ count, w.Follows script count := by
  cases h with
  | fresh _ _ _ _ _ hfollows => exact ⟨_, hfollows⟩
  | waits _ _ _ _ _ _ _ _ hfollows _ => exact ⟨_, hfollows⟩
  | gone _ _ _ hfollows => exact ⟨_, hfollows⟩

/-- The first task is the script, unless it is over. -/
theorem Placed.role (h : w.Placed script) (halive : w.isOver 0 = false) :
    ∃ task commands, w.tasks[0]? = some task ∧ task.role = .script commands := by
  cases h with
  | fresh task htask _ hrole => exact ⟨task, _, htask, hrole⟩
  | waits task _ _ htask _ hrole => exact ⟨task, _, htask, hrole⟩
  | gone task htask hended => exact absurd hended (going_of_alive halive htask)

/-- A task that waits after a change that does not show waits for no loop. -/
theorem Pauses.not_joining (h : Pauses id parts w w') (htask : w.tasks[id]? = some task) :
    ¬ w'.Joining id loop := by
  rintro ⟨found, hfound, hphase⟩
  obtain ⟨own, hown, _, hgoing⟩ := h.own htask
  obtain rfl := Option.some.inj (hown.symm.trans hfound)
  exact hgoing loop hphase

/-- A task that has ended waits for no loop. -/
theorem not_joining_finish {fault : Option Fault} : ¬ (w.finish id fault).Joining id loop := by
  rintro ⟨found, hfound, hphase⟩
  rw [phase_finish hfound] at hphase
  cases hphase

/-- A branch waits for no loop, whose command stops none. -/
theorem not_joining_closeBranch {progress : Progress} (hgoes : Goes id parts w progress)
    (htask : w.tasks[id]? = some task) {parent slot : Nat} :
    ¬ (closeBranch id parent slot progress).Joining id loop := by
  obtain ⟨w', _ | result⟩ := progress
  · exact Pauses.not_joining hgoes htask
  · exact not_joining_finish (w := w'.collect parent slot result)

/-- Does the turn of a task neither start nor stop a loop, and wait for none? -/
def Unsteered (id : Nat) (w w' : World) : Prop :=
  ∃ parts, (∀ part ∈ parts, ¬ part.Steers) ∧ Quiet (some id) parts w w' ∧
    ∀ loop, w'.Joining id loop → w.Joining id loop

/-- The turn of a branch that neither starts nor stops a loop. -/
theorem unsteered_branchTurn (hacting : w.Acting id 0) (htask : w.tasks[id]? = some task)
    {parent slot : Nat} {command : Command} (hcommand : ¬ command.Steers) :
    Unsteered id w (match task.activity with
      | .fresh => closeBranch id parent slot (w.begin id command)
      | activity => closeBranch id parent slot (w.resumeCommand id activity)) := by
  have hended := going_of_alive hacting.alive htask
  have hclosed : ∀ {parts progress}, (∀ part ∈ parts, ¬ part.Steers) → Goes id parts w progress →
      Unsteered id w (closeBranch id parent slot progress) := fun hparts hgoes =>
    ⟨_, hparts, quiet_closeBranch hgoes.quiet parent slot, fun loop hjoins =>
      absurd hjoins (not_joining_closeBranch hgoes htask)⟩
  split
  · refine hclosed (parts_of_not_steers hcommand) (goes_begin w id ?_ ?_)
    · rintro rfl
      exact hcommand .start
    · rintro rfl
      exact hcommand .stop
  · rename_i hfresh
    exact hclosed (fun _ hpart => absurd hpart List.not_mem_nil)
      (goes_resumeCommand w id hended hfresh)

/-- The turn of a loop. -/
theorem Rounds.unsteered (h : Rounds id w w') (htask : w.tasks[id]? = some task) :
    Unsteered id w w' := by
  refine ⟨[], nofun, h.quiet, fun loop hjoins => ?_⟩
  obtain hpauses | ⟨between, fault, _, rfl⟩ := h
  · exact absurd hjoins (hpauses.not_joining htask)
  · exact absurd hjoins not_joining_finish

/-- The turn of a probe. -/
theorem unsteered_resumeProbe (htask : w.tasks[id]? = some task) (parent : Nat) (probe : Probe)
    (activity : Activity) : Unsteered id w (w.resumeProbe id parent probe activity) := by
  refine ⟨[], nofun, quiet_resumeProbe w id parent probe activity, fun loop hjoins => ?_⟩
  obtain hsame | hpauses | ⟨between, _, hends⟩ := goes_resumeProbe w id parent probe activity
  · rwa [hsame] at hjoins
  · exact absurd hjoins (hpauses.not_joining htask)
  · rw [hends] at hjoins
    exact absurd hjoins (not_joining_finish (w := between))

section
variable {rest : List Wake}

/-- **Only the script starts and stops loops.** -/
theorem unsteered_resume (hpaced : w.Paced) (horderly : w.Orderly)
    (hready : w.ready = .resume id :: rest) (htask : w.tasks[id]? = some task)
    (hfollows : w.Follows script count) (hid : id ≠ 0) :
    Unsteered id (w.taking id rest) (({ w with ready := rest } : World).resume id) ∧
      ∀ begun ∈ (w.taking id rest).turnBegins id task, begun.2 ≠ .start := by
  have hacting := hpaced.acting hready
  have hown : (w.taking id rest).tasks[id]? = some { task with cancelled := false } :=
    tasks_modify_self htask _
  unfold resume turnBegins
  simp only [htask]
  cases hrole : task.role with
  | script commands => exact absurd (hfollows.scripts htask hrole) hid
  | branch parent slot command =>
    have hcommand := hfollows.branches htask hrole
    refine ⟨unsteered_branchTurn hacting hown hcommand, fun begun hbegun hstart => ?_⟩
    cases hactivity : task.activity with
    | fresh =>
      rw [hactivity] at hbegun
      obtain rfl := List.mem_singleton.mp hbegun
      simp only at hstart
      exact hcommand (hstart ▸ .start)
    | pausing | evaluating | handing | joining | gathering | _ =>
      rw [hactivity] at hbegun
      exact absurd hbegun List.not_mem_nil
  | loop =>
    have hphase := hpaced.loopGoing horderly hready htask hrole
    exact ⟨(goes_loopTurn _ id hphase task.cancelled).unsteered hown,
      fun begun hbegun => absurd hbegun List.not_mem_nil⟩
  | probe parent probe =>
    exact ⟨unsteered_resumeProbe hown parent probe task.activity,
      fun begun hbegun => absurd hbegun List.not_mem_nil⟩

/-- The turn of the script. -/
theorem placed_scriptTurn (hsequential : Sequential script) {commands : List Command}
    (hturn : w.OnTurn script task commands)
    (hstarts : ∀ begun ∈ (match task.activity with
      | .fresh => w.scriptBegins 0 commands
      | activity =>
        match w.resumeCommand 0 activity with
        | (w, some result) => (w.report result).scriptBegins 0 commands
        | (_, none) => []), begun.2 = .start → begun.1.loopsAlive = []) :
    (match task.activity with
      | .fresh => w.runScript 0 commands
      | activity =>
        match w.resumeCommand 0 activity with
        | (w, some result) => (w.report result).runScript 0 commands
        | (w, none) => w).Placed script := by
  obtain ⟨hfresh, hin, hrest⟩ | ⟨hfresh, hresumed⟩ := hturn
  · rw [hfresh] at hstarts ⊢
    exact placed_runScript hsequential hin hrest hstarts
  · split
    · rename_i hactivity
      exact absurd hactivity hfresh
    · split
      · rename_i w' result hprogress
        simp only [hprogress] at hresumed hstarts
        exact placed_runScript hsequential hresumed.1 hresumed.2 hstarts
      · rename_i w' hprogress
        rw [hprogress] at hresumed
        exact hresumed

/-- What begins in the turn of the script, if there is a stop between any two starts. -/
theorem alone_scriptTurn (hsequential : Sequential script) (hbetween : StopsBetween script)
    {commands : List Command}
    (hturn : w.OnTurn script task commands) :
    ∀ begun ∈ (match task.activity with
      | .fresh => w.scriptBegins 0 commands
      | activity =>
        match w.resumeCommand 0 activity with
        | (w, some result) => (w.report result).scriptBegins 0 commands
        | (_, none) => []), begun.2 = .start → begun.1.loopsAlive = [] := by
  obtain ⟨hfresh, hin, hrest⟩ | ⟨hfresh, hresumed⟩ := hturn
  · rw [hfresh]
    exact alone_scriptBegins hsequential hbetween hin hrest
  · split
    · rename_i hactivity
      exact absurd hactivity hfresh
    · split
      · rename_i w' result hprogress
        simp only [hprogress] at hresumed
        exact alone_scriptBegins hsequential hbetween hresumed.1 hresumed.2
      · exact fun begun hbegun => absurd hbegun List.not_mem_nil

/-- The turn of the script has come. -/
theorem Placed.taking (h : w.Placed script) (id : Nat) (rest : List Wake) :
    (w.taking id rest).Placed script := by
  have hpopped : Quiet none [] w { w with ready := rest } := .of_same rfl rfl rfl rfl
  have hquiet : Quiet none [] w (w.taking id rest) :=
    hpopped.trans (.mark (fun _ => rfl) fun _ => rfl)
  exact h.quiet hquiet nofun nofun nofun

/-- The script has its turn, or another task has.  What begins in it begins while no loop is alive,
    if there is a stop between any two starts, and wherever that is so the script comes to its next
    place. -/
theorem placed_resume (hsequential : Sequential script) (h : w.Placed script)
    (htended : w.Tended none) (hpaced : w.Paced) (horderly : w.Orderly)
    (hready : w.ready = .resume id :: rest) (htask : w.tasks[id]? = some task) :
    (StopsBetween script → ∀ begun ∈ (w.taking id rest).turnBegins id task,
      begun.2 = .start → begun.1.loopsAlive = []) ∧
    ((∀ begun ∈ (w.taking id rest).turnBegins id task,
      begun.2 = .start → begun.1.loopsAlive = []) →
      (({ w with ready := rest } : World).resume id).Placed script) := by
  have hplaced := h.taking id rest
  have hacting := hpaced.acting hready
  by_cases hid : id = 0
  · subst hid
    have hown : (w.taking 0 rest).tasks[0]? = some { task with cancelled := false } :=
      tasks_modify_self htask _
    obtain ⟨found, commands, hfound, hrole⟩ := hplaced.role hacting.alive
    obtain rfl := Option.some.inj (hown.symm.trans hfound)
    have hscript : task.role = .script commands := hrole
    have hkind : task.role.kind = .commands := by
      rw [hscript]
      rfl
    have hturn := hplaced.scriptTurn hown hrole (htended.taking hpaced horderly hready) hacting
      (scriptTurn_taking horderly hready htask hkind)
    rw [turnBegins_script _ _ hscript]
    unfold resume
    simp only [htask, hscript]
    exact ⟨fun hbetween => alone_scriptTurn hsequential hbetween hturn,
      placed_scriptTurn hsequential hturn⟩
  · -- In the turn of another task no loop is started or stopped.
    obtain ⟨count, hfollows⟩ := h.follows
    obtain ⟨_, hfollows'⟩ := hplaced.follows
    obtain ⟨⟨parts, hparts, hturn, hown⟩, hnone⟩ :=
      unsteered_resume hpaced horderly hready htask hfollows hid
    refine ⟨fun _ begun hbegun hstart => absurd hstart (hnone begun hbegun), fun _ => ?_⟩
    refine hplaced.quiet hturn (fun h => hid (Option.some.inj h)) hparts fun hsame hjoins => ?_
    obtain rfl := Option.some.inj hsame
    exact hfollows'.joining (hown _ hjoins)

end

/-! ### Steps -/

/-- **A step takes the script to its next place**, if what begins in it begins while no loop is
    alive, which is so if there is a stop between any two starts. -/
theorem placed_step (hsequential : Sequential script) (h : w.Placed script)
    (htended : w.Tended none) (hpaced : w.Paced) (horderly : w.Orderly)
    (hgoing : w.isOver 0 ≠ true) :
    (StopsBetween script → ∀ begun ∈ w.begins, begun.2 = .start → begun.1.loopsAlive = []) ∧
    ((∀ begun ∈ w.begins, begun.2 = .start → begun.1.loopsAlive = []) →
      ∀ next, w.step = some next → next.Placed script) := by
  have hquiet : ∀ {next}, Quiet none [] w next → next.Placed script :=
    fun hquiet => h.quiet hquiet nofun nofun nofun
  unfold step begins
  cases hready : w.ready with
  | cons wake rest =>
    have hpopped : Quiet none [] w { w with ready := rest } := .of_same rfl rfl rfl rfl
    cases wake with
    | resume id =>
      obtain ⟨own, hown, _⟩ := exists_of_not_isOver (hpaced.acting hready).alive
      obtain ⟨task, htask, _⟩ := exists_of_modify hown
      have hfound : w.tasks[id]? = some task := htask
      obtain ⟨halone, hplaced⟩ := placed_resume hsequential h htended hpaced horderly hready hfound
      simp only [hfound, if_neg hgoing]
      refine ⟨halone, fun hstarts next hnext => ?_⟩
      obtain rfl := Option.some.inj hnext
      exact hplaced hstarts
    | fire id number =>
      refine ⟨fun _ _ hbegun => absurd hbegun List.not_mem_nil, fun _ next hnext => ?_⟩
      obtain rfl := Option.some.inj hnext
      exact hquiet (hpopped.trans (quiet_fire _ id number))
    | childOver parent =>
      refine ⟨fun _ _ hbegun => absurd hbegun List.not_mem_nil, fun _ next hnext => ?_⟩
      obtain rfl := Option.some.inj hnext
      exact hquiet (hpopped.trans (quiet_childOver _ parent))
  | nil =>
    refine ⟨fun _ _ hbegun => absurd hbegun List.not_mem_nil, fun _ next hnext => ?_⟩
    obtain ⟨timer, _, rfl⟩ := Option.map_eq_some_iff.mp hnext
    exact hquiet (quiet_moveTime w timer)

/-- Nothing begins when the script is over. -/
theorem begins_of_isOver (h : w.isOver 0 = true) : w.begins = [] := by
  unfold begins
  split
  · split
    · rw [if_pos h]
    · rfl
  · rfl

/-- What a script comes to. -/
theorem placed_run (hsequential : Sequential script) (h : w.Placed script) (htended : w.Tended none)
    (hpaced : w.Paced) (horderly : w.Orderly) (hstarts : w.StartsAlone) (n : Nat) :
    (w.run n).Placed script := by
  induction n with
  | zero => exact h
  | succ n ih =>
    rw [run_succ]
    obtain hsame | ⟨hgoing, hstep⟩ := (w.run n).run_one
    · rw [hsame]
      exact ih
    · exact (placed_step hsequential ih (tended_run htended hpaced horderly hstarts n)
        (paced_run hpaced horderly n) (orderly_run horderly n) hgoing).2 (hstarts n) _ hstep

/-- **Every start begins alone** in a script with a stop between any two starts. -/
theorem startsAlone_of_stopsBetween (hsequential : Sequential script)
    (hbetween : StopsBetween script) (h : w.Placed script) (htended : w.Tended none)
    (hpaced : w.Paced) (horderly : w.Orderly) : w.StartsAlone := by
  have halone : ∀ {w : World}, w.Placed script → w.Tended none → w.Paced → w.Orderly →
      ∀ begun ∈ w.begins, begun.2 = .start → begun.1.loopsAlive = [] := by
    intro w h htended hpaced horderly
    by_cases hover : w.isOver 0 = true
    · rw [begins_of_isOver hover]
      exact fun _ hbegun => absurd hbegun List.not_mem_nil
    · exact (placed_step hsequential h htended hpaced horderly hover).1 hbetween
  -- Neither is kept without the other one: starts begin alone where the script is in its place and
  -- the loops are tended, and that is so where starts have begun alone.
  have hruns : ∀ n, (w.run n).Placed script ∧ (w.run n).Tended none := by
    intro n
    induction n with
    | zero => exact ⟨h, htended⟩
    | succ n ih =>
      obtain ⟨hplaced, htends⟩ := ih
      have hpaced' := paced_run hpaced horderly n
      have horderly' := orderly_run horderly n
      have hstarts := halone hplaced htends hpaced' horderly'
      rw [run_succ]
      obtain hsame | ⟨hgoing, hstep⟩ := (w.run n).run_one
      · rw [hsame]
        exact ⟨hplaced, htends⟩
      · exact ⟨(placed_step hsequential hplaced htends hpaced' horderly' hgoing).2 hstarts _ hstep,
          tended_step htends hpaced' horderly' hgoing hstarts hstep⟩
  exact fun n => halone (hruns n).1 (hruns n).2 (paced_run hpaced horderly n)
    (orderly_run horderly n)

/-- Before its first command a script is in its first place. -/
theorem placed_fresh (monitor : Monitor Number) (registry : Registry)
    (receptions : List Reception) (wallStart : Moment) (script : List Command) :
    (fresh monitor registry receptions wallStart script).Placed script := by
  have honly : ∀ {id : Nat} {task : Task},
      (fresh monitor registry receptions wallStart script).tasks[id]? = some task →
      id = 0 ∧ task = ⟨.script script, .fresh, none, false, [], none⟩ := by
    intro id task htask
    obtain ⟨hid, rfl⟩ := Array.getElem?_eq_some_iff.mp htask
    obtain rfl : id = 0 := Nat.lt_one_iff.mp hid
    exact ⟨rfl, rfl⟩
  refine .fresh _ rfl rfl rfl rfl ⟨fun htask hrole => ?_, fun htask _ => (honly htask).1, nofun,
    fun ⟨task, htask, hphase⟩ => (honly htask).1⟩
  rw [(honly htask).2] at hrole
  cases hrole

/-- Before the first command no loop is alive. -/
theorem tended_fresh (monitor : Monitor Number) (registry : Registry)
    (receptions : List Reception) (wallStart : Moment) (script : List Command) :
    (fresh monitor registry receptions wallStart script).Tended none := tended_of_none rfl

end World

end StreamWatch.Simulation
