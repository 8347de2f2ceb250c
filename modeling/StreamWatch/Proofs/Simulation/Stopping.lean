import StreamWatch.Proofs.Simulation.Order

namespace StreamWatch.Simulation

/-!
# Stops that wait go on

A stop asks the loop in the background to end, and waits until it has.

* `World.ScriptTurn` — in the turn of a task that carries out commands, loops are sure to go on;
* `World.Yields`, `World.Leaves`, `World.Hands` — what holds when a task, a command or a flush is
  over or waits;
* `World.yields_ask` — a stop that waits has asked the loop, whose turn is to come;
* `World.advances_step`, `World.orderly_run` — a step takes what is first in the order, and every
  world that a script comes to is orderly;
* `World.comesBack_of_joining` — every stop that waits for a loop goes on after finitely many
  steps.
-/

namespace World

variable {w w' w'' : World} {id other loop : Nat} {task task' : Task} {acting : Option Nat}

/-! ### Commands -/

/-- Is this the turn of a task that carries out commands, while the loops go on? -/
structure ScriptTurn (w : World) (id : Nat) : Prop where
  knows : w.KnowsLoop
  script : ∃ task, w.tasks[id]? = some task ∧ task.role.kind = .commands
  loops : ∀ {other task}, w.tasks[other]? = some task → task.role.kind = .loop →
    w.Proceeds other task

namespace ScriptTurn

/-- The task of the turn carries out commands. -/
theorem kind (h : w.ScriptTurn id) (htask : w.tasks[id]? = some task) :
    task.role.kind = .commands := by
  obtain ⟨found, hfound, hkind⟩ := h.script
  obtain rfl := Option.some.inj (hfound.symm.trans htask)
  exact hkind

/-- The turn of a task goes on. -/
theorem keeps (h : w.ScriptTurn id) (hkeeps : Keeps (some id) w w') : w'.ScriptTurn id := by
  obtain ⟨task, htask, hscript⟩ := h.script
  obtain ⟨own, hown, hkind⟩ := hkeeps.kind htask
  refine ⟨hkeeps.knows h.knows, ⟨own, hown, hkind.trans hscript⟩,
    fun {other task'} htask' hother => ?_⟩
  have hacting : some id ≠ some other := by
    rintro ⟨⟩
    obtain rfl := Option.some.inj (hown.symm.trans htask')
    rw [hkind, hscript] at hother
    cases hother
  cases hbefore : w.tasks[other]? with
  | none =>
    obtain ⟨hphase, hready⟩ := hkeeps.begun hacting hbefore htask'
    exact .inr ⟨hphase, .inr hready⟩
  | some before =>
    obtain ⟨found, hfound, halike⟩ := hkeeps.others hacting hbefore
    obtain rfl := Option.some.inj (hfound.symm.trans htask')
    exact hkeeps.proceeds hacting (h.loops hbefore (halike.kind.symm.trans hother)) halike

/-- A script that waits, but for no loop, is sure to go on. -/
theorem rests (h : w.ScriptTurn id) {activity : Activity}
    (hphase : ∀ loop, activity.phase ≠ .joining loop) : (w.setActivity id activity).Rests id := by
  intro task' htask'
  obtain ⟨task, htask, rfl⟩ := exists_of_modify htask'
  have hkind : task.role.kind ≠ .loop := h.kind htask ▸ nofun
  exact goesOn_of_busy hkind hphase

/-- The loop that was started last is another task, and is sure to go on. -/
theorem lastLoop (h : w.ScriptTurn id) (hloop : w.loop = some loop) :
    id ≠ loop ∧ ∃ task, w.tasks[loop]? = some task ∧ task.role.kind = .loop ∧
      w.Proceeds loop task := by
  obtain ⟨task, htask, hkind⟩ := h.knows loop hloop
  refine ⟨?_, task, htask, hkind, h.loops htask hkind⟩
  rintro rfl
  rw [h.kind htask] at hkind
  cases hkind

end ScriptTurn

/-- Does a task give way?  The others are spared, and the task is sure to go on. -/
def Yields (id : Nat) (w w' : World) : Prop := Spares (some id) w w' ∧ w'.Rests id

/-- What does a command come to?  The others are spared, and a task that has to wait gives way. -/
def Leaves (id : Nat) (w : World) : Progress → Prop
  | (w', some _) => Spares (some id) w w'
  | (w', none) => Yields id w w'

/-- What does a flush come to? -/
def Hands (id : Nat) (w : World) : World × Bool → Prop
  | (w', true) => Spares (some id) w w'
  | (w', false) => Yields id w w'

/-- A task gives way after a change that spares the others. -/
theorem Yields.after (h : Yields id w' w'') (hspares : Spares (some id) w w') :
    Yields id w w'' := ⟨hspares.trans h.1, h.2⟩

/-- What a command comes to after a change that spares the others. -/
theorem Leaves.after {progress : Progress} (h : Leaves id w' progress)
    (hspares : Spares (some id) w w') : Leaves id w progress := by
  obtain ⟨w'', _ | result⟩ := progress
  · exact Yields.after h hspares
  · exact hspares.trans h

/-- The others are spared until the result of a command is reported. -/
theorem Leaves.report {result : Result} (h : Leaves id w (w', some result)) :
    Spares (some id) w (w'.report result) := Spares.trans h (.same rfl rfl rfl)

/-- After the report of a command the turn goes on. -/
theorem Leaves.scriptTurn {result : Result} (h : Leaves id w (w', some result))
    (hturn : w.ScriptTurn id) : (w'.report result).ScriptTurn id := hturn.keeps h.report.toKeeps

/-- What a flush comes to after a change that spares the others. -/
theorem Hands.after {progress : World × Bool} (h : Hands id w' progress)
    (hspares : Spares (some id) w w') : Hands id w progress := by
  obtain ⟨w'', _ | _⟩ := progress
  · exact Yields.after h hspares
  · exact hspares.trans h

/-- A flush as a command. -/
theorem Hands.leaves {progress : World × Bool} (h : Hands id w progress) :
    Leaves id w (doneIf progress) := by
  obtain ⟨w', _ | _⟩ := progress <;> exact h

/-- A task that waits for a time to come gives way. -/
theorem yields_sleep (w : World) (id : Nat) {activity : Activity} (hphase : activity.phase = .going)
    (seconds : Number) : Yields id w ((w.setActivity id activity).sleep id seconds) :=
  ⟨(Spares.setActivity w id activity).trans (.sleep _ id seconds), rests_sleep w id hphase seconds⟩

/-- A task that ends gives way. -/
theorem yields_finish (w : World) (id : Nat) (fault : Option Fault) :
    Yields id w (w.finish id fault) := ⟨.finish w id fault, rests_finish w id fault⟩

/-- The end of the handing over of a match. -/
theorem spares_settle (w : World) (first : Match) (reception : Reception) :
    Spares acting w (w.settle first reception) := by
  unfold settle
  split
  · exact .changed w _ _
  · exact .same rfl rfl rfl

/-- A batch is handed over. -/
theorem hands_hand (w : World) (id : Nat) (batch : List Match) : Hands id w (w.hand id batch) := by
  induction batch generalizing w with
  | nil => exact .refl w
  | cons first rest ih =>
    let offered := w.monitor.offer w.clock (first :: rest)
    have hoffered : Spares (some id) w (({ w with monitor := offered.value.2 } : World).note
        offered.steps) := .changed w _ _
    unfold hand
    simp only
    split
    · exact hoffered
    · have hcalled := hoffered.trans (.nextReception _)
      split
      · exact (yields_sleep _ id rfl _).after hcalled
      · exact (ih _).after (hcalled.trans (spares_settle _ first _))

/-- A flush. -/
theorem hands_flush (w : World) (id : Nat) : Hands id w (w.flush id) :=
  (hands_hand _ id _).after (.changed w _ _)

/-- A flush goes on. -/
theorem hands_handOn (w : World) (id : Nat) (reception : Reception) (batch : List Match) :
    Hands id w (w.handOn id reception batch) := by
  cases batch with
  | nil => exact Spares.refl w
  | cons first rest => exact (hands_hand _ id rest).after (spares_settle w first reception)

/-- The rounds of an evaluation. -/
theorem leaves_nextRound (h : w.ScriptTurn id) (session : Session) (found : List Verdict)
    (rounds : List (List Probe)) : Leaves id w (w.nextRound id session found rounds) := by
  induction rounds with
  | nil => exact Spares.changed w _ _
  | cons round rest ih =>
    cases round with
    | nil => exact ih
    | cons probe probes =>
      have hspawned : Spares (some id) w (w.spawnAll ((probe :: probes).map (.probe id))) :=
        .spawnAll w _
      exact ⟨hspawned.trans (.setActivity _ id _), (h.keeps hspawned.toKeeps).rests nofun⟩

/-- A start. -/
theorem leaves_startSession (h : w.ScriptTurn id) (session : Session) (user : User)
    (now : Timestamp) : Leaves id w (w.startSession id session user now) := by
  have hregistered : Spares (some id) w (w.absorb (w.monitor.register session user now)) :=
    .changed w _ _
  unfold startSession
  simp only
  split
  · exact hregistered
  · exact (leaves_nextRound (h.keeps hregistered.toKeeps) _ _ _).after hregistered

/-! ### Stops -/

/-- A stop goes on when the loop has ended. -/
theorem leaves_afterLoop (w : World) (id loop : Nat) : Leaves id w (w.afterLoop id loop) := by
  unfold afterLoop
  split
  · exact Spares.refl w
  · exact (hands_flush w id).leaves

/-- A task that is not over has not ended. -/
theorem phase_of_not_isOver (htask : w.tasks[id]? = some task) (h : w.isOver id ≠ true) :
    task.activity.phase ≠ .ended := by
  intro hended
  apply h
  unfold isOver
  rw [htask, Option.map_some]
  cases hactivity : task.activity with
  | fresh | pausing | evaluating | handing | joining | gathering =>
    rw [hactivity] at hended
    cases hended
  | _ => rfl

/-- A task that proceeds and is asked to end has its turn. -/
theorem cancelled_cancel (hcomes : task.timer.isSome = true ∨ .resume id ∈ w.ready)
    (htask : w.tasks[id]? = some task) :
    (w.cancel id).tasks[id]? = some { task with timer := none, cancelled := true } ∧
      .resume id ∈ (w.cancel id).ready := by
  unfold cancel
  simp only [htask]
  split
  · exact ⟨tasks_modify_self htask _, List.mem_append_right _ (List.mem_singleton_self _)⟩
  · rename_i htimer
    exact ⟨tasks_modify_self htask _, hcomes.resolve_left htimer⟩

/-- A stop that has asked the loop to end gives way. -/
theorem yields_ask (h : w.ScriptTurn id) (hloop : w.loop = some loop)
    (hgoing : w.isOver loop ≠ true) :
    Yields id w (((w.cancel loop).modify loop fun task =>
      { task with waiters := task.waiters ++ [id] }).setActivity id (.joining loop)) := by
  have hasked : Spares (some id) w ((w.cancel loop).modify loop fun task =>
      { task with waiters := task.waiters ++ [id] }) :=
    (Spares.cancel w loop).trans
      (.modify fun task _ => ⟨rfl, rfl, .inl, fun h => h, List.subset_append_left _ _⟩)
  refine ⟨hasked.trans (.setActivity _ id _), fun waiting hwaiting => ?_⟩
  obtain ⟨before, hbefore, rfl⟩ := exists_of_modify hwaiting
  have hscript := (h.keeps hasked.toKeeps).kind hbefore
  refine ⟨fun hother => ?_, fun joined hjoined => ⟨hscript, ?_⟩⟩
  · rw [hscript] at hother
    cases hother
  cases hjoined
  obtain ⟨hne, task, htask, hkind, hproceeds⟩ := h.lastLoop hloop
  have hphase := phase_of_not_isOver htask hgoing
  obtain ⟨hcancelled, hready⟩ := cancelled_cancel (hproceeds.resolve_left hphase).2 htask
  exact ⟨_, (tasks_modify_of_ne hne _).trans (tasks_modify_self hcancelled _), hkind,
    .inr ⟨hphase, rfl, List.mem_append_right _ (List.mem_singleton_self _), hready⟩⟩

/-- A stop. -/
theorem leaves_stopLoop (h : w.ScriptTurn id) : Leaves id w (w.stopLoop id) := by
  have hstopped : Spares (some id) w { w with running := false } := .same rfl rfl rfl
  unfold stopLoop
  simp only
  split
  · exact ((hands_flush _ id).after hstopped).leaves
  · rename_i loop hloop
    split
    · exact (leaves_afterLoop _ id loop).after hstopped
    · rename_i hgoing
      exact (yields_ask (h.keeps hstopped.toKeeps) hloop hgoing).after hstopped

/-- A loop is started. -/
theorem spares_startLoop (w : World) : Spares (some id) w w.startLoop := by
  have hspawned : Spares (some id)
      ({ w with running := true, loop := some w.tasks.size } : World) w.startLoop := .spawn _ .loop
  refine ⟨⟨hspawned.ready, hspawned.others, hspawned.own, hspawned.begun, fun hloop => .inr ?_⟩,
    hspawned.order⟩
  obtain rfl := Option.some.inj hloop
  exact ⟨_, Array.getElem?_push_size, rfl⟩

/-! ### Scripts -/

/-- An operation that needs a time. -/
theorem leaves_timed (given : Option Timestamp) {act : Timestamp → Progress}
    (hact : ∀ now, Leaves id w (act now)) : Leaves id w (w.timed given act) := by
  unfold timed
  split
  · exact hact _
  · exact Spares.refl w

/-- A command begins. -/
theorem leaves_begin (h : w.ScriptTurn id) (command : Command) :
    Leaves id w (w.begin id command) := by
  cases command with
  | startSession session user now => exact leaves_timed now (leaves_startSession h session user)
  | update sessionId stateName position now =>
    exact leaves_timed now fun now => Spares.changed w _ _
  | stopSession sessionId stoppedAt forced =>
    exact leaves_timed stoppedAt fun t => Spares.changed w _ _
  | sweep now => exact leaves_timed now fun now => Spares.changed w _ _
  | setRules rules => exact Spares.same rfl rfl rfl
  | flush => exact (hands_flush w id).leaves
  | start => exact spares_startLoop w
  | stop => exact leaves_stopLoop h
  | pause seconds =>
    unfold begin
    simp only
    split
    · exact yields_sleep w id rfl _
    · exact Spares.refl w
  | together commands =>
    simp only [begin, beginAll]
    split
    · exact Spares.refl w
    · have hspawned : Spares (some id) w (w.spawnAll (commands.mapIdx fun slot command =>
          .branch id slot command)) := .spawnAll w _
      exact ⟨hspawned.trans (.setActivity _ id _), (h.keeps hspawned.toKeeps).rests nofun⟩
  | malformed issues => exact Spares.refl w

/-- A command goes on that had to wait. -/
theorem leaves_resumeCommand (h : w.ScriptTurn id) (htask : w.tasks[id]? = some task) :
    Leaves id w (w.resumeCommand id task.activity) := by
  have hidle : (∀ loop, task.activity.phase ≠ .joining loop) → Yields id w w := by
    refine fun hphase => ⟨.refl w, fun own hown => ?_⟩
    obtain rfl := Option.some.inj (htask.symm.trans hown)
    exact goesOn_of_busy (h.kind htask ▸ nofun) hphase
  cases hactivity : task.activity with
  | evaluating session found rounds left => exact leaves_nextRound h session found rounds
  | handing batch reception => exact (hands_handOn w id reception batch).leaves
  | joining loop => exact leaves_afterLoop w id loop
  | pausing | gathering => exact Spares.refl w
  | _ => exact hidle (hactivity ▸ nofun)

/-- A script goes on. -/
theorem yields_runScript (h : w.ScriptTurn id) (commands : List Command) :
    Yields id w (w.runScript id commands) := by
  induction commands generalizing w with
  | nil => exact yields_finish w id none
  | cons command rest ih =>
    have hbegun := leaves_begin h command
    unfold runScript
    split
    · rename_i w' result hprogress
      rw [hprogress] at hbegun
      exact (ih (hbegun.scriptTurn h)).after hbegun.report
    · rename_i w' hprogress
      rw [hprogress] at hbegun
      obtain ⟨hspares, hrests⟩ := hbegun
      have hturn := h.keeps hspares.toKeeps
      have hleft : Spares (some id) w' (w'.modify id fun task =>
          { task with role := .script rest }) :=
        .modifyOwn fun task htask => (hturn.kind htask).symm
      refine ⟨hspares.trans hleft, fun task' htask' => ?_⟩
      obtain ⟨task, htask, rfl⟩ := exists_of_modify htask'
      refine ⟨nofun, fun loop hjoins => ⟨rfl, ?_⟩⟩
      obtain ⟨_, hexpects⟩ := (hrests task htask).stops loop hjoins
      refine hleft.toKeeps.expects (fun hready => hready) ?_ hexpects
      -- What it waits for is a loop, and it is none itself.
      rintro ⟨⟩
      obtain ⟨found, hfound, hkind, _⟩ := hexpects
      rw [hturn.kind hfound] at hkind
      cases hkind

/-- A branch ends with its command. -/
theorem yields_closeBranch {progress : Progress} (h : Leaves id w progress) (parent slot : Nat) :
    Yields id w (closeBranch id parent slot progress) := by
  obtain ⟨w', _ | result⟩ := progress
  · exact h
  · have hended := (Spares.collect w' parent slot result).trans (.finish _ id none)
    exact ⟨Spares.trans h (hended.trans (.queue _ (.childOver parent))),
      fun task htask => goesOn_of_ended (phase_finish (w := w'.collect parent slot result) htask)⟩

/-! ### Loops and probes -/

/-- A round of a loop begins, or the loop ends. -/
theorem yields_loopRound (w : World) (id : Nat) : Yields id w (w.loopRound id) := by
  unfold loopRound
  split
  · exact yields_sleep w id rfl _
  · exact yields_finish w id none

/-- The sweep of a round. -/
theorem yields_loopSweep (w : World) (id : Nat) : Yields id w (w.loopSweep id) := by
  unfold loopSweep
  split
  · exact yields_finish w id _
  · rename_i now _
    have hswept : Spares (some id) w (w.absorb (w.monitor.sweep now)) := .changed w _ _
    simp only
    split
    · exact (yields_loopRound _ id).after hswept
    · exact (yields_finish _ id _).after hswept

/-- What follows on the flush of a round. -/
theorem yields_afterFlush {progress : World × Bool} (h : Hands id w progress) :
    Yields id w (afterFlush id progress) := by
  obtain ⟨w', _ | _⟩ := progress
  · exact h
  · exact (yields_loopSweep w' id).after h

/-- The turn of a loop that has not ended. -/
theorem yields_resumeLoop (w : World) (id : Nat) {activity : Activity}
    (hphase : activity.phase = .going) : Yields id w (w.resumeLoop id activity) := by
  cases activity with
  | fresh => exact yields_loopRound w id
  | pausing => exact yields_afterFlush (hands_flush w id)
  | handing batch reception => exact yields_afterFlush (hands_handOn w id reception batch)
  | _ => cases hphase

/-- A loop that is interrupted ends, and wakes those that wait for it. -/
theorem yields_interruptLoop (htask : w.tasks[id]? = some task) (activity : Activity) :
    Yields id w (w.interruptLoop id activity) ∧
      (∀ task', (w.interruptLoop id activity).tasks[id]? = some task' →
        task'.activity.phase = .ended) ∧
      ∀ other ∈ task.waiters, .resume other ∈ (w.interruptLoop id activity).ready := by
  have hends : ∀ {ended : World}, ended.tasks = w.tasks → Spares (some id) w ended →
      Yields id w (ended.finish id none) ∧
        (∀ task', (ended.finish id none).tasks[id]? = some task' →
          task'.activity.phase = .ended) ∧
        ∀ other ∈ task.waiters, .resume other ∈ (ended.finish id none).ready :=
    fun hsame hspares => ⟨(yields_finish _ id none).after hspares, fun _ h => phase_finish h,
      fun _ hwaits => woken_finish (hsame ▸ htask) hwaits none⟩
  unfold interruptLoop
  split
  · refine hends ?_ (.changed w _ _)
    rw [note_eq]
  · exact hends rfl (.refl w)

/-- A probe ends. -/
theorem yields_closeProbe (w : World) (id parent : Nat) (probe : Probe) :
    Yields id w (w.closeProbe id parent probe) := by
  have hnoted : Spares (some id) w (w.note (probe.notices.map .rule)) := .note w _
  have hended := hnoted.trans (.finish _ id none)
  exact ⟨hended.trans (.queue _ (.childOver parent)),
    fun task htask => goesOn_of_ended (phase_finish (w := w.note _) htask)⟩

/-- The turn of a probe, which waits for no loop. -/
theorem yields_resumeProbe (w : World) (id parent : Nat) (probe : Probe) {activity : Activity}
    (hrests : w.Rests id) : Yields id w (w.resumeProbe id parent probe activity) := by
  cases activity with
  | fresh =>
    have hcalled : Spares (some id) w
        (if probe.called then w.happened (.called probe.condition) else w) := by
      split <;> exact .same rfl rfl rfl
    unfold resumeProbe
    simp only
    split
    · exact (yields_sleep _ id rfl _).after hcalled
    · exact (yields_closeProbe _ id parent probe).after hcalled
  | pausing => exact yields_closeProbe w id parent probe
  | _ => exact ⟨.refl w, hrests⟩

/-- The turn of a loop.  One that is asked to end ends, and one that has ended stays so. -/
theorem yields_loopTurn (htask : w.tasks[id]? = some task)
    (hphase : task.activity.phase = .ended ∨ task.activity.phase = .going) (cancelled : Bool) :
    let next :=
      if cancelled then w.interruptLoop id task.activity else w.resumeLoop id task.activity
    Yields id w next ∧
      (cancelled = true ∨ task.activity.phase = .ended →
        ∀ task', next.tasks[id]? = some task' → task'.activity.phase = .ended) ∧
      (cancelled = true → ∀ other ∈ task.waiters, .resume other ∈ next.ready) := by
  cases cancelled with
  | true =>
    obtain ⟨hyields, hends, hwakes⟩ := yields_interruptLoop htask task.activity
    exact ⟨hyields, fun _ => hends, fun _ => hwakes⟩
  | false =>
    simp only [Bool.false_eq_true, if_false, false_or, false_implies, and_true]
    obtain hended | hgoing := hphase
    · -- A turn may still be queued for a loop that has ended, and it comes to nothing.
      have hsame : w.resumeLoop id task.activity = w := by
        cases hactivity : task.activity with
        | fresh | pausing | handing | evaluating | joining | gathering =>
          rw [hactivity] at hended
          cases hended
        | _ => rfl
      have hstill : ∀ task', w.tasks[id]? = some task' → task'.activity.phase = .ended := by
        intro task' htask'
        obtain rfl := Option.some.inj (htask.symm.trans htask')
        exact hended
      rw [hsame]
      exact ⟨⟨.refl w, fun task' htask' => goesOn_of_ended (hstill task' htask')⟩, fun _ => hstill⟩
    · refine ⟨yields_resumeLoop w id hgoing, fun hended => ?_⟩
      rw [hgoing] at hended
      cases hended

/-- The turn of a script. -/
theorem yields_scriptTurn (h : w.ScriptTurn id) (htask : w.tasks[id]? = some task)
    (commands : List Command) :
    Yields id w (match task.activity with
      | .fresh => w.runScript id commands
      | activity =>
        match w.resumeCommand id activity with
        | (w, some result) => (w.report result).runScript id commands
        | (w, none) => w) := by
  have hresumed := leaves_resumeCommand h htask
  split
  · exact yields_runScript h commands
  · split
    · rename_i w' result hprogress
      rw [hprogress] at hresumed
      exact (yields_runScript (hresumed.scriptTurn h) commands).after hresumed.report
    · rename_i w' hprogress
      rw [hprogress] at hresumed
      exact hresumed

/-! ### Turns -/

/-- The world in the turn of a task, which is not asked to end any more. -/
def taking (w : World) (id : Nat) (rest : List Wake) : World :=
  ({ w with ready := rest } : World).modify id fun task => { task with cancelled := false }

/-- What does a step come to that takes what is first in the order? -/
structure Advances (w next : World) (wake : Wake) (rest : List Wake) : Prop where
  orderly : next.Orderly
  order : rest <+: next.ready
  others : ∀ {id task}, wake ≠ .resume id → w.tasks[id]? = some task →
    ∃ task', next.tasks[id]? = some task' ∧ task'.activity.phase = task.activity.phase
  ends : ∀ {id task}, wake = .resume id → w.tasks[id]? = some task → task.role.kind = .loop →
    task.cancelled = true → ∀ task', next.tasks[id]? = some task' → task'.activity.phase = .ended

section
variable {next : World} {rest : List Wake}

/-- A task is taken whose turn it is. -/
theorem keeps_pop (hready : w.ready = .resume id :: rest) :
    Keeps (some id) w { w with ready := rest } := by
  refine .pop hready fun other hother => ?_
  rintro ⟨⟩
  exact hother rfl

/-- In its turn a task leaves the others as they were. -/
theorem keeps_taking (hready : w.ready = .resume id :: rest) :
    Keeps (some id) w (w.taking id rest) := by
  have hreset : Spares (some id) { w with ready := rest } (w.taking id rest) :=
    .modifyOwn fun _ _ => rfl
  exact (keeps_pop hready).trans hreset.toKeeps

/-- In its turn a task carries out its commands. -/
theorem scriptTurn_taking (h : w.Orderly) (hready : w.ready = .resume id :: rest)
    (htask : w.tasks[id]? = some task) (hkind : task.role.kind = .commands) :
    (w.taking id rest).ScriptTurn id := by
  have hturn : w.ScriptTurn id :=
    ⟨h.knows, ⟨task, htask, hkind⟩, fun hother => (h.rests _ _ hother).rounds⟩
  exact hturn.keeps (keeps_taking hready)

/-- A turn in which the acting task gives way, and wakes those that wait for it if it is a loop that
    ends. -/
theorem advances_of_yields (h : w.Orderly) (hready : w.ready = .resume id :: rest)
    (htask : w.tasks[id]? = some task) (hyields : Yields id (w.taking id rest) next)
    (hloop : task.role.kind = .loop →
      (task.cancelled = true ∨ task.activity.phase = .ended →
        ∀ task', next.tasks[id]? = some task' → task'.activity.phase = .ended) ∧
      (task.cancelled = true → ∀ other ∈ task.waiters, .resume other ∈ next.ready)) :
    Advances w next (.resume id) rest := by
  obtain ⟨hspares, hrests⟩ := hyields
  have hkeeps : Keeps (some id) w next := (keeps_taking hready).trans hspares.toKeeps
  refine ⟨hkeeps.orderly h ?_ ?_, hspares.order, ?_, ?_⟩
  · rintro _ ⟨⟩
    exact hrests
  · rintro _ other waiting ⟨⟩ hother hwaiting hjoins
    -- Who waits for the acting task waits for a loop that is over now.
    obtain ⟨_, found, hfound, hkind, hcomes⟩ := (h.rests other waiting hwaiting).stops id hjoins
    obtain rfl := Option.some.inj (htask.symm.trans hfound)
    obtain ⟨hends, hwakes⟩ := hloop hkind
    obtain ⟨task', htask', hkind'⟩ := hkeeps.kind htask
    refine ⟨task', htask', hkind'.trans hkind, .inl ?_⟩
    have hne : some id ≠ some other := fun hsame => hother (Option.some.inj hsame).symm
    obtain ⟨hended, hturn⟩ | ⟨_, hcancelled, hwaits, _⟩ := hcomes
    · exact ⟨hends (.inr hended) task' htask', hkeeps.ready hne hturn⟩
    · exact ⟨hends (.inl hcancelled) task' htask', hwakes hcancelled other hwaits⟩
  · intro other before hother hbefore
    have hne : some id ≠ some other := by
      rintro ⟨⟩
      exact hother rfl
    obtain ⟨after, hafter, halike⟩ := hkeeps.others hne hbefore
    exact ⟨after, hafter, halike.phase⟩
  · rintro _ found ⟨⟩ hfound hkind hcancelled
    obtain rfl := Option.some.inj (htask.symm.trans hfound)
    exact (hloop hkind).1 (.inl hcancelled)

/-- The turn of nobody. -/
theorem advances_of_nobody (h : w.Orderly) (hready : w.ready = .resume id :: rest)
    (hnobody : w.tasks[id]? = none) : Advances w { w with ready := rest } (.resume id) rest := by
  have hnone : ∀ task, w.tasks[id]? ≠ some task := fun task => hnobody ▸ nofun
  refine ⟨(keeps_pop hready).orderly h ?_ ?_, List.prefix_refl _,
    fun _ hfound => ⟨_, hfound, rfl⟩, ?_⟩
  · rintro _ ⟨⟩ found hfound
    exact absurd hfound (hnone found)
  · rintro _ other waiting ⟨⟩ _ hwaiting hjoins
    obtain ⟨_, found, hfound, _⟩ := (h.rests other waiting hwaiting).stops id hjoins
    exact absurd hfound (hnone found)
  · rintro _ found ⟨⟩ hfound
    exact absurd hfound (hnone found)

/-- The turn of a task. -/
theorem advances_resume (h : w.Orderly) (hready : w.ready = .resume id :: rest) :
    Advances w (({ w with ready := rest } : World).resume id) (.resume id) rest := by
  unfold resume
  cases htask : w.tasks[id]? with
  | none => exact advances_of_nobody h hready htask
  | some task =>
    have hown : (w.taking id rest).tasks[id]? = some { task with cancelled := false } :=
      tasks_modify_self htask _
    have hgoesOn := h.rests id task htask
    have hscript := scriptTurn_taking h hready htask
    have hadvances : task.role.kind ≠ .loop → ∀ {next}, Yields id (w.taking id rest) next →
        Advances w next (.resume id) rest := fun hkind _ hyields =>
      advances_of_yields h hready htask hyields fun hloop => absurd hloop hkind
    simp only
    cases hrole : task.role with
    | script commands =>
      rw [hrole] at hscript hadvances
      exact hadvances nofun (yields_scriptTurn (hscript rfl) hown commands)
    | branch parent slot command =>
      rw [hrole] at hscript hadvances
      apply hadvances nofun
      simp only
      split
      · exact yields_closeBranch (leaves_begin (hscript rfl) command) parent slot
      · exact yields_closeBranch (leaves_resumeCommand (hscript rfl) hown) parent slot
    | loop =>
      have hphase := (hgoesOn.rounds (by rw [hrole]; rfl)).imp_right And.left
      obtain ⟨hyields, hends, hwakes⟩ := yields_loopTurn hown hphase task.cancelled
      exact advances_of_yields h hready htask hyields fun _ => ⟨hends, hwakes⟩
    | probe parent probe =>
      have hkind : task.role.kind = .probe := by rw [hrole]; rfl
      refine hadvances (hkind ▸ nofun) (yields_resumeProbe _ id parent probe fun own hfound => ?_)
      have hother : task.role.kind ≠ .loop := hkind ▸ nofun
      obtain rfl := Option.some.inj (hown.symm.trans hfound)
      -- Only tasks that carry out commands wait for a loop.
      refine goesOn_of_busy hother fun loop hjoins => ?_
      have hcommands := (hgoesOn.stops loop hjoins).1
      rw [hkind] at hcommands
      cases hcommands

/-- A step that takes no turn of a task. -/
theorem advances_of_spares {wake : Wake} (h : w.Orderly) (hready : w.ready = wake :: rest)
    (hwake : ∀ id, wake ≠ .resume id) (hspares : Spares none { w with ready := rest } next) :
    Advances w next wake rest := by
  have hkeeps : Keeps none w next :=
    (Keeps.pop hready fun id _ => hwake id).trans hspares.toKeeps
  refine ⟨hkeeps.orderly h nofun nofun, hspares.order, fun {id task} _ htask => ?_,
    fun {id task} hsame => absurd hsame (hwake id)⟩
  obtain ⟨task', htask', halike⟩ := hkeeps.others nofun htask
  exact ⟨task', htask', halike.phase⟩

end

/-- A timer that runs out gives its task a turn. -/
theorem spares_fire (w : World) (id number : Nat) : Spares acting w (w.fire id number) := by
  unfold fire
  split
  · exact .refl w
  · split
    · -- Whether the turn is queued before or after the change makes no difference.
      have hcomes : .resume id ∈ (w.queue (.resume id)).ready :=
        List.mem_append_right _ (List.mem_singleton_self _)
      have hfired : Spares acting (w.queue (.resume id)) ((w.queue (.resume id)).modify id
          fun task => { task with timer := none }) :=
        .modify fun task _ => ⟨rfl, rfl, fun _ => .inr hcomes, fun h => h, List.Subset.refl _⟩
      exact (Spares.queue w (.resume id)).trans hfired
    · exact .refl w

/-- The end of a task counts for another one that waits for it. -/
theorem spares_childOver (w : World) (parent : Nat) : Spares acting w (w.childOver parent) := by
  unfold childOver
  cases htask : w.tasks[parent]? with
  | none => exact .refl w
  | some task =>
    have hcounted : Spares acting w (w.setActivity parent (countDown task.activity)) := by
      refine .modify fun found hfound => ⟨rfl, ?_, .inl, fun h => h, List.Subset.refl _⟩
      obtain rfl := Option.some.inj (htask.symm.trans hfound)
      simp only
      cases task.activity <;> rfl
    simp only
    split
    · exact hcounted.trans (.queue _ _)
    · exact hcounted

/-! ### Steps -/

/-- **A step takes what is first in the order**, and leaves a world orderly. -/
theorem advances_step {wake : Wake} {rest : List Wake} (h : w.Orderly)
    (hready : w.ready = wake :: rest) : ∃ next, w.step = some next ∧ Advances w next wake rest := by
  refine ⟨({ w with ready := rest } : World).take wake, by simp only [step, hready], ?_⟩
  cases wake with
  | resume id => exact advances_resume h hready
  | fire id number => exact advances_of_spares h hready nofun (spares_fire _ id number)
  | childOver parent => exact advances_of_spares h hready nofun (spares_childOver _ parent)

/-- A step leaves a world orderly. -/
theorem orderly_step {next : World} (h : w.Orderly) (hstep : w.step = some next) :
    next.Orderly := by
  cases hready : w.ready with
  | cons wake rest =>
    obtain ⟨found, hfound, hadvances⟩ := advances_step h hready
    obtain rfl := Option.some.inj (hfound.symm.trans hstep)
    exact hadvances.orderly
  | nil =>
    unfold step at hstep
    simp only [hready] at hstep
    obtain ⟨timer, _, rfl⟩ := Option.map_eq_some_iff.mp hstep
    have hkeeps : Keeps none w (w.moveTime timer) := by
      refine ⟨fun _ hmem => ?_, fun _ htask => ⟨_, htask, .refl _ _ _⟩,
        fun _ htask => ⟨_, htask, rfl⟩, fun _ hnone hsome => ?_, .inl⟩
      · rw [hready] at hmem
        exact absurd hmem List.not_mem_nil
      · exact absurd (hnone.symm.trans hsome) nofun
    exact hkeeps.orderly h nofun nofun

/-- Steps leave a world orderly, however many they are. -/
theorem orderly_run (h : w.Orderly) (fuel : Nat) : (w.run fuel).Orderly := by
  induction fuel generalizing w with
  | zero => exact h
  | succ fuel ih =>
    unfold run
    split
    · exact h
    · split
      · rename_i next hstep
        exact ih (orderly_step h hstep)
      · exact h

/-- Before the first command of a script there is no loop and no stop. -/
theorem orderly_fresh (monitor : Monitor Number) (registry : Registry)
    (receptions : List Reception) (wallStart : Moment) (script : List Command) :
    (fresh monitor registry receptions wallStart script).Orderly := by
  refine ⟨nofun, fun id task htask => ?_⟩
  obtain ⟨hid, rfl⟩ := Array.getElem?_eq_some_iff.mp htask
  obtain rfl : id = 0 := Nat.lt_one_iff.mp hid
  exact goesOn_of_busy nofun nofun

/-! ### Waiting for a turn -/

/-- Does a stop wait for a loop? -/
def Joining (w : World) (id loop : Nat) : Prop :=
  ∃ task, w.tasks[id]? = some task ∧ task.activity.phase = .joining loop

/-- Does a stop that waits have its turn after finitely many steps, unless the script is over before
    that? -/
def ComesBack (w : World) (id loop : Nat) : Prop :=
  ∃ n, (w.run n).isOver 0 = true ∨
    (w.run n).Joining id loop ∧ ∃ rest, (w.run n).ready = .resume id :: rest

/-- A stop whose turn it is not waits for one step more. -/
theorem joining_step {wake : Wake} {rest : List Wake} (h : w.Orderly) (hjoins : w.Joining id loop)
    (hready : w.ready = wake :: rest) (hwake : wake ≠ .resume id) (hgoing : w.isOver 0 ≠ true) :
    ∃ next, Advances w next wake rest ∧ next.Joining id loop ∧
      (next.ComesBack id loop → w.ComesBack id loop) := by
  obtain ⟨next, hstep, hadvances⟩ := advances_step h hready
  obtain ⟨task, htask, hphase⟩ := hjoins
  obtain ⟨task', htask', hphase'⟩ := hadvances.others hwake htask
  refine ⟨next, hadvances, ⟨task', htask', hphase'.trans hphase⟩, fun ⟨n, hn⟩ => ⟨n + 1, ?_⟩⟩
  have hnext : w.run (n + 1) = next.run n := by
    rw [run, if_neg hgoing, hstep]
  rw [hnext]
  exact hn

/-- A stop has its turn if it has it whenever something is first in the order that is ready by
    now. -/
theorem comesBack_of_mem {wake : Wake} (h : w.Orderly) (hjoins : w.Joining id loop)
    (hmem : wake ∈ w.ready) (hturn : ∀ {w' : World} {rest : List Wake}, w'.Orderly →
      w'.Joining id loop → w'.ready = wake :: rest → w'.ComesBack id loop) :
    w.ComesBack id loop := by
  obtain ⟨front, back, hready⟩ := List.append_of_mem hmem
  clear hmem
  -- What is in front of it gets shorter with each step, while more comes behind it.
  induction front generalizing w back with
  | nil => exact hturn h hjoins hready
  | cons first front ih =>
    by_cases hmine : first = .resume id
    · exact ⟨0, .inr ⟨hjoins, _, hmine ▸ hready⟩⟩
    · by_cases hends : w.isOver 0 = true
      · exact ⟨0, .inl hends⟩
      · obtain ⟨next, hadvances, hjoins', hback⟩ := joining_step h hjoins hready hmine hends
        obtain ⟨more, hmore⟩ := hadvances.order
        have hnext : next.ready = front ++ wake :: (back ++ more) :=
          hmore.symm.trans (List.append_assoc front _ more)
        exact hback (ih hadvances.orderly hjoins' _ hnext)

/-- A stop whose turn is to come has it. -/
theorem comesBack_of_ready (h : w.Orderly) (hjoins : w.Joining id loop)
    (hready : .resume id ∈ w.ready) : w.ComesBack id loop :=
  comesBack_of_mem h hjoins hready fun _ hjoins' hready' => ⟨0, .inr ⟨hjoins', _, hready'⟩⟩

/-- What a stop that waits for a loop can expect. -/
theorem expects_of_joining (h : w.Orderly) (hjoins : w.Joining id loop) :
    id ≠ loop ∧ w.Expects id loop := by
  obtain ⟨task, htask, hphase⟩ := hjoins
  obtain ⟨hkind, hexpects⟩ := (h.rests id task htask).stops loop hphase
  refine ⟨?_, hexpects⟩
  rintro rfl
  obtain ⟨found, hfound, hloop, _⟩ := hexpects
  obtain rfl := Option.some.inj (htask.symm.trans hfound)
  rw [hkind] at hloop
  cases hloop

/-- A stop has its turn after that of the loop, which ends in it. -/
theorem comesBack_of_turn (h : w.Orderly) (hjoins : w.Joining id loop) {rest : List Wake}
    (hready : w.ready = .resume loop :: rest) : w.ComesBack id loop := by
  by_cases hends : w.isOver 0 = true
  · exact ⟨0, .inl hends⟩
  · obtain ⟨hne, task, htask, hkind, ⟨_, hturn⟩ | ⟨_, hcancelled, _⟩⟩ := expects_of_joining h hjoins
    · exact comesBack_of_ready h hjoins hturn
    · have hwake : Wake.resume loop ≠ .resume id := fun hsame => hne (Wake.resume.inj hsame).symm
      obtain ⟨next, hadvances, hjoins', hback⟩ := joining_step h hjoins hready hwake hends
      obtain ⟨_, task', htask', _, ⟨_, hturn⟩ | ⟨hgoing, _⟩⟩ :=
        expects_of_joining hadvances.orderly hjoins'
      · exact hback (comesBack_of_ready hadvances.orderly hjoins' hturn)
      · exact absurd (hadvances.ends rfl htask hkind hcancelled task' htask') hgoing

/-- **Every stop that waits for a loop goes on** after finitely many steps, unless the script is
    over before that. -/
theorem comesBack_of_joining (h : w.Orderly) (hjoins : w.Joining id loop) :
    w.ComesBack id loop := by
  obtain ⟨_, _, _, _, ⟨_, hready⟩ | ⟨_, _, _, hready⟩⟩ := expects_of_joining h hjoins
  · exact comesBack_of_ready h hjoins hready
  · exact comesBack_of_mem h hjoins hready fun h' hjoins' hready' =>
      comesBack_of_turn h' hjoins' hready'

end World

end StreamWatch.Simulation
