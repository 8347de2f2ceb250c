import Mathlib.Tactic.IntervalCases
import StreamWatch.Proofs.Simulation.Faultless
import StreamWatch.Proofs.Simulation.Sequence

namespace StreamWatch.Simulation

/-!
# At most one loop

A start begins a loop whether or not there is one, and a stop ends the loop that was started last.
So there is at most one loop, and none after a stop, as long as no loop is started beside another
one.

* `World.AtMostOneLoop` — is at most one loop alive at every moment?
* `World.LoopTurn`, `World.StopsForGood` — the turns in which a loop flushes and sweeps, and whether
  there are none from the return of a stop to the next start;
* `World.oneLoop_iff_startsAlone` — both are so exactly if every start is made while no loop is
  alive, and that is so if there is a stop between any two starts.
-/

namespace World

variable {w : World} {script : List Command}

/-- Is at most one loop alive at every moment? -/
def AtMostOneLoop (w : World) : Prop := ∀ n, (w.run n).loopsAlive.length ≤ 1

/-- Is the turn of a loop next?  Only in its turn it flushes and sweeps. -/
def LoopTurn (w : World) (loop : Nat) : Prop :=
  ∃ task rest, w.tasks[loop]? = some task ∧ task.role.kind = .loop ∧ w.ready = .resume loop :: rest

/-- Is no loop alive, and has none a turn, from when a stop has returned until the next start? -/
def StopsForGood (script : List Command) (w : World) : Prop :=
  ∀ n, startedLast (script.take (w.run n).reports.length) = false →
    (w.run n).loopsAlive = [] ∧ ∀ loop, ¬ (w.run n).LoopTurn loop

/-- Only loops that are alive have turns. -/
theorem alive_of_loopTurn {loop : Nat} (h : w.Paced) (hturn : w.LoopTurn loop) :
    loop ∈ w.loopsAlive := by
  obtain ⟨task, rest, htask, hkind, hready⟩ := hturn
  exact mem_loopsAlive.mpr ⟨task, htask, hkind, h.going hready htask⟩

/-- Where no loop is alive none has a turn. -/
theorem idle_of_none (h : w.Paced) (hnone : w.loopsAlive = []) :
    w.loopsAlive = [] ∧ ∀ loop, ¬ w.LoopTurn loop :=
  ⟨hnone, fun _ hturn => List.not_mem_nil (hnone ▸ alive_of_loopTurn h hturn)⟩

/-- Where at most one loop is alive, every start begins while none is. -/
theorem startsAlone_of_atMostOneLoop (horderly : w.Orderly) (h : w.AtMostOneLoop) :
    w.StartsAlone := by
  intro n begun hbegun hstart
  by_contra hlive
  have htwo := two_le_of_begins (orderly_run horderly n) hbegun hstart hlive
  rw [← run_succ] at htwo
  exact Nat.not_succ_le_self 1 (Nat.le_trans htwo (h (n + 1)))

/-- **A loop is alive beside another one exactly if a start is made while one is alive.**  As long
    as no start is, no loop is alive that nobody wants: not when loops are not to go on and no stop
    waits for one.  In a script that starts and stops loops one after the other that is from the
    return of a stop until the next start, and with a stop between any two starts all of them are
    made while no loop is alive. -/
theorem oneLoop_iff_startsAlone (monitor : Monitor Number) (registry : Registry)
    (receptions : List Reception) (wallStart : Moment) (script : List Command) :
    let w := fresh monitor registry receptions wallStart script
    (w.AtMostOneLoop ↔ w.StartsAlone) ∧
    (w.StartsAlone → ∀ n, (w.run n).running = false →
      (∀ stop loop, ¬ (w.run n).Joining stop loop) →
        (w.run n).loopsAlive = [] ∧ ∀ loop, ¬ (w.run n).LoopTurn loop) ∧
    (Sequential script →
      (w.AtMostOneLoop ∧ w.StopsForGood script ↔ w.StartsAlone) ∧
      (StopsBetween script → w.AtMostOneLoop ∧ w.StopsForGood script)) := by
  intro w
  have horderly : w.Orderly := orderly_fresh ..
  have hpaced : w.Paced := paced_fresh ..
  have htended : w.Tended none := tended_fresh ..
  have hplaced : w.Placed script := placed_fresh ..
  have hone : w.StartsAlone → w.AtMostOneLoop := fun hstarts n =>
    (tended_run htended hpaced horderly hstarts n).length_le_one
  have hstops : Sequential script → w.StartsAlone → w.StopsForGood script := by
    intro hsequential hstarts n hstopped
    refine idle_of_none (paced_run hpaced horderly n) ?_
    -- A loop that is alive was started last, but the last command of the two was a stop.
    by_contra hlive
    have hstarted := (placed_run hsequential hplaced htended hpaced horderly hstarts n).started
      (tended_run htended hpaced horderly hstarts n) hlive
    rw [hstopped] at hstarted
    cases hstarted
  refine ⟨⟨startsAlone_of_atMostOneLoop horderly, hone⟩, fun hstarts n hrunning hnobody => ?_,
    fun hsequential => ⟨⟨fun h => startsAlone_of_atMostOneLoop horderly h.1,
      fun hstarts => ⟨hone hstarts, hstops hsequential hstarts⟩⟩, fun hbetween => ?_⟩⟩
  · refine idle_of_none (paced_run hpaced horderly n) ?_
    refine List.eq_nil_iff_forall_not_mem.mpr fun loop hloop => ?_
    obtain hgoing | ⟨stop, _, hjoins⟩ :=
      (tended_run htended hpaced horderly hstarts n).tended loop hloop
    · rw [hrunning] at hgoing
      cases hgoing
    · exact hnobody stop loop hjoins
  · have hstarts := startsAlone_of_stopsBetween hsequential hbetween hplaced htended hpaced horderly
    exact ⟨hone hstarts, hstops hsequential hstarts⟩

/-- An hour after the new year. -/
def anHourLater : Moment := .universal (Timestamp.currentFrom + 3600000000)

/-- A film has begun an hour ago, and the loop that finds it out is stopped and started again. -/
def stoppedBetween : List Command :=
  [.start, .startSession (atNewYear "film") Watch.ann (some newYear), .pause (.int 10), .stop,
    .pause (.int 60), .start, .pause (.int 40), .stop]

/-- Where nothing is begun side by side all is done one after the other. -/
theorem sequential_of_single (h : ∀ command ∈ script, ∀ commands, command ≠ .together commands) :
    Sequential script := by
  intro command hmem hsteers
  cases hsteers with
  | start => exact .inl rfl
  | stop => exact .inr rfl
  | within => exact absurd rfl (h _ hmem _)

/-- With a stop between the starts the film is swept when the second loop is there, and by no loop
    before. -/
theorem oneLoop_stoppedBetween :
    let w := fresh atHome .standard [] anHourLater stoppedBetween
    w.AtMostOneLoop ∧ w.StopsForGood stoppedBetween ∧
    ((w.run 1).loopsAlive, (w.run 11).loopsAlive, (w.run 12).loopsAlive) = ([1], [], [2]) ∧
    ((w.run 11).reports.length, (w.run 11).monitor.active.length) = (4, 1) ∧
    ((w.run 21).reports.length, (w.run 21).monitor.active.length) = (8, 0) := by
  intro w
  have hsequential : Sequential stoppedBetween :=
    sequential_of_single (by simp only [stoppedBetween, List.forall_mem_cons]; simp)
  have hbetween : StopsBetween stoppedBetween := by
    intro n hn
    have hsize : n < stoppedBetween.length := (List.getElem?_eq_some_iff.mp hn).choose
    have hlength : stoppedBetween.length = 8 := rfl
    rw [hlength] at hsize
    interval_cases n <;> first | rfl | cases hn
  obtain ⟨_, _, hscript⟩ := oneLoop_iff_startsAlone atHome .standard [] anHourLater stoppedBetween
  obtain ⟨hone, hstops⟩ := (hscript hsequential).2 hbetween
  exact ⟨hone, hstops, by decide +kernel, by decide +kernel, by decide +kernel⟩

/-- The same, but a second loop is started before the stop. -/
def startedTwice : List Command :=
  [.start, .start, .startSession (atNewYear "film") Watch.ann (some newYear), .pause (.int 10),
    .stop, .pause (.int 60)]

/-- Two loops are alive, the stop returns while one of them is, and that sweeps the film
    afterwards. -/
theorem not_oneLoop_startedTwice :
    let w := fresh atHome .standard [] anHourLater startedTwice
    Sequential startedTwice ∧ ¬ w.AtMostOneLoop ∧ ¬ w.StopsForGood startedTwice ∧
    ((w.run 1).loopsAlive, (w.run 8).loopsAlive) = ([1, 2], [1]) ∧
    ((w.run 8).reports.length, (w.run 8).monitor.active.length) = (5, 1) ∧
    ((w.run 12).reports.length, (w.run 12).monitor.active.length) = (5, 0) := by
  intro w
  have hlive : ((w.run 1).loopsAlive, (w.run 8).loopsAlive) = ([1, 2], [1]) := by decide +kernel
  have hfound : ((w.run 8).reports.length, (w.run 8).monitor.active.length) = (5, 1) := by
    decide +kernel
  obtain ⟨htwo, hone⟩ := Prod.mk.inj hlive
  refine ⟨sequential_of_single (by simp only [startedTwice, List.forall_mem_cons]; simp),
    fun h => ?_, fun h => ?_, hlive, hfound, by decide +kernel⟩
  · have hatMost := h 1
    rw [htwo] at hatMost
    exact absurd hatMost (by decide)
  · have hnone := (h 8 (by rw [(Prod.mk.inj hfound).1]; rfl)).1
    rw [hone] at hnone
    cases hnone

end World

end StreamWatch.Simulation
