import StreamWatch.Proofs.Simulation.View

namespace StreamWatch

open Simulation

/-!
# What a run of a monitor in use comes to

Each thing that a task of a simulation does with the monitor is a run of moves.

* `Reached` — some run comes to a monitor and to what its callers hold on to. Evaluations may
  have been abandoned; no batch is;
* `Reached.start`, `Reached.evaluated`, `Reached.report`, `Reached.stop`, `Reached.sweep`,
  `Reached.setRules` — operations that do not wait, and the two ends of a start;
* `Offerable` — a batch that a flush holds while it does not wait, which is then offered at
  some time;
* `Reached.flush`, `Reached.received`, `Reached.refused`, `Reached.interrupted` — the two ends
  of handing a match over.
-/

namespace Watch

variable {τ : Type}

/-- What the callers of a monitor hold on to. -/
def holdings (v : Watch τ) : List Holding :=
  v.flushes.map (fun flush => .batch flush.batch) ++ v.evaluations.map .evaluation

/-- An evaluation that is held on to is in a slot, and goes with it. -/
theorem evaluation_slot {v : Watch τ} {evaluation : Evaluation}
    (h : .evaluation evaluation ∈ v.holdings) :
    ∃ slot : Nat, v.evaluations[slot]? = some evaluation ∧
      v.holdings.Perm (.evaluation evaluation ::
        { v with evaluations := v.evaluations.eraseIdx slot }.holdings) := by
  rcases List.mem_append.mp h with hflush | hevaluation
  · obtain ⟨_, _, hbatch⟩ := List.mem_map.mp hflush
    cases hbatch
  · obtain ⟨_, hmem, hsame⟩ := List.mem_map.mp hevaluation
    cases hsame
    obtain ⟨slot, hslot⟩ := List.mem_iff_getElem?.mp hmem
    refine ⟨slot, hslot, ?_⟩
    have hothers := (slot_perm hslot).map Holding.evaluation
    exact (hothers.append_left _).trans List.perm_middle

/-- A batch that is held on to is that of a flush in a slot, and goes with it. -/
theorem flush_slot {v : Watch τ} {batch : List Match} (h : .batch batch ∈ v.holdings) :
    ∃ (slot : Nat) (flush : Flush), v.flushes[slot]? = some flush ∧ flush.batch = batch ∧
      v.holdings.Perm
        (.batch batch :: { v with flushes := v.flushes.eraseIdx slot }.holdings) := by
  rcases List.mem_append.mp h with hflush | hevaluation
  · obtain ⟨_, hmem, hsame⟩ := List.mem_map.mp hflush
    cases hsame
    obtain ⟨slot, hslot⟩ := List.mem_iff_getElem?.mp hmem
    refine ⟨slot, _, hslot, rfl, ?_⟩
    have hothers := (slot_perm hslot).map fun flush => Holding.batch flush.batch
    exact hothers.append_right _
  · obtain ⟨_, _, hsame⟩ := List.mem_map.mp hevaluation
    cases hsame

end Watch

/-- Does some run come to a monitor, while its callers hold on to these things, and maybe to
    evaluations that nobody waits for any more? -/
def Reached (v₀ : Watch Number) (registry : Registry) (m : Monitor Number)
    (held : List Holding) : Prop :=
  ∃ moves, (v₀.run registry moves).monitor = m ∧
    ∃ abandoned : List Evaluation,
      (v₀.run registry moves).holdings.Perm (held ++ abandoned.map .evaluation)

namespace Reached

variable {v₀ : Watch Number} {registry : Registry} {m m' : Monitor Number}
  {held held' : List Holding}

/-- Where a run comes to, others go on. -/
theorem goOn (h : Reached v₀ registry m held)
    (hmoves : ∀ (v : Watch Number) (abandoned : List Holding), v.monitor = m →
      v.holdings.Perm (held ++ abandoned) → ∃ moves, (v.run registry moves).monitor = m' ∧
        (v.run registry moves).holdings.Perm (held' ++ abandoned)) :
    Reached v₀ registry m' held' := by
  obtain ⟨moves, hmonitor, abandoned, hholdings⟩ := h
  obtain ⟨others, hmonitor', hholdings'⟩ := hmoves _ _ hmonitor hholdings
  refine ⟨moves ++ others, ?_, abandoned, ?_⟩
  · rw [Watch.run_append, hmonitor']
  · rw [Watch.run_append]
    exact hholdings'

/-- What is held on to has no order. -/
theorem perm (h : Reached v₀ registry m held) (hperm : held.Perm held') :
    Reached v₀ registry m held' := by
  obtain ⟨moves, hmonitor, abandoned, hholdings⟩ := h
  exact ⟨moves, hmonitor, abandoned, hholdings.trans (hperm.append_right _)⟩

/-- An evaluation may be abandoned. -/
theorem abandon {evaluation : Evaluation}
    (h : Reached v₀ registry m (.evaluation evaluation :: held)) : Reached v₀ registry m held := by
  obtain ⟨moves, hmonitor, abandoned, hholdings⟩ := h
  refine ⟨moves, hmonitor, evaluation :: abandoned, hholdings.trans ?_⟩
  exact List.perm_middle.symm

/-! ### Operations that do not wait -/

/-- A report on a session. -/
theorem report (h : Reached v₀ registry m held) (id : Datum) (stateName : String)
    (position : Datum) (now : Timestamp) :
    Reached v₀ registry (m.update id stateName position now).monitor held := by
  refine h.goOn fun v abandoned hmonitor hholdings => ?_
  subst hmonitor
  exact ⟨[.report id stateName position now], rfl, hholdings⟩

/-- A stop of a session. -/
theorem stop (h : Reached v₀ registry m held) (id : Datum) (stoppedAt : Timestamp)
    (forced : Datum) : Reached v₀ registry (m.stopSession id stoppedAt forced).monitor held := by
  refine h.goOn fun v abandoned hmonitor hholdings => ?_
  subst hmonitor
  exact ⟨[.stop id stoppedAt forced], rfl, hholdings⟩

/-- A sweep. -/
theorem sweep (h : Reached v₀ registry m held) (now : Timestamp) :
    Reached v₀ registry (m.sweep now).monitor held := by
  refine h.goOn fun v abandoned hmonitor hholdings => ?_
  subst hmonitor
  -- A task sweeps in one turn, so that no other move comes in between.
  have hswept := v.sweep_eq_run registry now
  refine ⟨_, congrArg Watch.monitor hswept, ?_⟩
  rw [hswept]
  exact hholdings

/-- A change of the rules. -/
theorem setRules (h : Reached v₀ registry m held) (rules : List Rule) :
    Reached v₀ registry (m.setRules rules) held := by
  refine h.goOn fun v abandoned hmonitor hholdings => ?_
  subst hmonitor
  exact ⟨[.setRules rules], rfl, hholdings⟩

/-- A start that has a fault. -/
theorem start_fault (h : Reached v₀ registry m held) {session : Session} {user : User}
    {now : Timestamp} {fault : Fault}
    (hfault : (m.register session user now).result = .error fault) :
    Reached v₀ registry (m.register session user now).monitor held := by
  refine h.goOn fun v abandoned hmonitor hholdings => ?_
  subst hmonitor
  refine ⟨[.start session user now], ?_, ?_⟩ <;>
    simp only [Watch.run, Watch.after, Watch.start, hfault]
  exact hholdings

/-- A start whose rules are evaluated from then on. -/
theorem start (h : Reached v₀ registry m held) {session : Session} {user : User}
    {now : Timestamp} {context : SessionContext}
    (hcontext : (m.register session user now).result = .ok context) :
    Reached v₀ registry (m.register session user now).monitor
      (.evaluation
        ⟨context.session, (verdicts (holdsInTime registry) context m.rules).value⟩ :: held) := by
  refine h.goOn fun v abandoned hmonitor hholdings => ?_
  subst hmonitor
  refine ⟨[.start session user now], ?_, ?_⟩ <;>
    simp only [Watch.run, Watch.after, Watch.start, hcontext]
  -- The evaluation is the last of its kind, and what is held on to has no order.
  rw [Watch.holdings, List.map_append, ← List.append_assoc]
  exact (List.perm_append_singleton _ _).trans (hholdings.cons _)

/-- A start whose rules have been evaluated. -/
theorem evaluated {evaluation : Evaluation}
    (h : Reached v₀ registry m (.evaluation evaluation :: held)) :
    Reached v₀ registry (m.enqueue evaluation.session evaluation.found).monitor held := by
  refine h.goOn fun v abandoned hmonitor hholdings => ?_
  subst hmonitor
  obtain ⟨slot, hslot, hothers⟩ := Watch.evaluation_slot (hholdings.symm.subset List.mem_cons_self)
  refine ⟨[.evaluated slot], ?_, ?_⟩ <;>
    simp only [Watch.run, Watch.after, hslot]
  · rfl
  · exact (hothers.symm.trans hholdings).cons_inv

end Reached

/-! ### Handing over -/

/-- Can a flush hold a batch, while it does not wait, and go on with it at any time?  It waits
    for the reception of the first match then, or the batch is put back. -/
def Offerable (v₀ : Watch Number) (registry : Registry) (m : Monitor Number)
    (batch : List Match) (held : List Holding) : Prop :=
  ∀ now : Number, Reached v₀ registry (m.offer now batch).value.2
    (if (m.offer now batch).value.1.isEmpty then held else .batch batch :: held)

/-- What a batch that is handed on does to a monitor in use. -/
theorem Watch.handOver_holdings (v : Watch Number) (now : Number) (batch : List Match)
    (numbers : List Nat) :
    (v.handOver now batch numbers).monitor = (v.monitor.offer now batch).value.2 ∧
      (v.handOver now batch numbers).holdings.Perm
        (if (v.monitor.offer now batch).value.1.isEmpty then v.holdings
          else .batch batch :: v.holdings) := by
  obtain ⟨m, _, ⟨hnonempty, hoffered, _⟩ | ⟨hoffered, _⟩⟩ := v.monitor.offer_cases now batch
  · have hsome : batch.isEmpty = false := List.isEmpty_eq_false_iff.mpr hnonempty
    simp only [Watch.handOver, hoffered, hsome, Bool.false_eq_true, if_false, true_and]
    rw [Watch.holdings, List.map_append]
    exact (List.perm_append_singleton _ _).append_right _
  · simp only [Watch.handOver, hoffered, List.isEmpty_nil, if_true, true_and]
    exact .refl _

/-- What others hold on to stays beside a batch, if that one is handed on. -/
theorem perm_of_offered {others held abandoned : List Holding} {batch : List Match}
    {isOver : Prop} [Decidable isOver] (h : others.Perm (held ++ abandoned)) :
    (if isOver then others else .batch batch :: others).Perm
      ((if isOver then held else .batch batch :: held) ++ abandoned) := by
  split
  · exact h
  · exact h.cons _

namespace Reached

variable {v₀ : Watch Number} {registry : Registry} {m : Monitor Number} {held : List Holding}

/-- A flush begins. -/
theorem flush (h : Reached v₀ registry m held) (takenAt : Number) :
    Offerable v₀ registry (m.takePending takenAt).value.2 (m.takePending takenAt).value.1
      held := by
  intro now
  refine h.goOn fun v abandoned hmonitor hholdings => ?_
  subst hmonitor
  refine ⟨[.flush takenAt now], ?_⟩
  simp only [Watch.run, Watch.after, Watch.flush]
  by_cases hnothing : (v.monitor.takePending takenAt).value.1 = []
  · simp only [hnothing, List.isEmpty_nil, if_true]
    exact ⟨rfl, hholdings⟩
  · have hsome : (v.monitor.takePending takenAt).value.1.isEmpty = false :=
      List.isEmpty_eq_false_iff.mpr hnothing
    simp only [hsome, Bool.false_eq_true, if_false]
    obtain ⟨hmonitor, hhanded⟩ :=
      (v.taking (v.monitor.takePending takenAt).value.2).handOver_holdings now
        (v.monitor.takePending takenAt).value.1 v.desk.waiting
    refine ⟨hmonitor, hhanded.trans ?_⟩
    exact perm_of_offered hholdings

/-- A match has been received, and the flush goes on. -/
theorem received {first : Match} {rest : List Match}
    (h : Reached v₀ registry m (.batch (first :: rest) :: held)) :
    Offerable v₀ registry m.settleReceived rest held := by
  intro now
  refine h.goOn fun v abandoned hmonitor hholdings => ?_
  subst hmonitor
  obtain ⟨slot, flush, hslot, hbatch, hothers⟩ :=
    Watch.flush_slot (hholdings.symm.subset List.mem_cons_self)
  refine ⟨[.received slot now], ?_⟩
  simp only [Watch.run, Watch.after, Watch.goOn, hslot, hbatch]
  obtain ⟨hmonitor, hhanded⟩ := (v.settle slot flush v.monitor.settleReceived).handOver_holdings
    now rest (flush.numbers.drop 1)
  refine ⟨hmonitor, hhanded.trans ?_⟩
  exact perm_of_offered (hothers.symm.trans hholdings).cons_inv

/-- A match has been refused, and the flush goes on. -/
theorem refused {first : Match} {rest : List Match}
    (h : Reached v₀ registry m (.batch (first :: rest) :: held)) (settledAt : Number)
    (error : String) :
    Offerable v₀ registry (m.settleRefused settledAt first error).value rest held := by
  intro now
  refine h.goOn fun v abandoned hmonitor hholdings => ?_
  subst hmonitor
  obtain ⟨slot, flush, hslot, hbatch, hothers⟩ :=
    Watch.flush_slot (hholdings.symm.subset List.mem_cons_self)
  refine ⟨[.refused slot settledAt now error], ?_⟩
  simp only [Watch.run, Watch.after, Watch.goOn, hslot, hbatch]
  obtain ⟨hmonitor, hhanded⟩ :=
    (v.settle slot flush (v.monitor.settleRefused settledAt first error).value).handOver_holdings
      now rest (flush.numbers.drop 1)
  refine ⟨hmonitor, hhanded.trans ?_⟩
  exact perm_of_offered (hothers.symm.trans hholdings).cons_inv

/-- A flush has been interrupted. -/
theorem interrupted {batch : List Match} (h : Reached v₀ registry m (.batch batch :: held)) :
    Reached v₀ registry (m.interrupt batch).value held := by
  refine h.goOn fun v abandoned hmonitor hholdings => ?_
  subst hmonitor
  obtain ⟨slot, flush, hslot, rfl, hothers⟩ :=
    Watch.flush_slot (hholdings.symm.subset List.mem_cons_self)
  refine ⟨[.interrupted slot], ?_, ?_⟩ <;>
    simp only [Watch.run, Watch.after, hslot, Watch.interrupt]
  exact (hothers.symm.trans hholdings).cons_inv

end Reached

end StreamWatch
