import StreamWatch.Proofs.Watch.BreakerAccount

namespace StreamWatch

/-!
# A closed breaker holds nothing back

A flush that begins while the breaker is closed hands over all that waits by then, whatever else
goes on, if it is not interrupted and the receiver does not fail.

* `Watch.Drains` — how far a flush has come with what waited when it began;
* `Watch.Drains.after` — no move that goes well takes anything back from it;
* `Watch.flush_drains` — so at every moment what waited is done with, except for what the flush
  is still about to hand over.
-/

/-- Does a move go well: does it count no failure, and interrupt no flush? -/
def Move.goesWell {τ : Type} : Move τ → Bool
  | .refused .. | .failure _ | .interrupted _ => false
  | _ => true

/-- A move that goes well counts no failure. -/
theorem Move.isFailing_of_goesWell {τ : Type} {move : Move τ} (h : move.goesWell = true) :
    move.isFailing = false := by
  cases move with
  | refused | failure | interrupted => cases h
  | _ => rfl

namespace Watch

variable {τ : Type}

/-- Are some of these numbers done with, those in front, and does one flush hold all the others? -/
def Drains (w : Watch τ) (numbers : List Nat) : Prop :=
  ∃ done left, numbers = done ++ left ∧ (∀ number ∈ done, number ∈ w.desk.finished) ∧
    (left = [] ∨ ∃ flush ∈ w.flushes, flush.numbers = left)

/-- Where no flush ends and nothing is done with, no flush goes on. -/
theorem Drains.mono {w w' : Watch τ} {numbers : List Nat} (h : w.Drains numbers)
    (hfinished : w.desk.finished ⊆ w'.desk.finished) (hflushes : w.flushes ⊆ w'.flushes) :
    w'.Drains numbers := by
  obtain ⟨done, left, hsplit, hdone, hleft⟩ := h
  refine ⟨done, left, hsplit, fun number hnumber => hfinished (hdone number hnumber), ?_⟩
  exact hleft.imp_right fun ⟨flush, hflush, hnumbers⟩ => ⟨flush, hflushes hflush, hnumbers⟩

variable [Sub τ] [LE τ] [DecidableLE τ]

/-- Handing a batch on ends no flush, and is done with nothing. -/
theorem handOver_keeps (w : Watch τ) (now : τ) (batch : List Match) (numbers : List Nat) :
    (w.handOver now batch numbers).desk.finished = w.desk.finished ∧
      w.flushes ⊆ (w.handOver now batch numbers).flushes := by
  unfold handOver
  simp only
  split
  · exact ⟨rfl, List.Subset.refl _⟩
  · exact ⟨rfl, List.subset_append_left _ _⟩

/-- While the breaker is closed a batch is handed on. -/
theorem handOver_of_closed {w : Watch τ} (hclosed : w.monitor.breaker.openedAt = none) (now : τ)
    {batch : List Match} {numbers : List Nat} (h : w.desk.Tells numbers batch) :
    numbers = [] ∨ ∃ flush ∈ (w.handOver now batch numbers).flushes, flush.numbers = numbers := by
  have hstill :
      (w.monitor.breaker.afterAll (w.monitor.breaker.readAccount now)).openedAt = none := by
    refine Breaker.closed_of_no_failure hclosed fun happening hread => ?_
    rw [Breaker.isReset_of_readAccount hread]
    rfl
  obtain ⟨rfl, _⟩ | ⟨hsome, _, _, hvalue⟩ | ⟨_, hopen, _⟩ := w.monitor.offer_account_cases now batch
  · exact .inl (Desk.Tells.nil_iff.mp h)
  · right
    simp only [handOver, hvalue, List.isEmpty_eq_false_iff.mpr hsome, Bool.false_eq_true, if_false]
    exact ⟨⟨batch, numbers⟩, List.mem_append_right _ (List.mem_singleton_self _), rfl⟩
  · rw [hstill] at hopen
    cases hopen

/-- A flush begins that finds the breaker closed. -/
theorem drains_flush {w : Watch τ} (h : w.Conserved)
    (hclosed : w.monitor.breaker.openedAt = none) (takenAt offeredAt : τ) :
    (w.flush takenAt offeredAt).Drains w.desk.waiting := by
  have hread : w.monitor.breaker.read takenAt = pure (false, w.monitor.breaker) := by
    unfold Breaker.read
    simp only [hclosed]
  have htaken : (w.monitor.takePending takenAt).value =
      (w.monitor.pending, { w.monitor with pending := [] }) := by
    rw [Monitor.takePending, if_pos h.receives]
    simp only [Recorded.bind_value, Recorded.pure_value, Monitor.readBreaker, hread,
      Bool.false_eq_true, if_false]
  have hwaiting := h.waiting
  unfold Watch.flush
  simp only [htaken]
  split
  · rename_i hnothing
    rw [List.isEmpty_iff.mp hnothing, Desk.Tells.nil_iff] at hwaiting
    exact ⟨[], [], hwaiting, nofun, .inl rfl⟩
  · let taken := w.taking { w.monitor with pending := [] }
    exact ⟨[], w.desk.waiting, rfl, nofun,
      handOver_of_closed (w := taken) hclosed offeredAt hwaiting⟩

/-- The flush goes on whose match was received, and the others do not. -/
theorem Drains.received {w : Watch τ} {numbers : List Nat} (h : w.Drains numbers)
    (hconserved : w.Conserved) (hclosed : w.monitor.breaker.openedAt = none) (slot : Nat)
    (offeredAt : τ) : (w.goOn slot offeredAt fun _ => w.monitor.settleReceived).Drains numbers := by
  unfold goOn
  cases hslot : w.flushes[slot]? with
  | none => exact h
  | some flush =>
    simp only
    cases hbatch : flush.batch with
    | nil => exact h
    | cons first rest =>
      obtain ⟨_, htells⟩ := hconserved.flushes flush (List.mem_of_getElem? hslot)
      rw [hbatch] at htells
      obtain ⟨number, others, hnumbers, hothers⟩ := htells.cons_inv
      let settled := w.settle slot flush w.monitor.settleReceived
      obtain ⟨hfinished, hflushes⟩ := settled.handOver_keeps offeredAt rest (flush.numbers.drop 1)
      have hsettled : (settled.handOver offeredAt rest (flush.numbers.drop 1)).desk.finished =
          w.desk.finished ++ [number] := by
        rw [hfinished]
        show w.desk.finished ++ flush.numbers.take 1 = _
        rw [hnumbers, List.take_succ_cons, List.take_zero]
      obtain ⟨done, left, hsplit, hdone, hleft⟩ := h
      have hstill : ∀ n ∈ done, n ∈ w.desk.finished ++ [number] := fun n hn =>
        List.mem_append_left _ (hdone n hn)
      show (settled.handOver offeredAt rest (flush.numbers.drop 1)).Drains numbers
      unfold Drains
      rw [hsettled]
      obtain rfl | ⟨mine, hmine, rfl⟩ := hleft
      · exact ⟨done, [], hsplit, hstill, .inl rfl⟩
      · obtain rfl | hother := List.mem_cons.mp ((slot_perm hslot).mem_iff.mp hmine)
        · -- The match was the first of those that were left.
          rw [hnumbers] at hsplit ⊢
          refine ⟨done ++ [number], others, ?_, fun n hn => ?_, ?_⟩
          · rw [hsplit, List.append_assoc, List.singleton_append]
          · exact (List.mem_append.mp hn).elim (hstill n) (List.mem_append_right _)
          · exact handOver_of_closed (w := settled) hclosed offeredAt hothers
        · -- The match was that of another flush, which takes nothing from this one.
          exact ⟨done, mine.numbers, hsplit, hstill, .inr ⟨mine, hflushes hother, rfl⟩⟩

/-- **A move that goes well** takes nothing back from a flush that hands over what waited. -/
theorem Drains.after {w : Watch τ} {numbers : List Nat} (h : w.Drains numbers)
    (hconserved : w.Conserved) (hclosed : w.monitor.breaker.openedAt = none) (registry : Registry)
    {move : Move τ} (hmove : move.goesWell = true) : (w.after registry move).Drains numbers := by
  cases move with
  | refused | failure | interrupted => cases hmove
  | flush takenAt offeredAt =>
    simp only [Watch.after, Watch.flush]
    split
    · exact h
    · -- A later flush takes what was queued since, and leaves the one under way alone.
      obtain ⟨hfinished, hflushes⟩ := (w.taking _).handOver_keeps offeredAt _ w.desk.waiting
      exact h.mono (fun _ hnumber => hfinished ▸ hnumber) hflushes
  | received slot offeredAt => exact h.received hconserved hclosed slot offeredAt
  | start session user now =>
    simp only [Watch.after, Watch.start]
    split <;> exact h
  | evaluated slot =>
    simp only [Watch.after]
    split <;> exact h
  | sweepOn slot =>
    simp only [Watch.after]
    split
    · exact h
    · unfold Watch.sweepOn
      split <;> exact h
  | report | stop | sweep | setRules => exact h

/-- A run in which everything goes well takes nothing back from it either. -/
theorem Drains.run {w : Watch τ} {numbers : List Nat} (h : w.Drains numbers)
    (hconserved : w.Conserved) (hclosed : w.monitor.breaker.openedAt = none) (registry : Registry)
    {later : List (Move τ)} (hlater : ∀ move ∈ later, move.goesWell = true) :
    (w.run registry later).Drains numbers := by
  induction later generalizing w with
  | nil => exact h
  | cons move rest ih =>
    have hmove := hlater move List.mem_cons_self
    -- With no failure the breaker stays closed, so that the next match is handed over too.
    exact ih (h.after hconserved hclosed registry hmove) (hconserved.after registry move)
      (closed_after registry hclosed (Move.isFailing_of_goesWell hmove))
      fun other hother => hlater other (List.mem_cons_of_mem _ hother)

/-- **A flush hands over all that waits**, if it finds the breaker closed and everything goes well
    from then on.  At every moment what waited when it began is done with, or is about to be handed
    over by it. -/
theorem flush_drains (registry : Registry) {w : Watch τ} (h : w.Conserved)
    (hclosed : w.monitor.breaker.openedAt = none) (takenAt offeredAt : τ) {later : List (Move τ)}
    (hlater : ∀ move ∈ later, move.goesWell = true) :
    ((w.after registry (.flush takenAt offeredAt)).run registry later).Drains w.desk.waiting := by
  have hbegun : (w.after registry (.flush takenAt offeredAt)).Drains w.desk.waiting :=
    drains_flush h hclosed takenAt offeredAt
  exact hbegun.run (h.after registry (.flush takenAt offeredAt))
    (closed_after registry hclosed rfl) registry hlater

end Watch

end StreamWatch
