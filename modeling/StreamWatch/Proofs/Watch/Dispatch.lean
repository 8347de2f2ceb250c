import Mathlib.Data.List.Flatten
import Mathlib.Data.List.Nodup
import StreamWatch.Proofs.Watch.Basic

namespace StreamWatch

/-!
# No match is lost, and none is handed over twice

However the callers of a monitor take turns, each match that was queued is in one place: it
waits, or it is in the batch of one flush, or it was received or refused.

* `Watch.Balanced` — the invariant, for a monitor in use and the rest of a batch that a flush
  holds while it does not wait;
* `Watch.Balanced.handOver`, `Watch.Balanced.settle`, `Watch.Balanced.interrupt` — a batch is
  handed on or put back, its first match is done with, a flush is interrupted;
* `Watch.Conserved.after`, `Watch.Conserved.run` — one move keeps the invariant, and so does
  a run.
-/

/-- Do numbers tell which matches these are? -/
def Desk.Tells (desk : Desk) (numbers : List Nat) (batch : List Match) : Prop :=
  numbers.map (desk.queued[·]?) = batch.map some

namespace Desk.Tells

variable {desk : Desk} {numbers others : List Nat} {batch rest : List Match}

/-- Numbers that tell of no match are none. -/
theorem nil_iff : desk.Tells numbers [] ↔ numbers = [] := by
  simp only [Tells, List.map_nil, List.map_eq_nil_iff]

/-- Two batches one after the other are told of by their numbers. -/
theorem append (h : desk.Tells numbers batch) (h' : desk.Tells others rest) :
    desk.Tells (numbers ++ others) (batch ++ rest) := by
  simp only [Tells, List.map_append] at *
  rw [h, h']

/-- The number of the first match stands in front. -/
theorem cons_inv {first : Match} (h : desk.Tells numbers (first :: rest)) :
    ∃ number others, numbers = number :: others ∧ desk.Tells others rest := by
  cases numbers with
  | nil => cases h
  | cons number others => exact ⟨number, others, rfl, (List.cons.inj h).2⟩

/-- What is queued later does not change what numbers tell. -/
theorem mono {desk' : Desk} (h : desk.Tells numbers batch)
    (hqueued : desk.queued <+: desk'.queued) : desk'.Tells numbers batch := by
  refine Eq.trans (List.map_congr_left fun number hnumber => ?_) h
  -- A number that tells of a match is in range, where nothing changes.
  have hsome : desk.queued[number]? ∈ batch.map some := h ▸ List.mem_map_of_mem hnumber
  obtain ⟨queued, _, hqueued'⟩ := List.mem_map.mp hsome
  obtain ⟨later, hlater⟩ := hqueued
  rw [← hlater, ← hqueued', List.getElem?_append_left]
  · exact hqueued'.symm
  · exact (List.getElem?_eq_some_iff.mp hqueued'.symm).1

/-- The matches that were queued last have the last numbers. -/
theorem range' {queued : List Match} (h : desk.queued = queued ++ batch) :
    desk.Tells (List.range' queued.length batch.length) batch := by
  refine List.ext_getElem? fun n => ?_
  by_cases hn : n < batch.length
  · simp only [List.getElem?_map, List.getElem?_range' hn, h, Option.map_some,
      List.getElem?_append_right (Nat.le_add_right ..), Nat.one_mul, Nat.add_sub_cancel_left,
      List.getElem?_eq_getElem hn]
  · have hlength : batch.length ≤ n := Nat.le_of_not_lt hn
    rw [List.getElem?_eq_none, List.getElem?_eq_none]
    · rwa [List.length_map]
    · rwa [List.length_map, List.length_range']

end Desk.Tells

namespace Watch

variable {τ : Type}

/-- The numbers of all the matches that flushes hold. -/
def held (w : Watch τ) : List Nat := w.flushes.flatMap Flush.numbers

/-- Is each match that was queued in one place, if a flush that does not wait holds a batch? -/
structure Balanced (w : Watch τ) (batch : List Match) (numbers : List Nat) : Prop where
  receives : w.monitor.hasReceiver = true
  waiting : w.desk.Tells w.desk.waiting w.monitor.pending
  flushes : ∀ flush ∈ w.flushes, flush.batch ≠ [] ∧ w.desk.Tells flush.numbers flush.batch
  loose : w.desk.Tells numbers batch
  places : (w.desk.waiting ++ w.held ++ numbers ++ w.desk.finished).Perm
    (List.range w.desk.queued.length)
  calls : w.desk.begun.Perm (w.desk.cut ++ w.desk.finished ++ w.inFlight)

/-- Is each match that was queued in one place, while every caller waits? -/
def Conserved (w : Watch τ) : Prop := w.Balanced [] []

/-- A monitor that nobody has used yet has no match to lose. -/
theorem conserved_fresh {m : Monitor τ} (hreceiver : m.hasReceiver = true)
    (hpending : m.pending = []) : (fresh m).Conserved where
  receives := hreceiver
  waiting := by
    show Desk.Tells _ [] m.pending
    rw [hpending]
    rfl
  flushes := nofun
  loose := rfl
  places := .nil
  calls := .nil

/-- Where the matches of the monitor stay the same, and nothing is noted of them, each match
    stays in its place. -/
theorem Balanced.of_sameQueue {w w' : Watch τ} {batch : List Match} {numbers : List Nat}
    (h : w.Balanced batch numbers) (hqueue : w.monitor.SameQueue w'.monitor)
    (hflushes : w'.flushes = w.flushes) (hdesk : w'.desk = w.desk) :
    w'.Balanced batch numbers := by
  obtain ⟨hreceives, hwaiting, hheld, hloose, hplaces, hcalls⟩ := h
  refine ⟨?_, ?_, ?_, ?_, ?_, ?_⟩
  · rw [hqueue.hasReceiver, hreceives]
  · rw [hdesk, hqueue.pending]
    exact hwaiting
  · rw [hdesk, hflushes]
    exact hheld
  · rw [hdesk]
    exact hloose
  · rw [held, hdesk, hflushes]
    exact hplaces
  · rw [inFlight, hdesk, hflushes]
    exact hcalls

/-- New matches wait behind the others. -/
theorem Conserved.enqueue {w : Watch τ} (h : w.Conserved) (session : Session)
    (found : List Verdict) : (w.enqueue session found).Conserved := by
  have hpending : (w.enqueue session found).monitor.pending =
      w.monitor.pending ++ found.map (Match.mk · session) := by
    simp only [Watch.enqueue, Monitor.enqueue]
    cases found with
    | nil => exact (List.append_nil _).symm
    | cons verdict rest => rfl
  have hreceiver : (w.enqueue session found).monitor.hasReceiver = w.monitor.hasReceiver := by
    simp only [Watch.enqueue, Monitor.enqueue]
    split <;> rfl
  have hlater : w.desk.queued <+: (w.enqueue session found).desk.queued := ⟨_, rfl⟩
  refine ⟨hreceiver.trans h.receives, ?_, fun flush hflush => ?_, rfl, ?_, h.calls⟩
  · rw [hpending]
    refine (h.waiting.mono hlater).append ?_
    have hcount : (found.map (Match.mk · session)).length = found.length := List.length_map ..
    rw [← hcount]
    exact Desk.Tells.range' rfl
  · obtain ⟨hnonempty, htells⟩ := h.flushes flush hflush
    exact ⟨hnonempty, htells.mono hlater⟩
  · -- The new numbers follow on the old ones.  Counting makes of what is left, here and below,
    -- one linear equation for each number.
    have hnumbers : List.range (w.desk.queued.length + found.length) =
        List.range w.desk.queued.length ++ List.range' w.desk.queued.length found.length := by
      rw [List.range_add, List.range'_eq_map_range]
    refine List.perm_iff_count.mpr fun n => ?_
    have hplaces := h.places.count_eq n
    simp only [Watch.enqueue, held, List.length_append, List.length_map, hnumbers,
      List.count_append] at *
    omega

/-- The first match of a flush is done with. -/
theorem Conserved.settle {w : Watch τ} (h : w.Conserved) {slot : Nat} {flush : Flush}
    {first : Match} {rest : List Match} {m : Monitor τ} (hflush : w.flushes[slot]? = some flush)
    (hbatch : flush.batch = first :: rest) (hm : w.monitor.SameQueue m) :
    (w.settle slot flush m).Balanced rest (flush.numbers.drop 1) := by
  have hothers := slot_perm hflush
  obtain ⟨_, htells⟩ := h.flushes flush (List.mem_of_getElem? hflush)
  rw [hbatch] at htells
  obtain ⟨number, others, hnumbers, hrest⟩ := htells.cons_inv
  -- The first number leaves the held ones, and those in flight, for the finished ones.
  have hheld := hothers.flatMap_right Flush.numbers
  have hinFlight := hothers.flatMap_right fun flush => flush.numbers.take 1
  rw [List.flatMap_cons, hnumbers] at hheld hinFlight
  refine ⟨hm.hasReceiver.trans h.receives, ?_, fun other hother => ?_, ?_, ?_, ?_⟩
  · show w.desk.Tells w.desk.waiting m.pending
    rw [hm.pending]
    exact h.waiting
  · exact h.flushes other (List.mem_of_mem_eraseIdx hother)
  · rw [hnumbers]
    exact hrest
  · refine List.perm_iff_count.mpr fun n => ?_
    have hplaces := h.places.count_eq n
    have hcount := hheld.count_eq n
    simp only [Watch.settle, held, hnumbers, List.count_append, List.count_cons, List.count_nil,
      List.drop_one, List.tail_cons, List.take_succ_cons, List.take_zero] at *
    omega
  · refine List.perm_iff_count.mpr fun n => ?_
    have hcalls := h.calls.count_eq n
    have hcount := hinFlight.count_eq n
    simp only [Watch.settle, inFlight, hnumbers, List.count_append, List.count_cons,
      List.count_nil, List.take_succ_cons, List.take_zero] at *
    omega

/-- The matches of a flush that is interrupted wait again. -/
theorem Conserved.interrupt {w : Watch τ} (h : w.Conserved) {slot : Nat} {flush : Flush}
    (hflush : w.flushes[slot]? = some flush) : (w.interrupt slot flush).Conserved := by
  have hothers := slot_perm hflush
  obtain ⟨hnonempty, htells⟩ := h.flushes flush (List.mem_of_getElem? hflush)
  -- All its numbers go back, but only the call for the first one is cut short.
  have hheld := hothers.flatMap_right Flush.numbers
  have hinFlight := hothers.flatMap_right fun flush => flush.numbers.take 1
  rw [List.flatMap_cons] at hheld hinFlight
  refine ⟨h.receives, htells.append h.waiting, fun other hother => ?_, rfl, ?_, ?_⟩
  · exact h.flushes other (List.mem_of_mem_eraseIdx hother)
  · refine List.perm_iff_count.mpr fun n => ?_
    have hplaces := h.places.count_eq n
    have hcount := hheld.count_eq n
    simp only [Watch.interrupt, held, List.count_append, List.count_nil] at *
    omega
  · refine List.perm_iff_count.mpr fun n => ?_
    have hcalls := h.calls.count_eq n
    have hcount := hinFlight.count_eq n
    simp only [Watch.interrupt, inFlight, List.count_append] at *
    omega

/-- A call that has just begun is the only one of its match that is neither over nor cut
    short. -/
theorem Conserved.count_begun {w : Watch τ} (h : w.Conserved) {desk : Desk} {number : Nat}
    (hcut : w.desk.cut = desk.cut) (hbegun : w.desk.begun = desk.begun ++ [number]) :
    desk.begun.count number ≤ desk.cut.count number := by
  have hcalls := h.calls.count_eq number
  have hplaces := h.places.count_eq number
  -- A number in flight is held, and is in that place only, so it is not among the finished.
  have hatMost : (List.range w.desk.queued.length).count number ≤ 1 :=
    List.nodup_iff_count_le_one.mp List.nodup_range number
  have hinFlight : w.inFlight.count number ≤ w.held.count number :=
    (List.Sublist.flatMap_right _ fun _ _ => List.take_sublist ..).count_le number
  simp only [hcut, hbegun, List.count_append, List.count_singleton_self] at hcalls hplaces
  omega

section
variable [Sub τ] [LE τ] [DecidableLE τ]

/-- A batch that a flush holds is handed on or put back. -/
theorem Balanced.handOver {w : Watch τ} {batch : List Match} {numbers : List Nat}
    (h : w.Balanced batch numbers) (now : τ) : (w.handOver now batch numbers).Conserved := by
  obtain ⟨m, hreceiver, ⟨hnonempty, hoffered, hpending⟩ | ⟨hoffered, hpending⟩⟩ :=
    w.monitor.offer_cases now batch
  · -- The batch is handed on, and a flush waits for its first match from now on.
    have hsome : batch.isEmpty = false := List.isEmpty_eq_false_iff.mpr hnonempty
    unfold Watch.handOver
    simp only [hoffered, hsome, Bool.false_eq_true, if_false]
    refine ⟨hreceiver.trans h.receives, ?_, fun flush hflush => ?_, rfl, ?_, ?_⟩
    · show w.desk.Tells w.desk.waiting m.pending
      rw [hpending]
      exact h.waiting
    · obtain hflush | hflush := List.mem_append.mp hflush
      · exact h.flushes flush hflush
      · obtain rfl := List.mem_singleton.mp hflush
        exact ⟨hnonempty, h.loose⟩
    · refine List.perm_iff_count.mpr fun n => ?_
      have hplaces := h.places.count_eq n
      simp only [held, List.flatMap_append, List.flatMap_singleton, List.count_append,
        List.count_nil] at *
      omega
    · refine List.perm_iff_count.mpr fun n => ?_
      have hcalls := h.calls.count_eq n
      simp only [inFlight, List.flatMap_append, List.flatMap_singleton, List.count_append] at *
      omega
  · -- The batch is put back, and waits in front of what was queued meanwhile.
    unfold Watch.handOver
    simp only [hoffered, List.isEmpty_nil, if_true]
    refine ⟨hreceiver.trans h.receives, ?_, h.flushes, rfl, ?_, h.calls⟩
    · show w.desk.Tells (numbers ++ w.desk.waiting) m.pending
      rw [hpending]
      exact h.loose.append h.waiting
    · refine List.perm_iff_count.mpr fun n => ?_
      have hplaces := h.places.count_eq n
      simp only [held, List.count_append, List.count_nil] at *
      omega

/-- A flush that begins takes all the matches that wait, or none. -/
theorem Conserved.flush {w : Watch τ} (h : w.Conserved) (takenAt offeredAt : τ) :
    (w.flush takenAt offeredAt).Conserved := by
  obtain ⟨m, hreceiver, ⟨htaken, hpending⟩ | ⟨htaken, hpending⟩⟩ :=
    w.monitor.takePending_cases takenAt h.receives
  · -- What waited is loose until the flush hands it on.
    have hbalanced : (w.taking m).Balanced w.monitor.pending w.desk.waiting := by
      have hnone : (w.taking m).desk.waiting = [] := by
        simp only [taking, hpending, List.length_nil, List.take_zero]
      refine ⟨hreceiver, ?_, h.flushes, h.waiting, ?_, h.calls⟩
      · rw [hnone]
        exact hpending ▸ Desk.Tells.nil_iff.mpr rfl
      · rw [hnone]
        refine List.perm_iff_count.mpr fun n => ?_
        have hplaces := h.places.count_eq n
        simp only [taking, held, List.count_append, List.count_nil] at *
        omega
    unfold Watch.flush
    simp only [htaken]
    split
    · rename_i hnothing
      rw [List.isEmpty_iff.mp hnothing] at hbalanced
      rwa [Desk.Tells.nil_iff.mp hbalanced.loose] at hbalanced
    · exact hbalanced.handOver offeredAt
  · -- Nothing is taken, so the desk keeps all that waits.
    have hcount : w.desk.waiting.length = w.monitor.pending.length := by
      have hlengths := congrArg List.length h.waiting
      simpa only [List.length_map] using hlengths
    unfold Watch.flush taking
    simp only [htaken, List.isEmpty_nil, if_true, hpending, ← hcount, List.take_length]
    exact h.of_sameQueue ⟨hpending, hreceiver.trans h.receives.symm⟩ rfl rfl

/-- A flush goes on when its first match is done with. -/
theorem Conserved.goOn {w : Watch τ} (h : w.Conserved) (slot : Nat) (offeredAt : τ)
    (noted : Match → Monitor τ) (hnoted : ∀ first, w.monitor.SameQueue (noted first)) :
    (w.goOn slot offeredAt noted).Conserved := by
  unfold Watch.goOn
  split
  · exact h
  · rename_i flush hflush
    split
    · exact h
    · rename_i first rest hbatch
      exact (h.settle hflush hbatch (hnoted first)).handOver offeredAt

/-- Every move keeps each match in one place. -/
theorem Conserved.after {w : Watch τ} (h : w.Conserved) (registry : Registry) (move : Move τ) :
    (w.after registry move).Conserved := by
  cases move with
  | start session user now =>
    have hqueue := w.monitor.register_sameQueue session user now
    simp only [Watch.after, Watch.start]
    split
    · exact h.of_sameQueue hqueue rfl rfl
    · exact h.of_sameQueue hqueue rfl rfl
  | evaluated slot =>
    simp only [Watch.after]
    split
    · exact h
    · refine Conserved.enqueue ?_ _ _
      exact h.of_sameQueue (.refl _) rfl rfl
  | report id stateName position now =>
    exact h.of_sameQueue (w.monitor.update_sameQueue id stateName position now) rfl rfl
  | stop id stoppedAt forced =>
    exact h.of_sameQueue (w.monitor.stopSession_sameQueue id stoppedAt forced) rfl rfl
  | sweep now => exact h.of_sameQueue (.refl _) rfl rfl
  | sweepOn slot =>
    simp only [Watch.after]
    split
    · exact h
    · rename_i sweep _
      unfold Watch.sweepOn
      split
      · exact h.of_sameQueue (w.monitor.prune_sameQueue sweep.now) rfl rfl
      · exact h.of_sameQueue (w.monitor.sweepOne_sameQueue _ sweep.now) rfl rfl
  | setRules rules => exact h.of_sameQueue ⟨rfl, rfl⟩ rfl rfl
  | flush takenAt offeredAt => exact h.flush takenAt offeredAt
  | received slot offeredAt => exact h.goOn slot offeredAt _ fun _ => ⟨rfl, rfl⟩
  | refused slot settledAt offeredAt error =>
    exact h.goOn slot offeredAt _ fun _ => ⟨rfl, rfl⟩
  | interrupted slot =>
    simp only [Watch.after]
    split
    · exact h
    · rename_i flush hflush
      exact h.interrupt hflush
  | failure now => exact h.of_sameQueue ⟨rfl, rfl⟩ rfl rfl

/-- Every run keeps each match in one place. -/
theorem Conserved.run {w : Watch τ} (h : w.Conserved) (registry : Registry)
    (moves : List (Move τ)) : (w.run registry moves).Conserved := by
  induction moves generalizing w with
  | nil => exact h
  | cons move rest ih => exact ih (h.after registry move)

/-! ### Calls of the receiver -/

/-- Does the receiver get one call, while none is cut short, or no call at all? -/
def CallsAtMostOnce (desk desk' : Desk) : Prop :=
  desk'.begun = desk.begun ∨
    desk'.cut = desk.cut ∧ ∃ number, desk'.begun = desk.begun ++ [number]

/-- Handing a batch on calls the receiver for its first match, if at all. -/
theorem callsAtMostOnce_handOver (w : Watch τ) (now : τ) (batch : List Match)
    (numbers : List Nat) : CallsAtMostOnce w.desk (w.handOver now batch numbers).desk := by
  unfold Watch.handOver
  simp only
  split
  · exact .inl rfl
  · cases numbers with
    | nil => exact .inl (List.append_nil _)
    | cons number others => exact .inr ⟨rfl, number, rfl⟩

/-- A flush that goes on calls the receiver for its next match, if at all. -/
theorem callsAtMostOnce_goOn (w : Watch τ) (slot : Nat) (offeredAt : τ)
    (noted : Match → Monitor τ) :
    CallsAtMostOnce w.desk (w.goOn slot offeredAt noted).desk := by
  unfold Watch.goOn
  split
  · exact .inl rfl
  · split
    · exact .inl rfl
    · rename_i flush _ _ first rest _
      exact callsAtMostOnce_handOver (w.settle slot flush (noted first)) offeredAt rest _

/-- A move calls the receiver at most once. -/
theorem callsAtMostOnce_after (registry : Registry) (w : Watch τ) (move : Move τ) :
    CallsAtMostOnce w.desk (w.after registry move).desk := by
  cases move with
  | start session user now =>
    simp only [Watch.after, Watch.start]
    split <;> exact .inl rfl
  | evaluated slot =>
    simp only [Watch.after]
    split <;> exact .inl rfl
  | sweepOn slot =>
    simp only [Watch.after]
    split
    · exact .inl rfl
    · unfold Watch.sweepOn
      split <;> exact .inl rfl
  | flush takenAt offeredAt =>
    simp only [Watch.after, Watch.flush]
    split
    · exact .inl rfl
    · exact callsAtMostOnce_handOver _ offeredAt _ _
  | received slot offeredAt => exact callsAtMostOnce_goOn w slot offeredAt _
  | refused slot settledAt offeredAt error => exact callsAtMostOnce_goOn w slot offeredAt _
  | interrupted slot =>
    simp only [Watch.after]
    split <;> exact .inl rfl
  | report | stop | sweep | setRules | failure => exact .inl rfl

/-- **Dispatch is conserved.**  A monitor with a receiver is used in any way: callers take
    turns in any order, matches are received or refused, the breaker opens, flushes overlap and
    are interrupted.  Then the matches that wait and those of the flushes are the ones that the
    numbers of the desk tell, and each match that was ever queued has its number in exactly one
    place: among those that wait, in one flush, or among those that are done with.  Every call
    of the receiver was cut short, is over, or is the one that its flush waits for; and the
    receiver is called for a match only when every earlier call for it was cut short. -/
theorem dispatch_conserved (registry : Registry) (server : Server) (config : MonitorConfig)
    (rules : List Rule) (cooldown : τ) (moves : List (Move τ)) :
    let w := (fresh (.fresh server config rules true cooldown)).run registry moves
    w.desk.waiting.map (w.desk.queued[·]?) = w.monitor.pending.map some ∧
    (∀ flush ∈ w.flushes, flush.batch ≠ [] ∧
      flush.numbers.map (w.desk.queued[·]?) = flush.batch.map some) ∧
    (w.desk.waiting ++ w.flushes.flatMap Flush.numbers ++ w.desk.finished).Perm
      (List.range w.desk.queued.length) ∧
    w.desk.begun.Perm (w.desk.cut ++ w.desk.finished ++ w.inFlight) ∧
    ∀ move, (w.after registry move).desk.begun = w.desk.begun ∨
      ∃ number, (w.after registry move).desk.begun = w.desk.begun ++ [number] ∧
        w.desk.begun.count number = w.desk.cut.count number := by
  intro w
  have h : w.Conserved := (conserved_fresh rfl rfl).run registry moves
  refine ⟨h.waiting, h.flushes, ?_, h.calls, fun move => ?_⟩
  · simpa only [held, List.append_nil] using h.places
  · obtain hnone | ⟨hcut, number, hbegun⟩ := callsAtMostOnce_after registry w move
    · exact .inl hnone
    · -- The calls after the move leave room for the new one only if all before were cut short.
      have hatMost := (h.after registry move).count_begun hcut hbegun
      have hcalls := h.calls.count_eq number
      simp only [List.count_append] at hcalls
      exact .inr ⟨number, hbegun, by omega⟩

end

end Watch

end StreamWatch
