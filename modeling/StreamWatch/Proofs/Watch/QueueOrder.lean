import StreamWatch.Proofs.Watch.HoldingBack

namespace StreamWatch.Watch

/-!
# Matches are handed over in the order in which they were queued

New matches are queued behind the others while a batch is out of the queue, and what is left of
the batch is put back in front.  As long as flushes do not overlap, this keeps the order:

* `InOrder` — the invariant: the matches that are done with, those of flushes, and those that
  wait follow one on the other as they were queued;
* `InOrder.handOver`, `InOrder.settle`, `InOrder.interrupt`, `InOrder.flush` — a batch is handed
  on or put back, its first match is done with, a flush is interrupted, a flush begins;
* `InOrder.after`, `InOrder.run` — one move keeps the invariant, and so does a run of flushes that
  do not overlap;
* `Calls`, `calls_after` — what a call of the receiver has to do with the flush that waits for it;
* `dispatches_in_order` — the order of the matches, and of the calls.
-/

variable {τ : Type}

/-- Do the matches follow one on the other in the order in which they were queued: those that are
    done with, those of the flushes, those that a flush holds while it does not wait, and those
    that wait? -/
def InOrder (w : Watch τ) (numbers : List Nat) : Prop :=
  w.desk.finished ++ (w.held ++ numbers) ++ w.desk.waiting = List.range w.desk.queued.length

/-- Where nothing is noted of the matches, their order is the same. -/
theorem InOrder.of_same {w w' : Watch τ} {numbers : List Nat} (h : w.InOrder numbers)
    (hdesk : w'.desk = w.desk) (hflushes : w'.flushes = w.flushes) : w'.InOrder numbers := by
  unfold InOrder held
  rw [hdesk, hflushes]
  exact h

/-- New matches are the last ones. -/
theorem InOrder.enqueue {w : Watch τ} (h : w.InOrder []) (session : Session)
    (found : List Verdict) : (w.enqueue session found).InOrder [] := by
  show w.desk.finished ++ (w.held ++ []) ++
      (w.desk.waiting ++ List.range' w.desk.queued.length found.length) =
    List.range (w.desk.queued ++ found.map (Match.mk · session)).length
  rw [← List.append_assoc, h, List.length_append, List.length_map, List.range_add,
    List.range'_eq_map_range]

/-- What flushes hold is what the flush holds that is alone. -/
theorem held_of_alone {w : Watch τ} (halone : w.flushes.length ≤ 1) {slot : Nat} {flush : Flush}
    (hslot : w.flushes[slot]? = some flush) : w.held = flush.numbers := by
  have hflushes : w.flushes.Perm (flush :: w.flushes.eraseIdx slot) := slot_perm hslot
  rw [eraseIdx_of_alone halone hslot, List.perm_singleton] at hflushes
  rw [held, hflushes, List.flatMap_singleton]

/-- The first match of a flush that is alone is the next one that is done with. -/
theorem InOrder.settle {w : Watch τ} (h : w.InOrder []) (halone : w.flushes.length ≤ 1)
    {slot : Nat} {flush : Flush} (hslot : w.flushes[slot]? = some flush) (m : Monitor τ) :
    (w.settle slot flush m).InOrder (flush.numbers.drop 1) := by
  have hgone : w.flushes.eraseIdx slot = [] := eraseIdx_of_alone halone hslot
  have hheld : w.held = flush.numbers := held_of_alone halone hslot
  show w.desk.finished ++ flush.numbers.take 1 ++
      ((w.flushes.eraseIdx slot).flatMap Flush.numbers ++ flush.numbers.drop 1) ++
      w.desk.waiting = List.range w.desk.queued.length
  rw [hgone, List.flatMap_nil, List.nil_append, List.append_assoc w.desk.finished,
    List.take_append_drop, ← h, hheld, List.append_nil]

/-- The matches of a flush that is alone and is interrupted are put back in front. -/
theorem InOrder.interrupt {w : Watch τ} (h : w.InOrder []) (halone : w.flushes.length ≤ 1)
    {slot : Nat} {flush : Flush} (hslot : w.flushes[slot]? = some flush) :
    (w.interrupt slot flush).InOrder [] := by
  have hgone : w.flushes.eraseIdx slot = [] := eraseIdx_of_alone halone hslot
  have hheld : w.held = flush.numbers := held_of_alone halone hslot
  show w.desk.finished ++ ((w.flushes.eraseIdx slot).flatMap Flush.numbers ++ []) ++
      (flush.numbers ++ w.desk.waiting) = List.range w.desk.queued.length
  rw [hgone, List.flatMap_nil, List.append_nil, List.append_nil, ← List.append_assoc, ← h, hheld,
    List.append_nil]

section
variable [Sub τ] [LE τ] [DecidableLE τ]

/-- A batch that is handed on or put back stays in its place. -/
theorem InOrder.handOver {w : Watch τ} {numbers : List Nat} (h : w.InOrder numbers) (now : τ)
    (batch : List Match) : (w.handOver now batch numbers).InOrder [] := by
  unfold Watch.handOver
  simp only
  split
  · show w.desk.finished ++ (w.held ++ []) ++ (numbers ++ w.desk.waiting) =
      List.range w.desk.queued.length
    rw [List.append_nil, ← h]
    simp only [List.append_assoc]
  · unfold InOrder held
    rw [List.flatMap_append, List.flatMap_singleton, List.append_nil]
    exact h

/-- A flush that begins takes the matches that wait from their place. -/
theorem InOrder.flush {w : Watch τ} (h : w.InOrder []) (hconserved : w.Conserved)
    (takenAt offeredAt : τ) : (w.flush takenAt offeredAt).InOrder [] := by
  obtain ⟨m, _, ⟨htaken, hpending⟩ | ⟨htaken, hpending⟩⟩ :=
    w.monitor.takePending_cases takenAt hconserved.receives
  · have hloose : (w.taking m).InOrder w.desk.waiting := by
      show w.desk.finished ++ (w.held ++ w.desk.waiting) ++ w.desk.waiting.take m.pending.length =
        List.range w.desk.queued.length
      rw [hpending, List.length_nil, List.take_zero, List.append_nil, ← List.append_assoc, ← h,
        List.append_nil]
    unfold Watch.flush
    simp only [htaken]
    split
    · rename_i hnothing
      -- Nothing waits, so nothing is taken.
      have hnone : w.desk.waiting = [] := by
        have hwaiting := hconserved.waiting
        rw [List.isEmpty_iff.mp hnothing] at hwaiting
        exact Desk.Tells.nil_iff.mp hwaiting
      rwa [hnone] at hloose
    · exact hloose.handOver offeredAt _
  · have hcount : w.desk.waiting.length = w.monitor.pending.length := by
      have hlengths := congrArg List.length hconserved.waiting
      simpa only [List.length_map] using hlengths
    unfold Watch.flush taking
    simp only [htaken, List.isEmpty_nil, if_true, hpending, ← hcount, List.take_length]
    exact h.of_same rfl rfl

/-- A flush that is alone goes on when its first match is done with. -/
theorem InOrder.goOn {w : Watch τ} (h : w.InOrder []) (halone : w.flushes.length ≤ 1) (slot : Nat)
    (offeredAt : τ) (noted : Match → Monitor τ) : (w.goOn slot offeredAt noted).InOrder [] := by
  unfold Watch.goOn
  split
  · exact h
  · rename_i flush hslot
    split
    · exact h
    · rename_i first rest _
      exact (h.settle halone hslot (noted first)).handOver offeredAt rest

/-- **A move keeps the order** of the matches, if no more than one flush is under way. -/
theorem InOrder.after {w : Watch τ} (h : w.InOrder []) (hconserved : w.Conserved)
    (halone : w.flushes.length ≤ 1) (registry : Registry) (move : Move τ) :
    (w.after registry move).InOrder [] := by
  cases move with
  | start session user now =>
    simp only [Watch.after, Watch.start]
    split <;> exact h.of_same rfl rfl
  | evaluated slot =>
    simp only [Watch.after]
    split
    · exact h
    · refine InOrder.enqueue ?_ _ _
      exact h.of_same rfl rfl
  | sweepOn slot =>
    simp only [Watch.after]
    split
    · exact h
    · unfold Watch.sweepOn
      split <;> exact h.of_same rfl rfl
  | flush takenAt offeredAt => exact h.flush hconserved takenAt offeredAt
  | received slot offeredAt | refused slot settledAt offeredAt error =>
    exact h.goOn halone slot offeredAt _
  | interrupted slot =>
    simp only [Watch.after]
    split
    · exact h
    · rename_i flush hslot
      exact h.interrupt halone hslot
  | report | stop | sweep | setRules | failure => exact h.of_same rfl rfl

/-- A run of flushes that do not overlap keeps the order. -/
theorem InOrder.run {w : Watch τ} (h : w.InOrder []) (hconserved : w.Conserved)
    (registry : Registry) {moves : List (Move τ)} (halone : w.OneAtATime registry moves) :
    (w.run registry moves).InOrder [] := by
  induction moves generalizing w with
  | nil => exact h
  | cons move rest ih =>
    refine ih (h.after hconserved (halone [] List.nil_prefix) registry move)
      (hconserved.after registry move) fun front hfront => ?_
    exact halone (move :: front) ((List.prefix_cons_inj move).mpr hfront)

end

/-! ### Calls of the receiver -/

/-- Is the receiver called for the first match of a flush that waits from now on, or not at
    all? -/
def Calls (w w' : Watch τ) : Prop :=
  w'.desk.begun = w.desk.begun ∨
    ∃ before flush, w'.flushes = before ++ [flush] ∧
      w'.desk.begun = w.desk.begun ++ flush.numbers.take 1

/-- What is done with is the beginning of what was queued. -/
theorem InOrder.finished_eq {w : Watch τ} (h : w.InOrder []) :
    w.desk.finished = List.range w.desk.finished.length := by
  have hfront : w.desk.finished <+: List.range w.desk.queued.length :=
    ⟨w.held ++ [] ++ w.desk.waiting, by rw [← List.append_assoc]; exact h⟩
  have hle : w.desk.finished.length ≤ w.desk.queued.length := by
    simpa only [List.length_range] using hfront.length_le
  calc w.desk.finished
      = (List.range w.desk.queued.length).take w.desk.finished.length :=
        List.prefix_iff_eq_take.mp hfront
    _ = List.range w.desk.finished.length := by rw [List.take_range, Nat.min_eq_left hle]

/-- The receiver is called for the first match that is not done with. -/
theorem InOrder.begun_eq {w w' : Watch τ} (h : w'.InOrder []) (hconserved : w'.Conserved)
    (halone : w'.flushes.length ≤ 1) (hcalls : w.Calls w') :
    w'.desk.begun = w.desk.begun ∨
      w'.desk.begun = w.desk.begun ++ [w'.desk.finished.length] := by
  obtain hnone | ⟨before, flush, hflushes, hbegun⟩ := hcalls
  · exact .inl hnone
  · obtain rfl : before = [] := by
      rw [hflushes, List.length_append, List.length_singleton] at halone
      exact List.length_eq_zero_iff.mp (by omega)
    obtain ⟨hnonempty, htells⟩ := hconserved.flushes flush (hflushes ▸ List.mem_cons_self)
    obtain ⟨first, rest, hbatch⟩ := List.exists_cons_of_ne_nil hnonempty
    obtain ⟨number, others, hnumbers, _⟩ := Desk.Tells.cons_inv (hbatch ▸ htells)
    -- What stands behind the finished ones is the number that counts them.
    have hplace : (List.range w'.desk.queued.length)[w'.desk.finished.length]? = some number := by
      rw [← h, held, hflushes, List.nil_append, List.flatMap_singleton, hnumbers]
      simp only [List.append_assoc, List.getElem?_append_right (Nat.le_refl _), Nat.sub_self,
        List.cons_append, List.getElem?_cons_zero]
    obtain ⟨_, hnumber⟩ := List.getElem?_eq_some_iff.mp hplace
    rw [List.getElem_range] at hnumber
    right
    rw [hbegun, hnumbers, hnumber, List.take_succ_cons, List.take_zero]

section
variable [Sub τ] [LE τ] [DecidableLE τ]

/-- A batch that is handed on is that of a flush that waits. -/
theorem calls_handOver (w : Watch τ) (now : τ) (batch : List Match) (numbers : List Nat) :
    w.Calls (w.handOver now batch numbers) := by
  unfold Watch.handOver
  simp only
  split
  · exact .inl rfl
  · exact .inr ⟨w.flushes, ⟨_, numbers⟩, rfl, rfl⟩

/-- A move calls the receiver for a match of a flush that waits then. -/
theorem calls_after (registry : Registry) (w : Watch τ) (move : Move τ) :
    w.Calls (w.after registry move) := by
  have hgoOn (slot : Nat) (offeredAt : τ) (noted : Match → Monitor τ) :
      w.Calls (w.goOn slot offeredAt noted) := by
    unfold Watch.goOn
    split
    · exact .inl rfl
    · split
      · exact .inl rfl
      · rename_i flush _ _ first rest _
        exact calls_handOver (w.settle slot flush (noted first)) offeredAt rest _
  cases move with
  | start session user now =>
    simp only [Watch.after, Watch.start]
    split <;> exact .inl rfl
  | evaluated slot | interrupted slot =>
    simp only [Watch.after]
    split <;> exact .inl rfl
  | sweepOn slot =>
    simp only [Watch.after]
    split
    · exact .inl rfl
    · unfold Watch.sweepOn
      split <;> exact .inl rfl
  | flush takenAt offeredAt =>
    simp only [Watch.after, Watch.flush]
    split
    · exact .inl rfl
    · exact calls_handOver (w.taking _) offeredAt _ _
  | received slot offeredAt | refused slot settledAt offeredAt error =>
    exact hgoOn slot offeredAt _
  | report | stop | sweep | setRules | failure => exact .inl rfl

/-- **Matches are dispatched in the order in which they were queued.**  A monitor with a receiver
    is used in any way in which flushes do not overlap: sessions start while a batch is out of the
    queue, matches are received or refused, the breaker opens in the middle of a batch, flushes
    are interrupted.  At every moment the matches that are done with, in the order in which they
    were, and behind them what the flush holds that is under way, the match that is being handed
    over in front, and behind that the matches that wait, are exactly the matches that were
    queued, in that order.  And the receiver is only ever called for the first match that is not
    done with. -/
theorem dispatches_in_order (registry : Registry) (server : Server) (config : MonitorConfig)
    (rules : List Rule) (cooldown : τ) {moves : List (Move τ)}
    (halone : (fresh (.fresh server config rules true cooldown)).OneAtATime registry moves)
    {front : List (Move τ)} (hfront : front <+: moves) :
    let w := (fresh (.fresh server config rules true cooldown)).run registry front
    (w.desk.finished.map (w.desk.queued[·]?) ++ (w.flushes.flatMap Flush.batch).map some ++
        w.monitor.pending.map some = w.desk.queued.map some) ∧
    w.desk.finished = List.range w.desk.finished.length ∧
    ∀ move, front ++ [move] <+: moves →
      let w' := w.after registry move
      w'.desk.begun = w.desk.begun ∨ w'.desk.begun = w.desk.begun ++ [w'.desk.finished.length] := by
  intro w
  let start : Watch τ := fresh (.fresh server config rules true cooldown)
  have hstart : start.Conserved := conserved_fresh rfl rfl
  have hconserved : w.Conserved := hstart.run registry front
  have hempty : start.InOrder [] := rfl
  have horder {part : List (Move τ)} (hpart : part <+: moves) :
      (start.run registry part).InOrder [] :=
    hempty.run hstart registry fun early hearly => halone early (hearly.trans hpart)
  refine ⟨?_, (horder hfront).finished_eq, fun move hmove => ?_⟩
  · -- The numbers of a place tell of its matches, and all numbers of all that was queued.
    have hheld : w.held.map (w.desk.queued[·]?) = (w.flushes.flatMap Flush.batch).map some := by
      rw [held, List.map_flatMap, List.map_flatMap]
      exact List.flatMap_congr fun flush hflush => (hconserved.flushes flush hflush).2
    have hall : (List.range w.desk.queued.length).map (w.desk.queued[·]?) =
        w.desk.queued.map some := by
      have htells : w.desk.Tells (List.range' 0 w.desk.queued.length) w.desk.queued :=
        Desk.Tells.range' (List.nil_append w.desk.queued).symm
      rwa [← List.range_eq_range'] at htells
    have hnumbers : w.desk.finished ++ (w.held ++ []) ++ w.desk.waiting =
        List.range w.desk.queued.length := horder hfront
    rw [← hall, ← hnumbers, List.append_nil, List.map_append, List.map_append, hheld,
      hconserved.waiting]
  · have hafter : start.run registry (front ++ [move]) = w.after registry move :=
      run_append registry start front [move]
    have horder' : (w.after registry move).InOrder [] := hafter ▸ horder hmove
    have halone' : (w.after registry move).flushes.length ≤ 1 := hafter ▸ halone _ hmove
    exact horder'.begun_eq (hconserved.after registry move) halone' (calls_after registry w move)

end

/-- While the second of three matches is being handed over, a fourth one is queued.  The second is
    refused, which opens the breaker; after its cooldown a flush begins, is interrupted, and begins
    again, and the third match is received. -/
def resumed : List (Move Int) :=
  [.start (Session.starting "news" "ann" "server" (.universal Duration.day)) ann
      ⟨Duration.day, some 0⟩, .evaluated 0, .refused 0 103 103 "busy", .flush 163 163,
    .interrupted 0, .flush 164 164, .received 0 165]

/-- When the breaker opens, the third match is put back in front of the fourth.  In the end three
    matches are done with in their order, and the fourth is being handed over. -/
theorem dispatches_in_order_resumed :
    let all := hardTime ++ resumed
    let opened := (fresh atWork).run .standard (hardTime ++ resumed.take 3)
    let last := (fresh atWork).run .standard all
    let ids (found : List Match) := found.map fun one => one.session.id
    (fresh atWork).OneAtATime .standard all ∧
    ids opened.desk.queued = ["film", "song", "show", "news"] ∧
    ids opened.monitor.pending = ["show", "news"] ∧
    (opened.desk.finished.map (opened.desk.queued[·]?) ++
      (opened.flushes.flatMap Flush.batch).map some ++ opened.monitor.pending.map some =
        opened.desk.queued.map some) ∧
    ids (last.flushes.flatMap Flush.batch) = ["news"] ∧ last.desk.begun = [0, 1, 2, 2, 3] ∧
    last.desk.finished = List.range last.desk.finished.length := by
  intro all opened last ids
  have halone : (fresh atWork).OneAtATime .standard all := fun front hfront => by
    have hinits : ∀ front ∈ all.inits, ((fresh atWork).run .standard front).flushes.length ≤ 1 := by
      decide +kernel
    exact hinits front ((List.mem_inits front all).mpr hfront)
  have hpart : hardTime ++ resumed.take 3 <+: all :=
    (List.prefix_append_right_inj hardTime).mpr (List.take_prefix 3 resumed)
  have hopen := dispatches_in_order .standard ⟨"server", "Home", none⟩ twoFailures [everySession]
    60 halone hpart
  have hlast := dispatches_in_order .standard ⟨"server", "Home", none⟩ twoFailures [everySession]
    60 halone (List.prefix_refl all)
  exact ⟨halone, by decide +kernel, by decide +kernel, hopen.1, by decide +kernel,
    by decide +kernel, hlast.2.1⟩

end StreamWatch.Watch
