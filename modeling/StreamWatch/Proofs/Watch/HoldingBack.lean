import Mathlib.Algebra.Order.Group.Int
import Mathlib.Data.List.Infix
import StreamWatch.Proofs.Watch.BreakerAccount

namespace StreamWatch

/-!
# The breaker holds matches back

While a breaker is open the receiver is not called, until the cooldown has passed.

* `Watch.clock_run` — if the clock of a run never goes back, the account of the run is in the
  order of its times;
* `Watch.OneAtATime` — do the flushes of a run not overlap?
* `Watch.Quiet` — the invariant of such a run: while a flush is under way the breaker is closed,
  so that a failure of its match is the one that may open it;
* `Watch.Waits` — the invariant of a breaker that was opened by the failure of a match: the matches
  behind it wait in front of all others.
-/

namespace Watch

/-! ### Clocks -/

/-- Times that are all the same are in order. -/
theorem pairwise_of_same {τ : Type} [Preorder τ] {times : List τ} {now : τ}
    (h : ∀ t ∈ times, t = now) : times.Pairwise (· ≤ ·) :=
  List.pairwise_of_forall_mem_list fun t ht u hu => le_of_eq ((h t ht).trans (h u hu).symm)

section
variable {τ : Type} [AddCommGroup τ] [LinearOrder τ]

/-- The times of a flush that goes on: first that of what ended the call, and then that of the
    offer. -/
theorem times_goOnAccount (w : Watch τ) (slot : Nat) (offeredAt : τ) (settled : Happening τ)
    (noted : Match → Monitor τ) :
    timesOf (w.goOnAccount slot offeredAt settled noted) = [] ∨
      ∃ times, (∀ t ∈ times, t = offeredAt) ∧
        timesOf (w.goOnAccount slot offeredAt settled noted) = settled.time?.toList ++ times := by
  unfold goOnAccount
  split
  · exact .inl rfl
  · split
    · exact .inl rfl
    · rename_i first rest _
      refine .inr ⟨timesOf ((noted first).offerAccount offeredAt rest), fun t ht => ?_, ?_⟩
      · exact Monitor.time_of_offerAccount ht
      · rw [timesOf, List.filterMap_cons]
        cases settled.time? <;> rfl

/-- The entries of a move have readings of the move for their times, in their order. -/
theorem clock_account (w : Watch τ) {move : Move τ} (h : move.readings.Pairwise (· ≤ ·)) :
    (timesOf (w.account move)).Pairwise (· ≤ ·) ∧ timesOf (w.account move) ⊆ move.readings := by
  cases move with
  | flush takenAt offeredAt =>
    have hle : takenAt ≤ offeredAt := (List.pairwise_cons.mp h).1 offeredAt List.mem_cons_self
    have htaken : ∀ t ∈ timesOf (w.monitor.takeAccount takenAt), t = takenAt :=
      fun t ht => Monitor.time_of_takeAccount ht
    have hoffered : ∀ t ∈ timesOf ((w.monitor.takePending takenAt).value.2.offerAccount offeredAt
        (w.monitor.takePending takenAt).value.1), t = offeredAt :=
      fun t ht => Monitor.time_of_offerAccount ht
    have htimes : timesOf (w.account (.flush takenAt offeredAt)) =
        timesOf (w.monitor.takeAccount takenAt) ++
          timesOf ((w.monitor.takePending takenAt).value.2.offerAccount offeredAt
            (w.monitor.takePending takenAt).value.1) := List.filterMap_append
    rw [htimes]
    -- The breaker is asked when the matches are taken, and again when they are offered.
    refine ⟨List.pairwise_append.mpr ⟨pairwise_of_same htaken, pairwise_of_same hoffered, ?_⟩, ?_⟩
    · intro t ht u hu
      rw [htaken t ht, hoffered u hu]
      exact hle
    · intro t ht
      obtain ht | ht := List.mem_append.mp ht
      · rw [htaken t ht]
        exact List.mem_cons_self
      · rw [hoffered t ht]
        exact List.mem_cons_of_mem _ List.mem_cons_self
  | received slot offeredAt =>
    obtain hnone | ⟨times, hsame, htimes⟩ := w.times_goOnAccount slot offeredAt .received
      fun _ => w.monitor.settleReceived
    · simp only [account, hnone]
      exact ⟨.nil, List.nil_subset _⟩
    · simp only [account, htimes]
      exact ⟨pairwise_of_same hsame, fun t ht => List.mem_singleton.mpr (hsame t ht)⟩
  | refused slot settledAt offeredAt error =>
    have hle : settledAt ≤ offeredAt := (List.pairwise_cons.mp h).1 offeredAt List.mem_cons_self
    obtain hnone | ⟨times, hsame, htimes⟩ := w.times_goOnAccount slot offeredAt
      (w.monitor.breaker.failureAt settledAt) fun first =>
        (w.monitor.settleRefused settledAt first error).value
    · simp only [account, hnone]
      exact ⟨.nil, List.nil_subset _⟩
    · have hfailed : (w.monitor.breaker.failureAt settledAt).time?.toList = [settledAt] := rfl
      simp only [account, htimes, hfailed, List.singleton_append, List.pairwise_cons]
      refine ⟨⟨fun t ht => hsame t ht ▸ hle, pairwise_of_same hsame⟩, fun t ht => ?_⟩
      obtain rfl | ht := List.mem_cons.mp ht
      · exact List.mem_cons_self
      · rw [hsame t ht]
        exact List.mem_cons_of_mem _ List.mem_cons_self
  | failure now => exact ⟨List.pairwise_singleton _ now, List.Subset.refl _⟩
  | start | evaluated | report | stop | sweep | sweepOn | setRules | interrupted =>
    exact ⟨.nil, List.nil_subset _⟩

/-- If the clock of a run never goes back, its account is in the order of its times. -/
theorem clock_run (registry : Registry) (w : Watch τ) {moves : List (Move τ)}
    (h : (moves.flatMap Move.readings).Pairwise (· ≤ ·)) :
    (timesOf (w.runAccount registry moves)).Pairwise (· ≤ ·) ∧
      timesOf (w.runAccount registry moves) ⊆ moves.flatMap Move.readings := by
  induction moves generalizing w with
  | nil => exact ⟨.nil, List.nil_subset _⟩
  | cons move rest ih =>
    rw [List.flatMap_cons] at h ⊢
    obtain ⟨hfirst, hrest, hacross⟩ := List.pairwise_append.mp h
    obtain ⟨horder, hreadings⟩ := w.clock_account hfirst
    obtain ⟨horder', hreadings'⟩ := ih (w.after registry move) hrest
    have htimes : timesOf (w.runAccount registry (move :: rest)) =
        timesOf (w.account move) ++ timesOf ((w.after registry move).runAccount registry rest) :=
      List.filterMap_append
    rw [htimes]
    refine ⟨List.pairwise_append.mpr ⟨horder, horder', fun t ht u hu => ?_⟩, ?_⟩
    · exact hacross t (hreadings ht) u (hreadings' hu)
    · exact List.append_subset.mpr ⟨fun t ht => List.mem_append_left _ (hreadings ht),
        fun t ht => List.mem_append_right _ (hreadings' ht)⟩

end

/-! ### Flushes one at a time -/

/-- A flush that is alone leaves nothing behind. -/
theorem eraseIdx_of_alone {τ : Type} {w : Watch τ} (halone : w.flushes.length ≤ 1) {slot : Nat}
    {flush : Flush} (hslot : w.flushes[slot]? = some flush) : w.flushes.eraseIdx slot = [] := by
  obtain ⟨hinRange, _⟩ := List.getElem?_eq_some_iff.mp hslot
  rw [← List.length_eq_zero_iff, List.length_eraseIdx_of_lt hinRange]
  omega

section
variable {τ : Type} [Sub τ] [LE τ] [DecidableLE τ]

/-- Is no more than one flush under way at any moment of a run? -/
def OneAtATime (registry : Registry) (w : Watch τ) (moves : List (Move τ)) : Prop :=
  ∀ front, front <+: moves → (w.run registry front).flushes.length ≤ 1

/-- Is the breaker closed if a flush is under way? -/
def Quiet (w : Watch τ) : Prop := w.flushes ≠ [] → w.monitor.breaker.openedAt = none

/-- A batch that is handed on is under way only if the breaker is closed. -/
theorem handOver_flushes (w : Watch τ) (now : τ) (batch : List Match) (numbers : List Nat) :
    (w.handOver now batch numbers).flushes = w.flushes ∨
      (w.handOver now batch numbers).monitor.breaker.openedAt = none := by
  obtain ⟨_, haccount, hvalue⟩ | ⟨_, hclosed, haccount, _⟩ | ⟨_, _, haccount, hvalue⟩ :=
    w.monitor.offer_account_cases now batch
  · simp only [handOver, hvalue]
    exact .inl rfl
  · rw [handOver_breaker, haccount, Breaker.afterAll_append]
    exact .inr hclosed
  · simp only [handOver, hvalue]
    exact .inl rfl

/-- A flush that was alone and goes on is over, or the breaker is closed. -/
theorem goOn_flushes {w : Watch τ} (halone : w.flushes.length ≤ 1) (slot : Nat) (offeredAt : τ)
    (noted : Match → Monitor τ) :
    w.goOn slot offeredAt noted = w ∨ (w.goOn slot offeredAt noted).flushes = [] ∨
      (w.goOn slot offeredAt noted).monitor.breaker.openedAt = none := by
  unfold goOn
  split
  · exact .inl rfl
  · rename_i flush hslot
    split
    · exact .inl rfl
    · rename_i first rest _
      have hgone : (w.settle slot flush (noted first)).flushes = [] :=
        eraseIdx_of_alone halone hslot
      refine .inr ((handOver_flushes _ offeredAt rest _).imp_left fun hsame => ?_)
      rw [hsame, hgone]

/-- If no flush is under way, there is one after a move only if the breaker is closed then. -/
theorem flushes_after_of_idle (registry : Registry) {w : Watch τ} (hidle : w.flushes = [])
    (move : Move τ) : (w.after registry move).flushes = [] ∨
      (w.after registry move).monitor.breaker.openedAt = none := by
  have hnobody : ∀ slot : Nat, w.flushes[slot]? = none := fun slot => by
    rw [hidle, List.getElem?_nil]
  cases move with
  | flush takenAt offeredAt =>
    simp only [after, flush]
    split
    · exact .inl hidle
    · refine (handOver_flushes _ offeredAt _ _).imp_left fun hsame => ?_
      rw [hsame]
      exact hidle
  | received slot offeredAt | refused slot settledAt offeredAt error =>
    simp only [after, goOn, hnobody]
    exact .inl hidle
  | interrupted slot =>
    simp only [after, hnobody]
    exact .inl hidle
  | start session user now =>
    simp only [after, start]
    split <;> exact .inl hidle
  | evaluated slot =>
    simp only [after]
    split <;> exact .inl hidle
  | sweepOn slot =>
    simp only [after]
    split
    · exact .inl hidle
    · unfold sweepOn
      split <;> exact .inl hidle
  | report | stop | sweep | setRules | failure => exact .inl hidle

/-- **A move keeps a monitor quiet** whose flushes do not overlap, if it counts no failure that is
    none of the receiver's. -/
theorem Quiet.after {w : Watch τ} (h : w.Quiet) (halone : w.flushes.length ≤ 1)
    (registry : Registry) {move : Move τ} (hmove : ∀ now, move ≠ .failure now) :
    (w.after registry move).Quiet := by
  intro hsome
  by_cases hidle : w.flushes = []
  · exact (flushes_after_of_idle registry hidle move).resolve_left hsome
  · cases hfailing : move.isFailing with
    | false => exact closed_after registry (h hidle) hfailing
    | true =>
      cases move with
      | refused slot settledAt offeredAt error =>
        obtain hsame | hover | hclosed := goOn_flushes halone slot offeredAt fun first =>
          (w.monitor.settleRefused settledAt first error).value
        · show (w.goOn slot offeredAt _).monitor.breaker.openedAt = none
          rw [hsame]
          exact h hidle
        · exact absurd hover hsome
        · exact hclosed
      | failure now => exact absurd rfl (hmove now)
      | _ => cases hfailing

/-- A run of flushes that do not overlap keeps a monitor quiet. -/
theorem quiet_run (registry : Registry) {w : Watch τ} (h : w.Quiet) {moves : List (Move τ)}
    (halone : w.OneAtATime registry moves) (hmoves : ∀ now, .failure now ∉ moves) :
    (w.run registry moves).Quiet := by
  induction moves generalizing w with
  | nil => exact h
  | cons move rest ih =>
    refine ih (h.after (halone [] (List.nil_prefix)) registry fun now hmove => ?_) ?_ ?_
    · exact hmoves now (hmove ▸ List.mem_cons_self)
    · intro front hfront
      exact halone (move :: front) ((List.prefix_cons_inj move).mpr hfront)
    · exact fun now hmem => hmoves now (List.mem_cons_of_mem move hmem)

end

/-! ### Matches that wait for the cooldown -/

/-- Is a breaker open since some time, with no flush under way, and do some matches wait in front
    of all others? -/
structure Waits {τ : Type} (w : Watch τ) (start : τ) (queue : List Match) : Prop where
  receives : w.monitor.hasReceiver = true
  opened : w.monitor.breaker.openedAt = some start
  idle : w.flushes = []
  front : queue <+: w.monitor.pending

/-- Where the matches, the breaker and the flushes stay as they are, what waits goes on waiting. -/
theorem Waits.of_same {τ : Type} {w w' : Watch τ} {start : τ} {queue : List Match}
    (h : w.Waits start queue) (hqueue : w.monitor.SameQueue w'.monitor)
    (hbreaker : w'.monitor.breaker = w.monitor.breaker) (hflushes : w'.flushes = w.flushes) :
    w'.Waits start queue := by
  refine ⟨hqueue.hasReceiver.trans h.receives, ?_, hflushes.trans h.idle, ?_⟩
  · rw [hbreaker]
    exact h.opened
  · rw [hqueue.pending]
    exact h.front

section
variable {τ : Type} [Sub τ] [LE τ] [DecidableLE τ]

/-- A batch that is offered too early to an open breaker is put back. -/
theorem handOver_of_early (w : Watch τ) {start now : τ}
    (hopened : w.monitor.breaker.openedAt = some start)
    (hearly : ¬ w.monitor.breaker.cooldown ≤ now - start) (batch : List Match)
    (numbers : List Nat) :
    (w.handOver now batch numbers).flushes = w.flushes ∧
      (w.handOver now batch numbers).monitor =
        { w.monitor with pending := batch ++ w.monitor.pending } := by
  have hread : w.monitor.breaker.readAccount now = [] :=
    Breaker.readAccount_of_early hopened hearly
  obtain ⟨rfl, _, hvalue⟩ | ⟨_, hclosed, _⟩ | ⟨_, _, _, hvalue⟩ :=
    w.monitor.offer_account_cases now batch
  · simp only [handOver, hvalue]
    exact ⟨rfl, rfl⟩
  · rw [hread] at hclosed
    exact absurd (hopened.symm.trans hclosed) (Option.some_ne_none _)
  · rw [hread] at hvalue
    simp only [handOver, hvalue]
    exact ⟨rfl, rfl⟩

/-- A flush that begins too early for an open breaker takes nothing. -/
theorem takePending_of_early {m : Monitor τ} (hreceives : m.hasReceiver = true) {start now : τ}
    (hopened : m.breaker.openedAt = some start) (hearly : ¬ m.breaker.cooldown ≤ now - start) :
    (m.takePending now).value = ([], m) := by
  have hread : m.breaker.read now = pure (true, m.breaker) := by
    unfold Breaker.read
    simp only [hopened, if_neg hearly]
  rw [Monitor.takePending, if_pos hreceives]
  simp only [Recorded.bind_value, Recorded.pure_value, Monitor.readBreaker, hread, if_true]

/-- A match is refused that makes the failures as many as the threshold.  If its flush is alone
    and the cooldown has not passed by then, the matches behind it wait. -/
theorem waits_after_refused (registry : Registry) {w : Watch τ} (halone : w.flushes.length ≤ 1)
    (hreceives : w.monitor.hasReceiver = true) (hopens : w.monitor.breaker.opensNext = true)
    {slot : Nat} {flush : Flush} (hslot : w.flushes[slot]? = some flush) {first : Match}
    {rest : List Match} (hbatch : flush.batch = first :: rest) {failedAt offeredAt : τ}
    (hearly : ¬ w.monitor.breaker.cooldown ≤ offeredAt - failedAt) (error : String) :
    (w.after registry (.refused slot failedAt offeredAt error)).Waits failedAt
      (rest ++ w.monitor.pending) := by
  let settled := w.settle slot flush (w.monitor.settleRefused failedAt first error).value
  have hopened : settled.monitor.breaker.openedAt = some failedAt := by
    show (w.monitor.breaker.after (.failed failedAt true)).openedAt = some failedAt
    rw [Breaker.after_failed_openedAt, if_pos hopens]
  have hcooldown : settled.monitor.breaker.cooldown = w.monitor.breaker.cooldown :=
    (w.monitor.breaker.after_settings (.failed failedAt true)).1
  -- The next question comes too early, so the rest of the batch is put back.
  obtain ⟨hflushes, hmonitor⟩ := settled.handOver_of_early hopened (hcooldown ▸ hearly) rest
    (flush.numbers.drop 1)
  simp only [after, goOn, hslot, hbatch]
  refine ⟨?_, ?_, ?_, ?_⟩
  · rw [hmonitor]
    exact hreceives
  · rw [hmonitor]
    exact hopened
  · rw [hflushes]
    exact eraseIdx_of_alone halone hslot
  · rw [hmonitor]
    exact List.prefix_refl _

/-- **Until the cooldown has passed** no move makes a difference to the matches that wait, except
    that others are queued behind them. -/
theorem Waits.after {w : Watch τ} {start : τ} {queue : List Match} (h : w.Waits start queue)
    (registry : Registry) {move : Move τ}
    (hearly : ∀ now ∈ move.readings, ¬ w.monitor.breaker.cooldown ≤ now - start) :
    (w.after registry move).Waits start queue := by
  have hnobody : ∀ slot : Nat, w.flushes[slot]? = none := fun slot => by
    rw [h.idle, List.getElem?_nil]
  cases move with
  | flush takenAt offeredAt =>
    have hnone : (w.monitor.takePending takenAt).value = ([], w.monitor) :=
      takePending_of_early h.receives h.opened (hearly takenAt List.mem_cons_self)
    simp only [Watch.after, Watch.flush, hnone, List.isEmpty_nil, if_true]
    exact h.of_same (.refl _) rfl rfl
  | failure now =>
    -- A failure does not open a breaker again that is open, so its cooldown goes on.
    refine ⟨h.receives, ?_, h.idle, h.front⟩
    show (w.monitor.breaker.after (.failed now true)).openedAt = some start
    rw [Breaker.after_failed_openedAt, Breaker.opensNext_of_open h.opened]
    exact h.opened
  | evaluated slot =>
    simp only [Watch.after]
    split
    · exact h
    · rename_i evaluation _
      refine ⟨?_, ?_, h.idle, ?_⟩
      all_goals simp only [Watch.enqueue, Monitor.enqueue]
      · split <;> exact h.receives
      · split <;> exact h.opened
      · split
        · exact h.front
        · exact h.front.trans (List.prefix_append _ _)
  | received slot offeredAt | refused slot settledAt offeredAt error =>
    simp only [Watch.after, goOn, hnobody]
    exact h
  | interrupted slot =>
    simp only [Watch.after, hnobody]
    exact h
  | start session user now =>
    have hmonitor := after_start_monitor registry w session user now
    refine h.of_same ?_ ?_ ?_
    · rw [hmonitor]
      exact w.monitor.register_sameQueue session user now
    · rw [hmonitor]
      exact w.monitor.register_breaker session user now
    · simp only [Watch.after, Watch.start]
      split <;> rfl
  | report id stateName position now =>
    exact h.of_same (w.monitor.update_sameQueue id stateName position now)
      (w.monitor.update_breaker id stateName position now) rfl
  | stop id stoppedAt forced =>
    exact h.of_same (w.monitor.stopSession_sameQueue id stoppedAt forced)
      (w.monitor.stopSession_breaker id stoppedAt forced) rfl
  | sweepOn slot =>
    simp only [Watch.after]
    split
    · exact h
    · rename_i sweep _
      unfold Watch.sweepOn
      split
      · exact h.of_same (w.monitor.prune_sameQueue sweep.now)
          (w.monitor.prune_breaker sweep.now) rfl
      · exact h.of_same (w.monitor.sweepOne_sameQueue _ sweep.now)
          (w.monitor.sweepOne_breaker _ sweep.now) rfl
  | sweep | setRules => exact h.of_same ⟨rfl, rfl⟩ rfl rfl

/-- The cooldown stays as it was set. -/
theorem cooldown_after (registry : Registry) (w : Watch τ) (move : Move τ) :
    (w.after registry move).monitor.breaker.cooldown = w.monitor.breaker.cooldown := by
  rw [(after_account registry w move).2]
  exact (w.monitor.breaker.afterAll_settings _).1

/-- Until the cooldown has passed no run makes a difference to the matches that wait. -/
theorem Waits.run {w : Watch τ} {start : τ} {queue : List Match} (h : w.Waits start queue)
    (registry : Registry) {moves : List (Move τ)} (hearly : ∀ now ∈ moves.flatMap Move.readings,
      ¬ w.monitor.breaker.cooldown ≤ now - start) : (w.run registry moves).Waits start queue := by
  induction moves generalizing w with
  | nil => exact h
  | cons move rest ih =>
    rw [List.flatMap_cons] at hearly
    refine ih (h.after registry fun now hnow => hearly now (List.mem_append_left _ hnow)) ?_
    intro now hnow
    rw [cooldown_after]
    exact hearly now (List.mem_append_right _ hnow)

/-- What is behind a match waits until the cooldown has passed, if the failure of the match opens
    the breaker and its flush is alone. -/
theorem waiting_run_refused (registry : Registry) {w : Watch τ} (halone : w.flushes.length ≤ 1)
    (hreceives : w.monitor.hasReceiver = true) (hopens : w.monitor.breaker.opensNext = true)
    {slot : Nat} {flush : Flush} (hslot : w.flushes[slot]? = some flush) {first : Match}
    {rest : List Match} (hbatch : flush.batch = first :: rest) {failedAt offeredAt : τ}
    {later : List (Move τ)} (hearly : ∀ now ∈ offeredAt :: later.flatMap Move.readings,
      ¬ w.monitor.breaker.cooldown ≤ now - failedAt) (error : String) :
    rest ++ w.monitor.pending <+:
      (w.run registry (.refused slot failedAt offeredAt error :: later)).monitor.pending := by
  have hwaits := waits_after_refused registry halone hreceives hopens hslot hbatch
    (hearly offeredAt List.mem_cons_self) error
  refine (hwaits.run registry fun now hnow => ?_).front
  rw [cooldown_after]
  exact hearly now (List.mem_cons_of_mem _ hnow)

/-- What is told of a run that begins with a failure that opens the breaker. -/
theorem runAccount_refused (registry : Registry) {w : Watch τ}
    (hopens : w.monitor.breaker.opensNext = true) {slot : Nat} {flush : Flush}
    (hslot : w.flushes[slot]? = some flush) (hbatch : flush.batch ≠ []) (failedAt offeredAt : τ)
    (error : String) (later : List (Move τ)) :
    ∃ back, w.runAccount registry (.refused slot failedAt offeredAt error :: later) =
      .failed failedAt true :: back := by
  obtain ⟨first, rest, hcons⟩ := List.exists_cons_of_ne_nil hbatch
  simp only [runAccount, account, goOnAccount, hslot, hcons, Breaker.failureAt_of_opens hopens]
  exact ⟨_, List.cons_append⟩

end

/-! ### The breaker of a monitor in use -/

section
variable {τ : Type} [Sub τ] [LE τ] [DecidableLE τ]

/-- While a flush that is alone is under way, and only the receiver fails, the failure of its match
    opens the breaker if it makes the failures in a row as many as the threshold. -/
theorem opensNext_of_row (registry : Registry) {m : Monitor τ} (hclosed : m.breaker.openedAt = none)
    {threshold : Int} (hthreshold : m.breaker.threshold = .int threshold) {moves : List (Move τ)}
    (halone : (fresh m).OneAtATime registry moves) (hmoves : ∀ now, .failure now ∉ moves)
    (hbusy : ((fresh m).run registry moves).flushes ≠ []) {front row : List (Happening τ)}
    (haccount : (fresh m).runAccount registry moves = front ++ row)
    (hrow : ∀ happening ∈ row, happening.endsRow = false)
    (hcount : threshold ≤ row.countP Happening.isFailure + 1) :
    ((fresh m).run registry moves).monitor.breaker.opensNext = true := by
  have hquiet : (fresh m).Quiet := fun _ => hclosed
  have hbreaker := (run_account registry (fresh m) moves).2
  rw [haccount] at hbreaker
  have hkept : ((fresh m).run registry moves).monitor.breaker.threshold = .int threshold := by
    rw [hbreaker, ((fresh m).monitor.breaker.afterAll_settings _).2]
    exact hthreshold
  have hcounted : threshold ≤ ((fresh m).run registry moves).monitor.breaker.failures + 1 := by
    have hle := ((fresh m).monitor.breaker.afterAll front).count_failed_le hrow
    rw [hbreaker, Breaker.afterAll_append]
    omega
  exact Breaker.opens_of_count hkept (quiet_run registry hquiet halone hmoves hbusy) hcounted

end

section
variable {τ : Type} [AddCommGroup τ] [LinearOrder τ] [IsOrderedAddMonoid τ]

/-- A clock has not passed a cooldown at a time before its end. -/
theorem not_cooldown_le_of_lt {start cooldown now : τ} (h : now < start + cooldown) :
    ¬ cooldown ≤ now - start := by
  rw [le_sub_iff_add_le, add_comm]
  exact not_le_of_gt h

/-- **The breaker holds matches back.**  A monitor with a receiver is used in any way, with or
    without faults, and the clock of its breaker never goes back.

    * The account of the run tells of every call of the receiver.
    * While the breaker is open the receiver is not called before the cooldown has passed, whatever
      matches, flushes and failures come together.
    * Nor is it called before that after an entry by which the breaker opens, which may be in the
      middle of a move.
    * Flushes do not overlap, and only the receiver fails.  Then as many failures as the threshold,
      with neither a success nor a closing of the breaker between them, are not followed by a call
      before the cooldown has passed since the last of them, and until then the matches behind it
      wait in front of all others. -/
theorem breaker_holds_back (registry : Registry) (server : Server) (config : MonitorConfig)
    (rules : List Rule) (cooldown : τ) {moves : List (Move τ)}
    (hclock : (moves.flatMap Move.readings).Pairwise (· ≤ ·)) :
    let begun := fresh (.fresh server config rules true cooldown)
    let all := begun.runAccount registry moves
    (begun.run registry moves).desk.begun.length = all.countP Happening.isCall ∧
    (∀ before later openedAt, moves = before ++ later →
      (begun.run registry before).monitor.breaker.openedAt = some openedAt →
      ∀ now, .called now ∈ (begun.run registry before).runAccount registry later →
        openedAt + cooldown ≤ now) ∧
    (∀ front openedAt back, all = front ++ .failed openedAt true :: back →
      ∀ now, .called now ∈ back → openedAt + cooldown ≤ now) ∧
    (begun.OneAtATime registry moves → (∀ now, .failure now ∉ moves) →
      ∀ before slot failedAt offeredAt error later,
        moves = before ++ .refused slot failedAt offeredAt error :: later →
        ∀ flush first rest, (begun.run registry before).flushes[slot]? = some flush →
        flush.batch = first :: rest →
        ∀ front row, begun.runAccount registry before = front ++ row →
        (∀ happening ∈ row, happening.endsRow = false) →
        config.breakerThreshold ≤ row.countP Happening.isFailure + 1 →
        (∀ now, .called now ∈ (begun.run registry before).runAccount registry
            (.refused slot failedAt offeredAt error :: later) → failedAt + cooldown ≤ now) ∧
        ((∀ now ∈ offeredAt :: later.flatMap Move.readings, now < failedAt + cooldown) →
          rest ++ (begun.run registry before).monitor.pending <+:
            (begun.run registry moves).monitor.pending)) := by
  intro begun all
  have hallowed : begun.monitor.breaker.AllowsAll all := (run_account registry begun moves).1
  have horder : (timesOf all).Pairwise (· ≤ ·) := (clock_run registry begun hclock).1
  have hopened : ∀ front openedAt back, all = front ++ .failed openedAt true :: back →
      ∀ now, .called now ∈ back → openedAt + cooldown ≤ now := by
    intro front openedAt back hall now hcalled
    rw [hall] at hallowed horder
    exact Breaker.cooldown_le_of_opened hallowed horder hcalled
  have hcooldown : ∀ before, (begun.run registry before).monitor.breaker.cooldown = cooldown := by
    intro before
    rw [(run_account registry begun before).2]
    exact (begun.monitor.breaker.afterAll_settings _).1
  refine ⟨?_, ?_, hopened, ?_⟩
  · have hbegun := run_begun (conserved_fresh rfl rfl) registry (w := begun) moves
    rw [hbegun]
    exact Nat.zero_add _
  · intro before later openedAt hsplit hopen now hcalled
    have hlater : (later.flatMap Move.readings).Pairwise (· ≤ ·) := by
      rw [hsplit, List.flatMap_append] at hclock
      exact (List.pairwise_append.mp hclock).2.1
    have hle := Breaker.cooldown_le_of_called hopen (run_account registry _ later).1
      (clock_run registry _ hlater).1 hcalled
    rwa [hcooldown] at hle
  · intro halone hmoves before slot failedAt offeredAt error later hsplit flush first rest hslot
      hbatch front row haccount hrow hcount
    have hbefore : before <+: moves := hsplit ▸ List.prefix_append before _
    have hopens : (begun.run registry before).monitor.breaker.opensNext = true :=
      opensNext_of_row registry rfl rfl (fun front hfront => halone front (hfront.trans hbefore))
        (fun now hmem => hmoves now (hbefore.subset hmem))
        (fun hidle => by rw [hidle] at hslot; cases hslot) haccount hrow hcount
    refine ⟨fun now hcalled => ?_, fun hearly => ?_⟩
    · obtain ⟨back, hback⟩ := runAccount_refused registry hopens hslot
        (hbatch ▸ List.cons_ne_nil first rest) failedAt offeredAt error later
      rw [hback] at hcalled
      obtain hcalled | hcalled := List.mem_cons.mp hcalled
      · cases hcalled
      · refine hopened (begun.runAccount registry before) failedAt back ?_ now hcalled
        show begun.runAccount registry moves = _
        rw [hsplit, runAccount_append, hback]
    · -- No flush is left that could take anything from the matches behind it.
      have hreceives : (begun.run registry before).monitor.hasReceiver = true :=
        ((conserved_fresh rfl rfl).run registry before).receives
      rw [hsplit, run_append]
      refine waiting_run_refused registry (halone before hbefore) hreceives hopens hslot hbatch
        (fun now hnow => ?_) error
      rw [hcooldown]
      exact not_cooldown_le_of_lt (hearly now hnow)

end

/-- Settings with which the second failure in a row opens the breaker. -/
def twoFailures : MonitorConfig := { MonitorConfig.standard with breakerThreshold := 2 }

/-- A rule that matches every session. -/
def everySession : Rule := ⟨"every", "Every session", none, true, none, some ⟨[]⟩, none, none, none⟩

/-- Three sessions start, and their matches are handed on.  The receiver refuses the first of them
    and is called for the second one. -/
def hardTime : List (Move Int) :=
  let start id : Move Int :=
    .start (Session.starting id "ann" "server" (.universal Duration.day)) ann ⟨Duration.day, some 0⟩
  [start "film", .evaluated 0, start "song", .evaluated 0, start "show", .evaluated 0,
    .flush 100 100, .refused 0 101 101 "busy"]

/-- The second match is refused too, and a flush begins before the cooldown has passed. -/
def brokenOff : List (Move Int) := [.refused 0 103 103 "busy", .flush 150 150]

/-- A monitor for that. -/
def atWork : Monitor Int :=
  .fresh ⟨"server", "Home", none⟩ twoFailures [everySession] true 60

/-- The second failure opens the breaker for a minute.  The third match waits for that long, and
    then the receiver is called for it. -/
theorem breaker_holds_back_hardTime :
    let all := hardTime ++ brokenOff ++ [.flush 163 163]
    (all.flatMap Move.readings).Pairwise (· ≤ ·) ∧ (fresh atWork).OneAtATime .standard all ∧
    (fresh atWork).runAccount .standard all =
      [.called 100, .failed 101 false, .called 101, .failed 103 true, .reset 163, .called 163] ∧
    (∀ now, .called now ∈ ((fresh atWork).run .standard hardTime).runAccount .standard
      (brokenOff ++ [.flush 163 163]) → 103 + 60 ≤ now) ∧
    ∃ third, third.session.id = "show" ∧
      [third] <+: ((fresh atWork).run .standard (hardTime ++ brokenOff)).monitor.pending := by
  intro all
  have hclock : (all.flatMap Move.readings).Pairwise (· ≤ ·) := by decide
  have halone : (fresh atWork).OneAtATime .standard all := fun front hfront => by
    have hinits : ∀ front ∈ all.inits, ((fresh atWork).run .standard front).flushes.length ≤ 1 := by
      decide +kernel
    exact hinits front ((List.mem_inits front all).mpr hfront)
  have hreceiver : ∀ now, .failure now ∉ all := by
    intro now hmem
    simp [all, hardTime, brokenOff] at hmem
  have htold : (fresh atWork).runAccount .standard all =
      [.called 100, .failed 101 false, .called 101, .failed 103 true, .reset 163, .called 163] := by
    decide +kernel
  have hbefore : (fresh atWork).runAccount .standard hardTime =
      [.called 100] ++ [.failed 101 false, .called 101] := by decide +kernel
  have hrow : ∀ happening ∈ ([.failed 101 false, .called 101] : List (Happening Int)),
      happening.endsRow = false := by decide
  have hcount : twoFailures.breakerThreshold ≤
      ([.failed 101 false, .called 101] : List (Happening Int)).countP Happening.isFailure + 1 := by
    decide
  have hunderWay : ((fresh atWork).run .standard hardTime).flushes[0]?.map (fun flush =>
      flush.batch.map fun found => found.session.id) = some ["song", "show"] := by decide +kernel
  obtain ⟨flush, hslot, hids⟩ := Option.map_eq_some_iff.mp hunderWay
  obtain ⟨second, rest, hbatch, _, hrest⟩ := List.map_eq_cons_iff.mp hids
  obtain ⟨third, behind, rfl, hthird, hbehind⟩ := List.map_eq_cons_iff.mp hrest
  obtain rfl := List.map_eq_nil_iff.mp hbehind
  -- The whole run is behind the calls, and its first part is behind the match that waits.
  have hpart : hardTime ++ brokenOff <+: all := List.prefix_append _ _
  have hclock' : ((hardTime ++ brokenOff).flatMap Move.readings).Pairwise (· ≤ ·) := by decide
  have hheld := (breaker_holds_back .standard ⟨"server", "Home", none⟩ twoFailures [everySession]
    60 hclock).2.2.2 halone hreceiver hardTime 0 103 103 "busy" [.flush 150 150, .flush 163 163] rfl
    flush second [third] hslot hbatch [.called 100] [.failed 101 false, .called 101] hbefore hrow
    hcount
  have hwaiting := (breaker_holds_back .standard ⟨"server", "Home", none⟩ twoFailures
    [everySession] 60 hclock').2.2.2 (fun front hfront => halone front (hfront.trans hpart))
    (fun now hmem => hreceiver now (hpart.subset hmem)) hardTime 0 103 103 "busy"
    [.flush 150 150] rfl flush second [third] hslot hbatch [.called 100]
    [.failed 101 false, .called 101] hbefore hrow hcount
  refine ⟨hclock, halone, htold, hheld.1, third, hthird, ?_⟩
  have hearly : ∀ now ∈ (103 : Int) :: ([.flush 150 150] : List (Move Int)).flatMap Move.readings,
      now < 103 + 60 := by decide
  have hwaits : [third] ++ ((fresh atWork).run .standard hardTime).monitor.pending <+:
      ((fresh atWork).run .standard (hardTime ++ brokenOff)).monitor.pending := hwaiting.2 hearly
  exact (List.prefix_append _ _).trans hwaits

end Watch

end StreamWatch
