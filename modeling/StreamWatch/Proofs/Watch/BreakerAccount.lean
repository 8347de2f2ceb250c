import StreamWatch.Proofs.Breaker.Account
import StreamWatch.Proofs.Watch.Dispatch
import StreamWatch.Proofs.Watch.Registration

namespace StreamWatch

/-!
# The account of a run

The receiver is called by flushes, which ask the breaker before every call.  Other callers may
count failures between one question and the next, and they may close the breaker by asking it
themselves.  The account of a run tells of all that in its order.

* `Watch.account`, `Watch.runAccount` — what a move, or a run, tells of calls and of the breaker,
  read off what the operations return and note;
* `Watch.run_account` — the breaker after a run is that after its account, and allows every entry
  of it;
* `Watch.run_begun` — a run begins as many calls of the receiver as it tells of.
-/

/-- A notice that the breaker was closed by a reading. -/
def Notice.resetAt {τ : Type} (now : τ) : Notice τ → Option (Happening τ)
  | .breaker .reset => some (.reset now)
  | _ => none

/-- What a notice of a reading tells is that it closed the breaker. -/
theorem Notice.isReset_of_resetAt {τ : Type} {now : τ} {notices : List (Notice τ)}
    {happening : Happening τ} (h : happening ∈ notices.filterMap (resetAt now)) :
    happening = .reset now := by
  obtain ⟨notice, _, hreset⟩ := List.mem_filterMap.mp h
  unfold resetAt at hreset
  split at hreset
  · exact (Option.some.inj hreset).symm
  · cases hreset

namespace Monitor

/-! ### Operations on sessions -/

section
variable {τ : Type} (m : Monitor τ)

/-- A registration leaves the breaker alone. -/
theorem register_breaker (session : Session) (user : User) (now : Timestamp) :
    (m.register session user now).monitor.breaker = m.breaker := by
  have hheld : (m.addLock session.id).breaker = m.breaker := by
    unfold addLock
    split <;> rfl
  unfold register
  simp only
  split <;> exact hheld

/-- The end of a session leaves the breaker alone. -/
theorem finish_breaker (session : Session) (stoppedAt : Moment) (forced : Datum) :
    (m.finish session stoppedAt forced).monitor.breaker = m.breaker := by
  unfold finish
  split <;> rfl

/-- A stop leaves the breaker alone. -/
theorem stopSession_breaker (id : Datum) (stoppedAt : Timestamp) (forced : Datum) :
    (m.stopSession id stoppedAt forced).monitor.breaker = m.breaker := by
  unfold stopSession
  split
  · rfl
  · rfl
  · exact m.finish_breaker _ _ _

/-- A report leaves the breaker alone. -/
theorem update_breaker (id : Datum) (stateName : String) (position : Datum) (now : Timestamp) :
    (m.update id stateName position now).monitor.breaker = m.breaker := by
  unfold update
  split
  · rfl
  · split
    · rfl
    · rfl
    · simp only [Outcome.map, report]
      split
      · rfl
      · split
        · exact m.finish_breaker _ _ _
        · rfl

/-- A look at one session in a sweep leaves the breaker alone. -/
theorem sweepOne_breaker (id : String) (now : Moment) :
    (m.sweepOne id now).monitor.breaker = m.breaker := by
  unfold sweepOne
  split
  · rfl
  · split
    · rfl
    · rfl
    · exact m.finish_breaker _ _ _

/-- The pruning of the histories leaves the breaker alone. -/
theorem prune_breaker (now : Moment) : (m.prune now).monitor.breaker = m.breaker := by
  unfold prune
  split <;> rfl

/-- The matches of a session leave the breaker alone. -/
theorem enqueue_breaker (session : Session) (found : List Verdict) :
    (m.enqueue session found).monitor.breaker = m.breaker := by
  unfold enqueue
  split <;> rfl

end

/-! ### Flushes -/

variable {τ : Type} [Sub τ] [LE τ] [DecidableLE τ]

/-- What a monitor tells that offers a batch. -/
def offerAccount (m : Monitor τ) (now : τ) (batch : List Match) : List (Happening τ) :=
  let offered := m.offer now batch
  offered.steps.filterMap (Notice.resetAt now) ++
    if offered.value.1.isEmpty then [] else [.called now]

/-- What a monitor tells that takes the matches that wait. -/
def takeAccount (m : Monitor τ) (now : τ) : List (Happening τ) :=
  (m.takePending now).steps.filterMap (Notice.resetAt now)

/-- A reading is told of by its notices. -/
theorem readBreaker_account (m : Monitor τ) (now : τ) :
    (m.readBreaker now).steps.filterMap (Notice.resetAt now) = m.breaker.readAccount now := by
  unfold readBreaker Breaker.readAccount Breaker.read
  simp only
  split
  · rfl
  · split <;> rfl

/-- What comes of a batch that is offered: an empty one is over, any other one is handed on if
    the breaker is closed by then, and is put back if it is open. -/
theorem offer_account_cases (m : Monitor τ) (now : τ) (batch : List Match) :
    (batch = [] ∧ m.offerAccount now batch = [] ∧ (m.offer now batch).value = ([], m)) ∨
    (batch ≠ [] ∧ (m.breaker.afterAll (m.breaker.readAccount now)).openedAt = none ∧
      m.offerAccount now batch = m.breaker.readAccount now ++ [.called now] ∧
      (m.offer now batch).value =
        (batch, { m with breaker := m.breaker.afterAll (m.breaker.readAccount now) })) ∨
    (batch ≠ [] ∧ (m.breaker.afterAll (m.breaker.readAccount now)).openedAt.isSome ∧
      m.offerAccount now batch = m.breaker.readAccount now ∧
      (m.offer now batch).value =
        ([], { m with
          breaker := m.breaker.afterAll (m.breaker.readAccount now)
          pending := batch ++ m.pending })) := by
  obtain ⟨_, hbreaker, hheld⟩ := m.breaker.read_cases now
  unfold offerAccount offer
  cases batch with
  | nil => exact .inl ⟨rfl, rfl, rfl⟩
  | cons first rest =>
    have hread : (m.readBreaker now).value =
        ((m.breaker.afterAll (m.breaker.readAccount now)).openedAt.isSome,
          { m with breaker := m.breaker.afterAll (m.breaker.readAccount now) }) := by
      unfold readBreaker
      simp only [hbreaker, hheld]
    simp only [List.isEmpty_cons, Bool.false_eq_true, if_false, Recorded.bind_value,
      Recorded.bind_steps, Recorded.pure_value, Recorded.pure_steps, List.append_nil, hread,
      readBreaker_account]
    right
    cases hopen : (m.breaker.afterAll (m.breaker.readAccount now)).openedAt with
    | none =>
      left
      exact ⟨nofun, rfl, rfl, rfl⟩
    | some start =>
      right
      refine ⟨nofun, rfl, ?_, rfl⟩
      simp only [Option.isSome_some, if_true, List.isEmpty_nil, List.append_nil]

/-- What is told of the matches that are taken is that this closed the breaker. -/
theorem isReset_of_takeAccount {m : Monitor τ} {now : τ} {happening : Happening τ}
    (h : happening ∈ m.takeAccount now) : happening = .reset now :=
  Notice.isReset_of_resetAt h

/-- The account of a batch that is offered. -/
theorem offer_account (m : Monitor τ) (now : τ) (batch : List Match) :
    m.breaker.AllowsAll (m.offerAccount now batch) ∧
      (m.offer now batch).value.2.breaker = m.breaker.afterAll (m.offerAccount now batch) := by
  obtain ⟨hallowed, _⟩ := m.breaker.read_cases now
  obtain ⟨_, haccount, hvalue⟩ | ⟨_, hclosed, haccount, hvalue⟩ | ⟨_, _, haccount, hvalue⟩ :=
    m.offer_account_cases now batch
  · rw [haccount, hvalue]
    exact ⟨trivial, rfl⟩
  · rw [haccount, hvalue, Breaker.allowsAll_append, Breaker.afterAll_append]
    exact ⟨⟨hallowed, hclosed, trivial⟩, rfl⟩
  · rw [haccount, hvalue]
    exact ⟨hallowed, rfl⟩

/-- The account of the matches that are taken. -/
theorem takePending_account (m : Monitor τ) (now : τ) :
    m.breaker.AllowsAll (m.takeAccount now) ∧
      (m.takePending now).value.2.breaker = m.breaker.afterAll (m.takeAccount now) := by
  obtain ⟨hallowed, hbreaker, _⟩ := m.breaker.read_cases now
  unfold takeAccount takePending
  split
  · simp only [Recorded.bind_steps, Recorded.bind_value, Recorded.pure_steps, Recorded.pure_value,
      List.append_nil, readBreaker_account]
    refine ⟨hallowed, ?_⟩
    split <;> exact hbreaker
  · exact ⟨trivial, rfl⟩

/-- What is told of a batch that is offered is no failure. -/
theorem isFailure_of_offerAccount {m : Monitor τ} {now : τ} {batch : List Match}
    {happening : Happening τ} (h : happening ∈ m.offerAccount now batch) :
    happening.isFailure = false := by
  obtain h | h := List.mem_append.mp h
  · rw [Notice.isReset_of_resetAt h]
    rfl
  · split at h
    · cases h
    · rw [List.mem_singleton.mp h]
      rfl

/-- The entries of a batch that is offered have the time of the offer. -/
theorem time_of_offerAccount {m : Monitor τ} {now t : τ} {batch : List Match}
    (h : t ∈ timesOf (m.offerAccount now batch)) : t = now := by
  obtain ⟨happening, hmem, htime⟩ := List.mem_filterMap.mp h
  obtain hmem | hmem := List.mem_append.mp hmem
  · rw [Notice.isReset_of_resetAt hmem] at htime
    exact (Option.some.inj htime).symm
  · split at hmem
    · cases hmem
    · obtain rfl := List.mem_singleton.mp hmem
      exact (Option.some.inj htime).symm

/-- The entries of the matches that are taken have the time at which they are. -/
theorem time_of_takeAccount {m : Monitor τ} {now t : τ} (h : t ∈ timesOf (m.takeAccount now)) :
    t = now := by
  obtain ⟨happening, hmem, htime⟩ := List.mem_filterMap.mp h
  rw [isReset_of_takeAccount hmem] at htime
  exact (Option.some.inj htime).symm

end Monitor

/-! ### Moves -/

/-- The readings of the clock that come with a move, in their order. -/
def Move.readings {τ : Type} : Move τ → List τ
  | .flush takenAt offeredAt => [takenAt, offeredAt]
  | .received _ offeredAt => [offeredAt]
  | .refused _ settledAt offeredAt _ => [settledAt, offeredAt]
  | .failure now => [now]
  | _ => []

/-- Is a failure counted by a move, if anything is? -/
def Move.isFailing {τ : Type} : Move τ → Bool
  | .refused .. | .failure _ => true
  | _ => false

namespace Watch

variable {τ : Type} [Sub τ] [LE τ] [DecidableLE τ]

/-- What a flush tells that goes on, if there is one in its slot. -/
def goOnAccount (w : Watch τ) (slot : Nat) (offeredAt : τ) (settled : Happening τ)
    (noted : Match → Monitor τ) : List (Happening τ) :=
  match w.flushes[slot]? with
  | none => []
  | some flush =>
    match flush.batch with
    | [] => []
    | first :: rest => settled :: (noted first).offerAccount offeredAt rest

/-- What a move tells of calls of the receiver and of the breaker. -/
def account (w : Watch τ) : Move τ → List (Happening τ)
  | .flush takenAt offeredAt =>
    let taken := (w.monitor.takePending takenAt).value
    w.monitor.takeAccount takenAt ++ taken.2.offerAccount offeredAt taken.1
  | .received slot offeredAt =>
    w.goOnAccount slot offeredAt .received fun _ => w.monitor.settleReceived
  | .refused slot settledAt offeredAt error =>
    w.goOnAccount slot offeredAt (w.monitor.breaker.failureAt settledAt) fun first =>
      (w.monitor.settleRefused settledAt first error).value
  | .failure now => [w.monitor.breaker.failureAt now]
  | _ => []

/-- What a run tells. -/
def runAccount (registry : Registry) (w : Watch τ) : List (Move τ) → List (Happening τ)
  | [] => []
  | move :: rest => w.account move ++ (w.after registry move).runAccount registry rest

/-- A run tells what its first part tells, and then what the rest does. -/
theorem runAccount_append (registry : Registry) (w : Watch τ) (first second : List (Move τ)) :
    w.runAccount registry (first ++ second) =
      w.runAccount registry first ++ (w.run registry first).runAccount registry second := by
  induction first generalizing w with
  | nil => rfl
  | cons move rest ih =>
    rw [List.cons_append, runAccount, ih, runAccount, List.append_assoc, run]

/-! ### The breaker of a run -/

/-- Handing a batch on leaves the breaker that the offer leaves. -/
theorem handOver_breaker (w : Watch τ) (now : τ) (batch : List Match) (numbers : List Nat) :
    (w.handOver now batch numbers).monitor.breaker =
      w.monitor.breaker.afterAll (w.monitor.offerAccount now batch) := by
  rw [← (w.monitor.offer_account now batch).2]
  unfold handOver
  simp only
  split <;> rfl

/-- The account of a flush that goes on. -/
theorem goOn_account (w : Watch τ) (slot : Nat) (offeredAt : τ) {settled : Happening τ}
    {noted : Match → Monitor τ} (hallowed : w.monitor.breaker.Allows settled)
    (hnoted : ∀ first, (noted first).breaker = w.monitor.breaker.after settled) :
    w.monitor.breaker.AllowsAll (w.goOnAccount slot offeredAt settled noted) ∧
      (w.goOn slot offeredAt noted).monitor.breaker =
        w.monitor.breaker.afterAll (w.goOnAccount slot offeredAt settled noted) := by
  unfold goOnAccount goOn
  cases w.flushes[slot]? with
  | none => exact ⟨trivial, rfl⟩
  | some flush =>
    simp only
    cases flush.batch with
    | nil => exact ⟨trivial, rfl⟩
    | cons first rest =>
      have hoffered := (noted first).offer_account offeredAt rest
      simp only
      rw [handOver_breaker]
      show (w.monitor.breaker.Allows settled ∧
          (w.monitor.breaker.after settled).AllowsAll ((noted first).offerAccount offeredAt rest)) ∧
        (noted first).breaker.afterAll ((noted first).offerAccount offeredAt rest) =
          (w.monitor.breaker.after settled).afterAll ((noted first).offerAccount offeredAt rest)
      rw [← hnoted first]
      exact ⟨⟨hallowed, hoffered.1⟩, rfl⟩

/-- **The account of a move** is one that the breaker allows, and leads to the breaker after the
    move. -/
theorem after_account (registry : Registry) (w : Watch τ) (move : Move τ) :
    w.monitor.breaker.AllowsAll (w.account move) ∧
      (w.after registry move).monitor.breaker = w.monitor.breaker.afterAll (w.account move) := by
  cases move with
  | flush takenAt offeredAt =>
    obtain ⟨htaken, hbreaker⟩ := w.monitor.takePending_account takenAt
    obtain ⟨hoffered, _⟩ := (w.monitor.takePending takenAt).value.2.offer_account offeredAt
      (w.monitor.takePending takenAt).value.1
    simp only [account, Breaker.allowsAll_append, Breaker.afterAll_append, ← hbreaker]
    refine ⟨⟨htaken, hoffered⟩, ?_⟩
    simp only [after, flush]
    split
    · -- Nothing was taken, so the second question is not asked.
      rename_i hnothing
      rw [List.isEmpty_iff.mp hnothing]
      rfl
    · exact handOver_breaker (w.taking _) offeredAt _ _
  | received slot offeredAt => exact w.goOn_account slot offeredAt trivial fun _ => rfl
  | refused slot settledAt offeredAt error =>
    exact w.goOn_account slot offeredAt (w.monitor.breaker.allows_failureAt settledAt) fun _ => rfl
  | failure now => exact ⟨⟨w.monitor.breaker.allows_failureAt now, trivial⟩, rfl⟩
  | start session user now =>
    refine ⟨trivial, ?_⟩
    rw [after_start_monitor]
    exact w.monitor.register_breaker session user now
  | evaluated slot =>
    refine ⟨trivial, ?_⟩
    simp only [after]
    split
    · rfl
    · exact w.monitor.enqueue_breaker _ _
  | report id stateName position now =>
    exact ⟨trivial, w.monitor.update_breaker id stateName position now⟩
  | stop id stoppedAt forced => exact ⟨trivial, w.monitor.stopSession_breaker id stoppedAt forced⟩
  | sweepOn slot =>
    refine ⟨trivial, ?_⟩
    simp only [after]
    split
    · rfl
    · rename_i sweep _
      unfold sweepOn
      split
      · exact w.monitor.prune_breaker sweep.now
      · exact w.monitor.sweepOne_breaker _ sweep.now
  | interrupted slot =>
    refine ⟨trivial, ?_⟩
    simp only [after]
    split <;> rfl
  | sweep | setRules => exact ⟨trivial, rfl⟩

/-- The account of a run is one that the breaker allows, and leads to the breaker after it. -/
theorem run_account (registry : Registry) (w : Watch τ) (moves : List (Move τ)) :
    w.monitor.breaker.AllowsAll (w.runAccount registry moves) ∧
      (w.run registry moves).monitor.breaker =
        w.monitor.breaker.afterAll (w.runAccount registry moves) := by
  induction moves generalizing w with
  | nil => exact ⟨trivial, rfl⟩
  | cons move rest ih =>
    obtain ⟨hfirst, hbreaker⟩ := after_account registry w move
    obtain ⟨hrest, hbreaker'⟩ := ih (w.after registry move)
    rw [hbreaker] at hrest hbreaker'
    rw [runAccount, Breaker.allowsAll_append, Breaker.afterAll_append, run]
    exact ⟨⟨hfirst, hrest⟩, hbreaker'⟩

/-- A move that counts no failure tells of none. -/
theorem isFailure_of_account {w : Watch τ} {move : Move τ} (hmove : move.isFailing = false)
    {happening : Happening τ} (h : happening ∈ w.account move) : happening.isFailure = false := by
  cases move with
  | flush takenAt offeredAt =>
    obtain h | h := List.mem_append.mp h
    · rw [Monitor.isReset_of_takeAccount h]
      rfl
    · exact Monitor.isFailure_of_offerAccount h
  | received slot offeredAt =>
    simp only [account, goOnAccount] at h
    split at h
    · cases h
    · split at h
      · cases h
      · obtain rfl | h := List.mem_cons.mp h
        · rfl
        · exact Monitor.isFailure_of_offerAccount h
  | refused | failure => cases hmove
  | start | evaluated | report | stop | sweep | sweepOn | setRules | interrupted => cases h

/-- A closed breaker is closed after a move that counts no failure. -/
theorem closed_after (registry : Registry) {w : Watch τ}
    (hclosed : w.monitor.breaker.openedAt = none) {move : Move τ}
    (hmove : move.isFailing = false) :
    (w.after registry move).monitor.breaker.openedAt = none := by
  rw [(after_account registry w move).2]
  exact Breaker.closed_of_no_failure hclosed fun _ => isFailure_of_account hmove

/-! ### Calls of the receiver -/

/-- Handing a batch on begins as many calls as it tells of, if numbers tell of the batch. -/
theorem handOver_begun (w : Watch τ) (now : τ) {batch : List Match} {numbers : List Nat}
    (h : w.desk.Tells numbers batch) : (w.handOver now batch numbers).desk.begun.length =
      w.desk.begun.length + (w.monitor.offerAccount now batch).countP Happening.isCall := by
  have hread : (w.monitor.breaker.readAccount now).countP Happening.isCall = 0 := by
    refine List.countP_eq_zero.mpr fun happening hmem => ?_
    rw [Breaker.isReset_of_readAccount hmem]
    exact Bool.false_ne_true
  obtain ⟨rfl, haccount, hvalue⟩ | ⟨hsome, _, haccount, hvalue⟩ | ⟨_, _, haccount, hvalue⟩ :=
    w.monitor.offer_account_cases now batch
  · simp only [handOver, hvalue, haccount, List.isEmpty_nil, if_true, List.countP_nil,
      Nat.add_zero]
  · -- The batch has a first match, and so there is a number for the call.
    obtain ⟨first, rest, rfl⟩ := List.exists_cons_of_ne_nil hsome
    obtain ⟨number, others, rfl, _⟩ := h.cons_inv
    simp only [handOver, hvalue, haccount, List.isEmpty_cons, Bool.false_eq_true, if_false,
      List.countP_append, hread, List.length_append, List.take_succ_cons, List.take_zero,
      List.length_singleton, Nat.zero_add]
    rfl
  · simp only [handOver, hvalue, haccount, List.isEmpty_nil, if_true, hread, Nat.add_zero]

/-- A flush that goes on begins as many calls as it tells of. -/
theorem goOn_begun {w : Watch τ} (h : w.Conserved) (slot : Nat) (offeredAt : τ)
    {settled : Happening τ} (hsettled : settled.isCall = false) {noted : Match → Monitor τ}
    (hnoted : ∀ first, w.monitor.SameQueue (noted first)) :
    (w.goOn slot offeredAt noted).desk.begun.length = w.desk.begun.length +
      (w.goOnAccount slot offeredAt settled noted).countP Happening.isCall := by
  unfold goOn goOnAccount
  cases hslot : w.flushes[slot]? with
  | none => rfl
  | some flush =>
    simp only
    cases hbatch : flush.batch with
    | nil => rfl
    | cons first rest =>
      have hloose := (h.settle hslot hbatch (hnoted first)).loose
      simp only
      rw [handOver_begun _ offeredAt hloose, List.countP_cons_of_neg (by simp [hsettled])]
      rfl

/-- A move begins as many calls of the receiver as it tells of. -/
theorem after_begun {w : Watch τ} (h : w.Conserved) (registry : Registry) (move : Move τ) :
    (w.after registry move).desk.begun.length =
      w.desk.begun.length + (w.account move).countP Happening.isCall := by
  cases move with
  | flush takenAt offeredAt =>
    have htaking : (w.monitor.takeAccount takenAt).countP Happening.isCall = 0 := by
      refine List.countP_eq_zero.mpr fun happening hmem => ?_
      rw [Monitor.isReset_of_takeAccount hmem]
      exact Bool.false_ne_true
    simp only [after, flush, account, List.countP_append, htaking, Nat.zero_add]
    -- Only the second question lets a call through.
    obtain ⟨m, _, ⟨htaken, _⟩ | ⟨htaken, _⟩⟩ := w.monitor.takePending_cases takenAt h.receives
    · simp only [htaken]
      split
      · rename_i hnothing
        rw [List.isEmpty_iff.mp hnothing]
        rfl
      · exact handOver_begun (w.taking m) offeredAt h.waiting
    · simp only [htaken, List.isEmpty_nil, if_true]
      rfl
  | received slot offeredAt => exact goOn_begun h slot offeredAt rfl fun _ => ⟨rfl, rfl⟩
  | refused slot settledAt offeredAt error =>
    exact goOn_begun h slot offeredAt rfl fun _ => ⟨rfl, rfl⟩
  | start session user now =>
    simp only [after, start]
    split <;> rfl
  | evaluated slot =>
    simp only [after]
    split <;> rfl
  | sweepOn slot =>
    simp only [after]
    split
    · rfl
    · unfold sweepOn
      split <;> rfl
  | interrupted slot =>
    simp only [after]
    split <;> rfl
  | report | stop | sweep | setRules | failure => rfl

/-- A run begins as many calls of the receiver as it tells of. -/
theorem run_begun {w : Watch τ} (h : w.Conserved) (registry : Registry) (moves : List (Move τ)) :
    (w.run registry moves).desk.begun.length =
      w.desk.begun.length + (w.runAccount registry moves).countP Happening.isCall := by
  induction moves generalizing w with
  | nil => rfl
  | cons move rest ih =>
    rw [run, ih (h.after registry move), after_begun h, runAccount, List.countP_append,
      Nat.add_assoc]

end Watch

end StreamWatch
