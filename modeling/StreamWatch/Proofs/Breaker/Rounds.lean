import Mathlib.Algebra.Order.Group.Int
import Mathlib.Data.List.Induction
import StreamWatch.Proofs.Breaker.Account

namespace StreamWatch

/-!
# The rounds of a breaker

A breaker counts, opens, waits for its cooldown and begins anew.  Failures and successes are
recorded at any time, and only a reading can notice that the cooldown has passed:

* `BreakerUse`, `Breaker.use`, `Breaker.useAll` — what is done with a breaker, and what it logs
  thereby;
* `Breaker.account` — the account of some uses, and `lastRow`, the failures of an account since the
  last success or reset;
* `Breaker.failures_afterAll` — these are what a breaker has counted;
* `Breaker.Below` — the invariant: a closed breaker has counted less than its threshold, and hence
  `Below.opens_iff`, the one use that opens it;
* `Breaker.useAll_of_open`, `Breaker.read_of_open` — an open one holds everything back, whatever is
  counted, until the first reading after its cooldown leaves it as good as new;
* `Breaker.rounds` — all of it after every run of uses.
-/

/-- What is done with a breaker. -/
inductive BreakerUse (τ : Type) where
  | failed (now : τ)
  | succeeded
  /-- It is read whether the breaker is open. -/
  | asked (now : τ)

/-- The failures of an account since the last success or reset. -/
def lastRow {τ : Type} (account : List (Happening τ)) : Nat :=
  (account.reverse.takeWhile fun happening => !happening.endsRow).countP Happening.isFailure

/-- One more entry ends the last row or goes on with it. -/
theorem lastRow_concat {τ : Type} (account : List (Happening τ)) (happening : Happening τ) :
    lastRow (account ++ [happening]) =
      if happening.endsRow then 0
      else lastRow account + if happening.isFailure then 1 else 0 := by
  unfold lastRow
  rw [List.reverse_concat, List.takeWhile_cons]
  cases happening.endsRow with
  | true => rfl
  | false => exact List.countP_cons

namespace Breaker

section
variable {τ : Type} [AddCommGroup τ] [LinearOrder τ]

/-- A breaker after a use, with what is logged of it. -/
def use (b : Breaker τ) : BreakerUse τ → Recorded (BreakerNotice τ) (Breaker τ)
  | .failed now => b.recordFailure now
  | .succeeded => pure b.recordSuccess
  | .asked now => do return (← b.read now).2

/-- A breaker after some uses, with what is logged of them. -/
def useAll (b : Breaker τ) : List (BreakerUse τ) → Recorded (BreakerNotice τ) (Breaker τ)
  | [] => pure b
  | use :: rest => do (← b.use use).useAll rest

/-- The entries of a use in the account of a breaker. -/
def entries (b : Breaker τ) : BreakerUse τ → List (Happening τ)
  | .failed now => [b.failureAt now]
  | .succeeded => [.received]
  | .asked now => b.readAccount now

/-- The account of some uses. -/
def account (b : Breaker τ) : List (BreakerUse τ) → List (Happening τ)
  | [] => []
  | use :: rest => b.entries use ++ (b.use use).value.account rest

/-- Does a use open a breaker? -/
def Opens (b : Breaker τ) (use : BreakerUse τ) : Prop :=
  b.openedAt = none ∧ (b.use use).value.openedAt ≠ none

/-- Asking is a use by what the reading leaves and logs, whatever it answers. -/
theorem use_asked (b : Breaker τ) (now : τ) :
    b.use (.asked now) = ⟨(b.read now).value.2, (b.read now).steps⟩ := by
  show (⟨(b.read now).value.2, (b.read now).steps ++ []⟩ : Recorded _ _) = _
  rw [List.append_nil]

/-- Reading a closed breaker does nothing. -/
theorem read_of_closed {b : Breaker τ} (h : b.openedAt = none) (now : τ) :
    b.read now = pure (false, b) := by
  unfold read
  rw [h]

/-- All that a reading logs is that it resets the breaker. -/
theorem notice_of_read (b : Breaker τ) (now : τ) :
    ∀ notice ∈ (b.read now).steps, notice = .reset := by
  intro notice hnotice
  cases hopen : b.openedAt with
  | none =>
    rw [read_of_closed hopen] at hnotice
    cases hnotice
  | some start =>
    unfold read at hnotice
    rw [hopen] at hnotice
    by_cases hpassed : b.cooldown ≤ now - start
    · simp only [if_pos hpassed] at hnotice
      exact List.mem_singleton.mp hnotice
    · simp only [if_neg hpassed] at hnotice
      cases hnotice

/-- The account tells what a use does. -/
theorem use_value (b : Breaker τ) (use : BreakerUse τ) :
    (b.use use).value = b.afterAll (b.entries use) := by
  cases use with
  | failed now => rfl
  | succeeded => rfl
  | asked now => exact (b.read_cases now).2.1

/-- A breaker keeps its settings with every use. -/
theorem use_settings (b : Breaker τ) (use : BreakerUse τ) :
    (b.use use).value.cooldown = b.cooldown ∧ (b.use use).value.threshold = b.threshold := by
  rw [use_value]
  exact b.afterAll_settings _

/-- The account tells what becomes of a breaker. -/
theorem useAll_value (b : Breaker τ) (uses : List (BreakerUse τ)) :
    (b.useAll uses).value = b.afterAll (b.account uses) := by
  induction uses generalizing b with
  | nil => rfl
  | cons use rest ih =>
    show ((b.use use).value.useAll rest).value = _
    rw [ih, account, afterAll_append, ← use_value]

/-- A breaker keeps its settings with all uses. -/
theorem useAll_settings (b : Breaker τ) (uses : List (BreakerUse τ)) :
    (b.useAll uses).value.cooldown = b.cooldown ∧
      (b.useAll uses).value.threshold = b.threshold := by
  rw [useAll_value]
  exact b.afterAll_settings _

end

/-! ### Counting -/

section
variable {τ : Type} {b : Breaker τ}

/-- A breaker that begins with a count of zero has counted the last row of its account. -/
theorem failures_afterAll (h : b.failures = 0) (account : List (Happening τ)) :
    (b.afterAll account).failures = lastRow account := by
  induction account using List.reverseRecOn with
  | nil => exact h
  | append_singleton account happening ih =>
    rw [afterAll_append, lastRow_concat]
    show ((b.afterAll account).after happening).failures = _
    cases happening with
    | called now => exact ih
    | received => rfl
    | failed now opens =>
      rw [after, (recordFailure_eq _ now).1, ← ih]
      rfl
    | reset now => rfl

/-- A failure that does not open a breaker is only counted. -/
theorem recordFailure_of_not_opensNext (h : ¬ b.opensNext = true) (now : τ) :
    b.recordFailure now = pure { b with failures := b.failures + 1 } := if_neg h

/-- Has a breaker of a threshold counted less than that, unless it is open? -/
structure Below (b : Breaker τ) (threshold : Nat) : Prop where
  own : b.threshold = .int threshold
  below : b.openedAt = none → b.failures < threshold

namespace Below

variable {threshold : Nat}

/-- A failure opens a breaker exactly if it is closed and the count comes to its threshold. -/
theorem opensNext_iff (h : b.Below threshold) :
    b.opensNext = true ↔ b.openedAt = none ∧ b.failures + 1 = threshold := by
  rw [opensNext, h.own, Number.atMost_int, Bool.and_eq_true, decide_eq_true_eq,
    Option.isNone_iff_eq_none, and_comm]
  apply and_congr_right
  intro hclosed
  have hbelow := h.below hclosed
  omega

/-- Every entry of an account keeps the count of a closed breaker below its threshold. -/
theorem after (h : b.Below threshold) (hthreshold : 0 < threshold) (happening : Happening τ) :
    (b.after happening).Below threshold := by
  refine ⟨(b.after_settings happening).2.trans h.own, fun hclosed => ?_⟩
  cases happening with
  | called now => exact h.below hclosed
  | received => exact hthreshold
  | failed now opens =>
    rw [after_failed_openedAt] at hclosed
    rw [Breaker.after, (b.recordFailure_eq now).1]
    show b.failures + 1 < threshold
    by_cases hopens : b.opensNext = true
    · rw [if_pos hopens] at hclosed
      cases hclosed
    · -- It was closed before, and the failure does not come to the threshold.
      rw [if_neg hopens] at hclosed
      have hbelow := h.below hclosed
      have hother : b.failures + 1 ≠ threshold := fun hcount =>
        hopens (h.opensNext_iff.mpr ⟨hclosed, hcount⟩)
      omega
  | reset now => exact hthreshold

/-- Every account does. -/
theorem afterAll (h : b.Below threshold) (hthreshold : 0 < threshold)
    (account : List (Happening τ)) : (b.afterAll account).Below threshold := by
  induction account generalizing b with
  | nil => exact h
  | cons happening rest ih => exact ih (h.after hthreshold happening)

/-- What comes of the failure that brings the count to the threshold. -/
theorem recordFailure_of_opensNext (h : b.Below threshold) (hopens : b.opensNext = true)
    (now : τ) :
    b.recordFailure now = .ofStep { b with failures := threshold, openedAt := some now }
      (.opened threshold b.cooldown) := by
  obtain ⟨_, hcount⟩ := h.opensNext_iff.mp hopens
  rw [← hcount]
  exact if_pos hopens

end Below

end

/-! ### Opening -/

section
variable {τ : Type} [AddCommGroup τ] [LinearOrder τ] {b : Breaker τ} {threshold : Nat}

/-- A use opens a breaker exactly if it is a failure that brings the count to the threshold. -/
theorem Below.opens_iff (h : b.Below threshold) (use : BreakerUse τ) :
    b.Opens use ↔
      (∃ now, use = .failed now) ∧ b.openedAt = none ∧ b.failures + 1 = threshold := by
  constructor
  · rintro ⟨hclosed, hopen⟩
    cases use with
    | failed now =>
      refine ⟨⟨now, rfl⟩, h.opensNext_iff.mp ?_⟩
      by_contra hnext
      apply hopen
      show (b.recordFailure now).value.openedAt = none
      rw [recordFailure_of_not_opensNext hnext]
      exact hclosed
    | succeeded => exact absurd hclosed hopen
    | asked now =>
      rw [use_asked, read_of_closed hclosed] at hopen
      exact absurd hclosed hopen
  · rintro ⟨⟨now, rfl⟩, hclosed, hcount⟩
    refine ⟨hclosed, ?_⟩
    have hopens := h.recordFailure_of_opensNext (h.opensNext_iff.mpr ⟨hclosed, hcount⟩) now
    show (b.recordFailure now).value.openedAt ≠ none
    rw [hopens]
    exact Option.some_ne_none now

/-- The failure that opens a breaker is logged as that. -/
theorem Below.use_of_opens (h : b.Below threshold) {now : τ} (hopens : b.Opens (.failed now)) :
    b.use (.failed now) = .ofStep { b with failures := threshold, openedAt := some now }
      (.opened threshold b.cooldown) := by
  obtain ⟨_, hnext⟩ := (h.opens_iff _).mp hopens
  exact h.recordFailure_of_opensNext (h.opensNext_iff.mpr hnext) now

/-- All that a use logs that does not open a breaker is that it resets it. -/
theorem Below.notice_of_not_opens (h : b.Below threshold) {use : BreakerUse τ}
    (hopens : ¬ b.Opens use) : ∀ notice ∈ (b.use use).steps, notice = .reset := by
  cases use with
  | failed now =>
    have hnext : ¬ b.opensNext = true := fun hnext =>
      hopens ((h.opens_iff _).mpr ⟨⟨now, rfl⟩, h.opensNext_iff.mp hnext⟩)
    show ∀ notice ∈ (b.recordFailure now).steps, notice = .reset
    rw [recordFailure_of_not_opensNext hnext]
    exact List.forall_mem_nil _
  | succeeded => exact List.forall_mem_nil _
  | asked now =>
    rw [use_asked]
    exact b.notice_of_read now

end

/-! ### Holding back -/

section
variable {τ : Type} [AddCommGroup τ] [LinearOrder τ] [IsOrderedAddMonoid τ]
variable {b : Breaker τ} {start : τ}

/-- A reading of an open breaker: it is held until its cooldown has passed, and then it is as good
    as new. -/
theorem read_of_open (hopen : b.openedAt = some start) (now : τ) :
    b.read now =
      if start + b.cooldown ≤ now then .ofStep (false, fresh b.threshold b.cooldown) .reset
      else pure (true, b) := by
  unfold read
  rw [hopen]
  simp only [le_sub_iff_add_le']
  rfl

/-- An open breaker stays open with every use that is not a reading after its cooldown. -/
theorem use_of_open (hopen : b.openedAt = some start) {use : BreakerUse τ}
    (hearly : ∀ now, use = .asked now → now < start + b.cooldown) :
    (b.use use).steps = [] ∧ (b.use use).value.openedAt = some start := by
  cases use with
  | failed now =>
    have hnext : ¬ b.opensNext = true := Bool.eq_false_iff.mp (opensNext_of_open hopen)
    show (b.recordFailure now).steps = [] ∧ (b.recordFailure now).value.openedAt = some start
    rw [recordFailure_of_not_opensNext hnext]
    exact ⟨rfl, hopen⟩
  | succeeded => exact ⟨rfl, hopen⟩
  | asked now =>
    have hread : b.read now = pure (true, b) := by
      rw [read_of_open hopen, if_neg (not_le_of_gt (hearly now rfl))]
    rw [use_asked, hread]
    exact ⟨rfl, hopen⟩

/-- It stays open with any uses among which there is no such reading. -/
theorem useAll_of_open (hopen : b.openedAt = some start) {uses : List (BreakerUse τ)}
    (hearly : ∀ now, .asked now ∈ uses → now < start + b.cooldown) :
    (b.useAll uses).steps = [] ∧ (b.useAll uses).value.openedAt = some start := by
  induction uses generalizing b with
  | nil => exact ⟨rfl, hopen⟩
  | cons use rest ih =>
    have hfirst : ∀ now, use = .asked now → now < start + b.cooldown := fun now hnow =>
      hearly now (hnow ▸ List.mem_cons_self)
    obtain ⟨hsteps, hstays⟩ := use_of_open hopen hfirst
    obtain ⟨hrest, hopen'⟩ := ih hstays fun now hnow => by
      rw [(b.use_settings use).1]
      exact hearly now (List.mem_cons_of_mem _ hnow)
    refine ⟨?_, hopen'⟩
    show (b.use use).steps ++ ((b.use use).value.useAll rest).steps = []
    rw [hsteps, hrest]
    rfl

/-! ### Rounds -/

/-- **The rounds of a breaker.**  Let a new breaker of a positive threshold be used in any way, at
    any times.

    * While it is closed, it has counted the failures since the last success or reset, and these are
      fewer than the threshold.
    * It opens exactly with a failure that brings this count to the threshold.  The failure is
      logged as the one that opened it, and nothing else that is done with it is logged so.
    * Once it has opened, it stays open since then and nothing is logged of it, whatever is
      recorded, as long as nobody reads it after its cooldown.  It is held at each reading before the
      end of the cooldown, and by the first one after it the breaker is closed and as good as
      new. -/
theorem rounds {threshold : Nat} (hthreshold : 0 < threshold) (cooldown : τ)
    (uses : List (BreakerUse τ)) :
    let new : Breaker τ := fresh (.int threshold) cooldown
    let b := (new.useAll uses).value
    let row := lastRow (new.account uses)
    (b.openedAt = none → b.failures = row ∧ row < threshold) ∧
    (∀ use, b.Opens use ↔ (∃ now, use = .failed now) ∧ b.openedAt = none ∧ row + 1 = threshold) ∧
    (∀ use, (b.Opens use → (b.use use).steps = [.opened threshold cooldown]) ∧
      (¬ b.Opens use → ∀ notice ∈ (b.use use).steps, notice = .reset)) ∧
    ∀ start, b.Opens (.failed start) → ∀ later : List (BreakerUse τ),
      (∀ now, .asked now ∈ later → now < start + cooldown) →
      let held := (b.use (.failed start)).value.useAll later
      held.steps = [] ∧ held.value.openedAt = some start ∧
        ∀ now, held.value.read now =
          if start + cooldown ≤ now then .ofStep (false, new) .reset
          else pure (true, held.value) := by
  intro new b row
  have hb : b = new.afterAll (new.account uses) := new.useAll_value uses
  have hnew : new.Below threshold := ⟨rfl, fun _ => hthreshold⟩
  have hbelow : b.Below threshold := hb ▸ hnew.afterAll hthreshold _
  have hcooldown : b.cooldown = cooldown := by
    rw [hb]
    exact (new.afterAll_settings _).1
  have hrow : b.failures = row := by
    rw [hb]
    exact failures_afterAll rfl _
  have hopens : ∀ use, b.Opens use ↔
      (∃ now, use = .failed now) ∧ b.openedAt = none ∧ row + 1 = threshold := by
    intro use
    rw [← hrow]
    exact hbelow.opens_iff use
  refine ⟨fun hclosed => ⟨hrow, hrow ▸ hbelow.below hclosed⟩, hopens,
    fun use => ⟨fun hnow => ?_, fun hnot => ?_⟩, ?_⟩
  · obtain ⟨⟨now, rfl⟩, _⟩ := (hopens use).mp hnow
    rw [hbelow.use_of_opens hnow, hcooldown]
    rfl
  · exact hbelow.notice_of_not_opens hnot
  · intro start hstart later hearly held
    -- After the failure the breaker is open since then, with the settings that it had.
    have hopened : (b.use (.failed start)).value.openedAt = some start := by
      rw [hbelow.use_of_opens hstart]
      rfl
    obtain ⟨hown, hown'⟩ := b.use_settings (.failed start)
    obtain ⟨hkept, hkept'⟩ := (b.use (.failed start)).value.useAll_settings later
    obtain ⟨hsteps, hopen⟩ := useAll_of_open hopened fun now hnow => by
      rw [hown, hcooldown]
      exact hearly now hnow
    refine ⟨hsteps, hopen, fun now => ?_⟩
    rw [read_of_open hopen, hkept, hkept', hown, hown', hcooldown, hbelow.own]

/-- A breaker of two failures and half a minute.  A success ends the first row, the second row opens
    it after five seconds, and what is recorded meanwhile neither closes nor prolongs it: it is held
    at the last moment of its cooldown and closed at its end. -/
theorem rounds_halfMinute :
    let new : Breaker ℤ := fresh (.int (2 : Nat)) 30
    let b := (new.useAll [.failed 0, .succeeded, .failed 1, .asked 2]).value
    let held := (b.use (.failed 5)).value.useAll [.failed 6, .asked 7, .succeeded, .failed 40]
    b.openedAt = none ∧ b.failures = 1 ∧ (b.use (.failed 5)).steps = [.opened 2 30] ∧
      held.steps = [] ∧ held.value.read 34 = pure (true, held.value) ∧
      held.value.read 35 = .ofStep (false, new) .reset := by
  intro new b held
  obtain ⟨_, hopens, hsteps, hheld⟩ :=
    rounds (by decide : 0 < 2) (30 : ℤ) [.failed 0, .succeeded, .failed 1, .asked 2]
  have hopen : b.Opens (.failed 5) := (hopens _).mpr ⟨⟨5, rfl⟩, rfl, rfl⟩
  have hearly : ∀ now : ℤ,
      .asked now ∈ [BreakerUse.failed 6, .asked 7, .succeeded, .failed 40] → now < 5 + 30 := by
    intro now hnow
    simp only [List.mem_cons, BreakerUse.asked.injEq, reduceCtorEq, List.not_mem_nil, false_or,
      or_false] at hnow
    omega
  obtain ⟨hquiet, _, hread⟩ := hheld 5 hopen _ hearly
  exact ⟨rfl, rfl, (hsteps _).1 hopen, hquiet, hread 34, hread 35⟩

end

end Breaker

end StreamWatch
