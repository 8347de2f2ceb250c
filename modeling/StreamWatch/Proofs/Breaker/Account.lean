import Mathlib.Algebra.Order.Group.Defs
import Mathlib.Data.List.Pairwise
import StreamWatch.Breaker
import StreamWatch.Proofs.Number.Order

namespace StreamWatch

/-!
# What a breaker holds back

The account of a breaker tells in their order the failures and successes that it counted, the
times when it was closed by a reading, and the calls that it let through.

* `Happening`, `Breaker.Allows`, `Breaker.after` — one entry of an account, when a breaker allows
  it, and the breaker after it;
* `Breaker.AllowsAll` — does a breaker allow an account, entry after entry?
* `Breaker.cooldown_le_of_called` — an open breaker lets no call through before its cooldown has
  passed, if no entry has an earlier time than the ones before it;
* `Breaker.count_failed_le` — a row of failures is counted to its end;
* `Breaker.opens_of_count` — so the last of as many failures as the threshold opens a breaker that
  is closed by then.
-/

/-- An entry of the account of a breaker. -/
inductive Happening (τ : Type) where
  /-- A call was let through. -/
  | called (now : τ)
  | received
  /-- A failure was counted. Did it open the breaker? -/
  | failed (now : τ) (opens : Bool)
  /-- A reading closed the breaker. -/
  | reset (now : τ)
  deriving DecidableEq

namespace Happening

variable {τ : Type}

/-- The time of an entry, if it has one. -/
def time? : Happening τ → Option τ
  | called now | failed now _ | reset now => some now
  | received => none

/-- Is this a call? -/
def isCall : Happening τ → Bool
  | called _ => true
  | _ => false

/-- Is this a failure? -/
def isFailure : Happening τ → Bool
  | failed _ _ => true
  | _ => false

/-- Does this end a row of failures? -/
def endsRow : Happening τ → Bool
  | received | reset _ => true
  | _ => false

end Happening

/-- The times of an account. -/
def timesOf {τ : Type} (account : List (Happening τ)) : List τ := account.filterMap Happening.time?

namespace Breaker

variable {τ : Type}

/-- Does a failure open a breaker? -/
def opensNext (b : Breaker τ) : Bool :=
  b.threshold.atMost (.int (b.failures + 1 : Nat)) && b.openedAt.isNone

/-- A breaker after an entry of its account. -/
def after (b : Breaker τ) : Happening τ → Breaker τ
  | .called _ => b
  | .received => b.recordSuccess
  | .failed now _ => (b.recordFailure now).value
  | .reset _ => { b with failures := 0, openedAt := none }

section
variable [Sub τ] [LE τ]

/-- When does a breaker allow an entry?  It lets calls through only while it is closed, and a
    reading closes it only after the cooldown. -/
def Allows (b : Breaker τ) : Happening τ → Prop
  | .called _ => b.openedAt = none
  | .received => True
  | .failed _ opens => opens = b.opensNext
  | .reset now => ∃ start, b.openedAt = some start ∧ b.cooldown ≤ now - start

/-- Does a breaker allow an account, entry after entry? -/
def AllowsAll (b : Breaker τ) : List (Happening τ) → Prop
  | [] => True
  | happening :: rest => b.Allows happening ∧ (b.after happening).AllowsAll rest

end

/-- A breaker after an account. -/
def afterAll (b : Breaker τ) (account : List (Happening τ)) : Breaker τ := account.foldl after b

/-- An account that goes on where another one ended. -/
theorem afterAll_append (b : Breaker τ) (first second : List (Happening τ)) :
    b.afterAll (first ++ second) = (b.afterAll first).afterAll second :=
  List.foldl_append

/-- An account is allowed if its first part is, and the rest by the breaker that this one leaves. -/
theorem allowsAll_append [Sub τ] [LE τ] (b : Breaker τ) (first second : List (Happening τ)) :
    b.AllowsAll (first ++ second) ↔ b.AllowsAll first ∧ (b.afterAll first).AllowsAll second := by
  induction first generalizing b with
  | nil => exact (iff_of_eq (true_and _)).symm
  | cons happening rest ih =>
    show b.Allows happening ∧ (b.after happening).AllowsAll (rest ++ second) ↔ _
    rw [ih, ← and_assoc]
    rfl

/-! ### Failures -/

/-- What a failure leaves behind of a breaker, and whether it is told of. -/
theorem recordFailure_eq (b : Breaker τ) (now : τ) :
    (b.recordFailure now).value =
        { b with
          failures := b.failures + 1
          openedAt := if b.opensNext then some now else b.openedAt } ∧
      (b.recordFailure now).steps.isEmpty = !b.opensNext := by
  have hfailure : b.recordFailure now =
      if b.opensNext then
        .ofStep { b with failures := b.failures + 1, openedAt := some now }
          (.opened (b.failures + 1) b.cooldown)
      else pure { b with failures := b.failures + 1 } := rfl
  rw [hfailure]
  cases b.opensNext with
  | false => exact ⟨rfl, rfl⟩
  | true => exact ⟨rfl, rfl⟩

/-- A breaker keeps its cooldown and its threshold. -/
theorem after_settings (b : Breaker τ) (happening : Happening τ) :
    (b.after happening).cooldown = b.cooldown ∧ (b.after happening).threshold = b.threshold := by
  cases happening with
  | failed now opens =>
    rw [after, (b.recordFailure_eq now).1]
    exact ⟨rfl, rfl⟩
  | called | received | reset => exact ⟨rfl, rfl⟩

/-- A breaker keeps its cooldown and its threshold through every account. -/
theorem afterAll_settings (b : Breaker τ) (account : List (Happening τ)) :
    (b.afterAll account).cooldown = b.cooldown ∧
      (b.afterAll account).threshold = b.threshold := by
  induction account generalizing b with
  | nil => exact ⟨rfl, rfl⟩
  | cons happening rest ih =>
    obtain ⟨hcooldown, hthreshold⟩ := b.after_settings happening
    obtain ⟨hcooldown', hthreshold'⟩ := ih (b.after happening)
    exact ⟨hcooldown'.trans hcooldown, hthreshold'.trans hthreshold⟩

/-- A failure may open a breaker at its time.  Otherwise the breaker stays as open as it was. -/
theorem after_failed_openedAt (b : Breaker τ) (now : τ) (opens : Bool) :
    (b.after (.failed now opens)).openedAt = if b.opensNext then some now else b.openedAt := by
  rw [after, (b.recordFailure_eq now).1]

/-- An open breaker is not opened again. -/
theorem opensNext_of_open {b : Breaker τ} {start : τ} (h : b.openedAt = some start) :
    b.opensNext = false := by
  rw [opensNext, h, Option.isNone_some, Bool.and_false]

/-- Without a failure a closed breaker stays closed. -/
theorem closed_of_no_failure {b : Breaker τ} (hclosed : b.openedAt = none)
    {account : List (Happening τ)}
    (hfailures : ∀ happening ∈ account, happening.isFailure = false) :
    (b.afterAll account).openedAt = none := by
  induction account generalizing b with
  | nil => exact hclosed
  | cons happening rest ih =>
    have hrest := fun other hother => hfailures other (List.mem_cons_of_mem happening hother)
    cases happening with
    | failed now opens => exact nomatch hfailures _ List.mem_cons_self
    | called now => exact ih hclosed hrest
    | received => exact ih (b := b.recordSuccess) hclosed hrest
    | reset now => exact ih (b := { b with failures := 0, openedAt := none }) rfl hrest

/-- A breaker that is closed opens with the failure that comes to its threshold. -/
theorem opens_of_count {b : Breaker τ} {threshold : Int} (hthreshold : b.threshold = .int threshold)
    (hclosed : b.openedAt = none) (hcount : threshold ≤ b.failures + 1) : b.opensNext = true := by
  have hreached : threshold ≤ (b.failures + 1 : Nat) := by omega
  rw [opensNext, hthreshold, hclosed, Number.atMost_int, decide_eq_true hreached]
  rfl

/-- A row of failures is counted to its end, whatever was counted before. -/
theorem count_failed_le (b : Breaker τ) {row : List (Happening τ)}
    (hrow : ∀ happening ∈ row, happening.endsRow = false) :
    b.failures + row.countP Happening.isFailure ≤ (b.afterAll row).failures := by
  induction row generalizing b with
  | nil => exact Nat.le_refl _
  | cons happening rest ih =>
    have hfirst := hrow happening List.mem_cons_self
    have hrest := ih (b.after happening) fun other hother =>
      hrow other (List.mem_cons_of_mem _ hother)
    cases happening with
    | called now =>
      rw [List.countP_cons_of_neg (by simp [Happening.isFailure])]
      exact hrest
    | failed now opens =>
      have hcounted : (b.after (.failed now opens)).failures = b.failures + 1 := by
        rw [after, (b.recordFailure_eq now).1]
      rw [List.countP_cons_of_pos rfl]
      rw [hcounted] at hrest
      exact Nat.le_trans (by omega) hrest
    | received | reset => cases hfirst

/-- The entry of a failure. -/
def failureAt (b : Breaker τ) (now : τ) : Happening τ :=
  .failed now (!(b.recordFailure now).steps.isEmpty)

/-- The entry of a failure is allowed, and tells of it. -/
theorem allows_failureAt [Sub τ] [LE τ] (b : Breaker τ) (now : τ) :
    b.Allows (b.failureAt now) := by
  show (!(b.recordFailure now).steps.isEmpty) = b.opensNext
  rw [(b.recordFailure_eq now).2, Bool.not_not]

/-- The entry of a failure that opens a breaker. -/
theorem failureAt_of_opens {b : Breaker τ} (h : b.opensNext = true) (now : τ) :
    b.failureAt now = .failed now true := by
  rw [failureAt, (b.recordFailure_eq now).2, h, Bool.not_not]

/-! ### Readings -/

section
variable [Sub τ] [LE τ] [DecidableLE τ]

/-- What a reading tells: whether it closes the breaker. -/
def readAccount (b : Breaker τ) (now : τ) : List (Happening τ) :=
  (b.read now).steps.map fun _ => .reset now

/-- What comes of a reading.  A breaker that is not held any more is closed by then. -/
theorem read_cases (b : Breaker τ) (now : τ) :
    b.AllowsAll (b.readAccount now) ∧ (b.read now).value.2 = b.afterAll (b.readAccount now) ∧
      (b.read now).value.1 = (b.afterAll (b.readAccount now)).openedAt.isSome := by
  unfold readAccount read
  cases hopen : b.openedAt with
  | none =>
    refine ⟨trivial, rfl, ?_⟩
    simp only [Recorded.pure_value, Recorded.pure_steps, List.map_nil, afterAll, List.foldl_nil,
      hopen, Option.isSome_none]
  | some start =>
    simp only
    split
    · rename_i hpassed
      exact ⟨⟨⟨start, hopen, hpassed⟩, trivial⟩, rfl, rfl⟩
    · refine ⟨trivial, rfl, ?_⟩
      simp only [Recorded.pure_value, Recorded.pure_steps, List.map_nil, afterAll, List.foldl_nil,
        hopen, Option.isSome_some]

/-- A reading is neither a call nor a failure. -/
theorem isReset_of_readAccount {b : Breaker τ} {now : τ} {happening : Happening τ}
    (h : happening ∈ b.readAccount now) : happening = .reset now := by
  obtain ⟨_, _, rfl⟩ := List.mem_map.mp h
  rfl

/-- A reading leaves an open breaker alone until the cooldown has passed. -/
theorem readAccount_of_early {b : Breaker τ} {start now : τ} (hopen : b.openedAt = some start)
    (hearly : ¬ b.cooldown ≤ now - start) : b.readAccount now = [] := by
  unfold readAccount read
  simp only [hopen, if_neg hearly]
  rfl

end

/-! ### Calls -/

section
variable [AddCommGroup τ] [LinearOrder τ] [IsOrderedAddMonoid τ]

/-- **An open breaker lets no call through** before its cooldown has passed, whatever is counted
    meanwhile, if no entry of its account has an earlier time than the ones before it. -/
theorem cooldown_le_of_called {b : Breaker τ} {start : τ} (hopen : b.openedAt = some start)
    {account : List (Happening τ)} (hallowed : b.AllowsAll account)
    (hclock : (timesOf account).Pairwise (· ≤ ·)) {now : τ} (hcalled : .called now ∈ account) :
    start + b.cooldown ≤ now := by
  induction account generalizing b with
  | nil => cases hcalled
  | cons happening rest ih =>
    obtain ⟨hfirst, hrest⟩ := hallowed
    cases happening with
    | called time => exact absurd (hopen.symm.trans hfirst) (Option.some_ne_none start)
    | received =>
      obtain hcalled | hcalled := List.mem_cons.mp hcalled
      · cases hcalled
      · exact ih (b := b.recordSuccess) hopen hrest hclock hcalled
    | failed time opens =>
      obtain hcalled | hcalled := List.mem_cons.mp hcalled
      · cases hcalled
      · have hopen' : (b.after (.failed time opens)).openedAt = some start := by
          rw [after_failed_openedAt, opensNext_of_open hopen]
          exact hopen
        have hle := ih hopen' hrest (List.pairwise_cons.mp hclock).2 hcalled
        rwa [(b.after_settings _).1] at hle
    | reset time =>
      -- The cooldown has passed by this reading, and nothing comes before it any more.
      obtain ⟨since, hsince, hpassed⟩ := hfirst
      obtain rfl := Option.some.inj (hopen.symm.trans hsince)
      obtain hcalled | hcalled := List.mem_cons.mp hcalled
      · cases hcalled
      · have hlater : time ≤ now := (List.pairwise_cons.mp hclock).1 now
          (List.mem_filterMap.mpr ⟨_, hcalled, rfl⟩)
        have hpassed' : b.cooldown + start ≤ time := le_sub_iff_add_le.mp hpassed
        rw [add_comm]
        exact hpassed'.trans hlater

/-- After an entry that opened the breaker no call is let through before the cooldown. -/
theorem cooldown_le_of_opened {b : Breaker τ} {front back : List (Happening τ)} {openedAt : τ}
    (hallowed : b.AllowsAll (front ++ .failed openedAt true :: back))
    (hclock : (timesOf (front ++ .failed openedAt true :: back)).Pairwise (· ≤ ·)) {now : τ}
    (hcalled : .called now ∈ back) : openedAt + b.cooldown ≤ now := by
  obtain ⟨_, hopens, hback⟩ := (b.allowsAll_append front _).mp hallowed
  have hopen : ((b.afterAll front).after (.failed openedAt true)).openedAt = some openedAt := by
    rw [after_failed_openedAt, ← hopens, if_pos rfl]
  have hlater : (timesOf back).Pairwise (· ≤ ·) := by
    rw [timesOf, List.filterMap_append] at hclock
    exact (List.pairwise_cons.mp (List.pairwise_append.mp hclock).2.1).2
  have hle := cooldown_le_of_called hopen hback hlater hcalled
  rwa [(Breaker.after_settings _ _).1, (Breaker.afterAll_settings _ _).1] at hle

end

end Breaker

end StreamWatch
