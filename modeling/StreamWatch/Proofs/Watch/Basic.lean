import Mathlib.Data.List.Perm.Basic
import StreamWatch.Evaluation.Ruleset
import StreamWatch.Proofs.Monitor.Queue

namespace StreamWatch

/-!
# A monitor in use

A monitor works for many callers at once.  Each of them runs until it has to wait, and then
any of the others may go on.  This file says what a monitor in use is and what it does next,
in whatever order the callers go on:

* `Evaluation`, `SweepUnderWay`, `Flush` — what a caller that waits still has to do;
* `Desk` — the matches in the order in which they were queued, and what became of each of
  them.  Nothing that the monitor does depends on it;
* `Watch` — a monitor, the callers that wait, and the desk;
* `Move`, `Watch.after`, `Watch.run` — what can happen next, and what comes of it.  Every move
  is an operation of the monitor;
* `Watch.sweep_eq_run` — a sweep that nothing interrupts is a run of its moves.
-/

/-! ### What waits -/

/-- A start whose rules are being evaluated: the session as it was registered, and what is
    going to be found. -/
structure Evaluation where
  session : Session
  found : List Verdict

/-- A sweep that has not come to its end: the ids that it has not looked at yet. -/
structure SweepUnderWay where
  now : Moment
  left : List String

/-- A flush whose first match is being handed over, with the numbers of its matches. -/
structure Flush where
  batch : List Match
  numbers : List Nat

/-- What became of the matches.  The number of a match is its place among all those that were
    ever queued. -/
structure Desk where
  /-- Every match that was ever queued, the first one in front. -/
  queued : List Match
  /-- The numbers of the matches that wait, in their order. -/
  waiting : List Nat
  /-- One number for each time that the receiver was called. -/
  begun : List Nat
  /-- One number for each call of the receiver that was cut short. -/
  cut : List Nat
  /-- The numbers of the matches that were received or refused. -/
  finished : List Nat

/-- A monitor in use. -/
structure Watch (τ : Type) where
  monitor : Monitor τ
  evaluations : List Evaluation
  sweeps : List SweepUnderWay
  flushes : List Flush
  desk : Desk

/-- What can happen next.  A slot is the place of a caller among those of its kind that wait;
    where there is nobody nothing happens.  Times of type `τ` are readings of the clock of the
    breaker. -/
inductive Move (τ : Type) where
  | start (session : Session) (user : User) (now : Timestamp)
  /-- The rules of a start have been evaluated. -/
  | evaluated (slot : Nat)
  | report (id : Datum) (stateName : String) (position : Datum) (now : Timestamp)
  | stop (id : Datum) (stoppedAt : Timestamp) (forced : Datum)
  /-- A sweep begins, with the ids of this moment. -/
  | sweep (now : Timestamp)
  /-- A sweep goes on: with the next of its ids, or with the histories if there is none. -/
  | sweepOn (slot : Nat)
  | setRules (rules : List Rule)
  | flush (takenAt offeredAt : τ)
  /-- The receiver has received the first match of a flush. -/
  | received (slot : Nat) (offeredAt : τ)
  /-- The receiver has refused the first match of a flush. -/
  | refused (slot : Nat) (settledAt offeredAt : τ) (error : String)
  /-- A flush is interrupted while its first match is being handed over. -/
  | interrupted (slot : Nat)
  /-- A failure is counted by the breaker that is none of the receiver's. -/
  | failure (now : τ)

namespace Watch

variable {τ : Type}

/-- A monitor that nobody has used yet. -/
def fresh (m : Monitor τ) : Watch τ := ⟨m, [], [], [], ⟨[], [], [], [], []⟩⟩

/-- The numbers of the matches that are being handed over. -/
def inFlight (w : Watch τ) : List Nat := w.flushes.flatMap fun flush => flush.numbers.take 1

/-! ### Starts and sweeps -/

/-- Registers a session, and begins to evaluate the rules of this moment. -/
def start (registry : Registry) (w : Watch τ) (session : Session) (user : User)
    (now : Timestamp) : Watch τ :=
  let registration := w.monitor.register session user now
  let registered := { w with monitor := registration.monitor }
  match registration.result with
  | .error _ => registered
  | .ok context =>
    let found := (verdicts (holdsInTime registry) context w.monitor.rules).value
    { registered with evaluations := w.evaluations ++ [⟨context.session, found⟩] }

/-- Queues what was found on a session, under the next numbers. -/
def enqueue (w : Watch τ) (session : Session) (found : List Verdict) : Watch τ :=
  { w with
    monitor := (w.monitor.enqueue session found).monitor
    desk := { w.desk with
      queued := w.desk.queued ++ found.map (Match.mk · session)
      waiting := w.desk.waiting ++ List.range' w.desk.queued.length found.length } }

/-- Goes on with a sweep.  After a fault it does not go on any more. -/
def sweepOn (w : Watch τ) (slot : Nat) (sweep : SweepUnderWay) : Watch τ :=
  match sweep.left with
  | [] =>
    { w with
      monitor := (w.monitor.prune sweep.now).monitor
      sweeps := w.sweeps.eraseIdx slot }
  | id :: rest =>
    let swept := w.monitor.sweepOne id sweep.now
    { w with
      monitor := swept.monitor
      sweeps :=
        match swept.result with
        | .ok _ => w.sweeps.set slot { sweep with left := rest }
        | .error _ => w.sweeps.eraseIdx slot }

/-! ### Flushes -/

section
variable [Sub τ] [LE τ] [DecidableLE τ]

/-- Goes on with the rest of a batch.  The receiver is called for its first match, or it is put
    back in front of the matches that wait. -/
def handOver (w : Watch τ) (now : τ) (batch : List Match) (numbers : List Nat) : Watch τ :=
  let offered := (w.monitor.offer now batch).value
  if offered.1.isEmpty then
    { w with
      monitor := offered.2
      desk := { w.desk with waiting := numbers ++ w.desk.waiting } }
  else
    { w with
      monitor := offered.2
      flushes := w.flushes ++ [⟨offered.1, numbers⟩]
      desk := { w.desk with begun := w.desk.begun ++ numbers.take 1 } }

/-- The matches that a monitor has taken do not wait any more. -/
def taking (w : Watch τ) (m : Monitor τ) : Watch τ :=
  { w with
    monitor := m
    desk := { w.desk with waiting := w.desk.waiting.take m.pending.length } }

/-- Takes the matches that wait, and begins to hand them over. -/
def flush (w : Watch τ) (takenAt offeredAt : τ) : Watch τ :=
  let taken := (w.monitor.takePending takenAt).value
  if taken.1.isEmpty then w.taking taken.2
  else (w.taking taken.2).handOver offeredAt taken.1 w.desk.waiting

/-- A flush does not wait any more, and the call of the receiver for its first match has ended
    as it should. -/
def settle (w : Watch τ) (slot : Nat) (flush : Flush) (m : Monitor τ) : Watch τ :=
  { w with
    monitor := m
    flushes := w.flushes.eraseIdx slot
    desk := { w.desk with finished := w.desk.finished ++ flush.numbers.take 1 } }

/-- A flush does not wait any more, because it was interrupted.  Its matches are put back. -/
def interrupt (w : Watch τ) (slot : Nat) (flush : Flush) : Watch τ :=
  { w with
    monitor := (w.monitor.interrupt flush.batch).value
    flushes := w.flushes.eraseIdx slot
    desk := { w.desk with
      waiting := flush.numbers ++ w.desk.waiting
      cut := w.desk.cut ++ flush.numbers.take 1 } }

/-- Goes on with a flush, whose first match the receiver has received or refused. -/
def goOn (w : Watch τ) (slot : Nat) (offeredAt : τ) (noted : Match → Monitor τ) : Watch τ :=
  match w.flushes[slot]? with
  | none => w
  | some flush =>
    match flush.batch with
    | [] => w
    | first :: rest =>
      (w.settle slot flush (noted first)).handOver offeredAt rest (flush.numbers.drop 1)

/-! ### Moves -/

/-- A monitor in use after a move. -/
def after (registry : Registry) (w : Watch τ) : Move τ → Watch τ
  | .start session user now => w.start registry session user now
  | .evaluated slot =>
    match w.evaluations[slot]? with
    | none => w
    | some evaluation =>
      { w with evaluations := w.evaluations.eraseIdx slot }.enqueue evaluation.session
        evaluation.found
  | .report id stateName position now =>
    { w with monitor := (w.monitor.update id stateName position now).monitor }
  | .stop id stoppedAt forced =>
    { w with monitor := (w.monitor.stopSession id stoppedAt forced).monitor }
  | .sweep now =>
    { w with sweeps := w.sweeps ++ [⟨now.assumeUniversal, w.monitor.active.keys⟩] }
  | .sweepOn slot =>
    match w.sweeps[slot]? with
    | none => w
    | some sweep => w.sweepOn slot sweep
  | .setRules rules => { w with monitor := w.monitor.setRules rules }
  | .flush takenAt offeredAt => w.flush takenAt offeredAt
  | .received slot offeredAt => w.goOn slot offeredAt fun _ => w.monitor.settleReceived
  | .refused slot settledAt offeredAt error =>
    w.goOn slot offeredAt fun first => (w.monitor.settleRefused settledAt first error).value
  | .interrupted slot =>
    match w.flushes[slot]? with
    | none => w
    | some flush => w.interrupt slot flush
  | .failure now =>
    { w with monitor := { w.monitor with breaker := (w.monitor.breaker.recordFailure now).value } }

/-- A monitor in use after some moves, in any order. -/
def run (registry : Registry) (w : Watch τ) : List (Move τ) → Watch τ
  | [] => w
  | move :: rest => (w.after registry move).run registry rest

/-- One run goes on where another one ended. -/
theorem run_append (registry : Registry) (w : Watch τ) (first second : List (Move τ)) :
    w.run registry (first ++ second) = (w.run registry first).run registry second := by
  induction first generalizing w with
  | nil => rfl
  | cons move rest ih => exact ih (w.after registry move)

/-! ### Slots -/

/-- What is in a slot is there beside what is in the others. -/
theorem slot_perm {α : Type} {slots : List α} {slot : Nat} {a : α} (h : slots[slot]? = some a) :
    slots.Perm (a :: slots.eraseIdx slot) := by
  obtain ⟨hslot, rfl⟩ := List.getElem?_eq_some_iff.mp h
  exact (List.getElem_cons_eraseIdx_perm hslot).symm

/-- A change of one element shows as the change of what is seen of it. -/
theorem map_modify_comm {α β : Type} {g : α → β} {f : α → α} {k : β → β}
    (hcommutes : ∀ a, g (f a) = k (g a)) (xs : List α) (n : Nat) :
    (xs.modify n f).map g = (xs.map g).modify n k := by
  induction xs generalizing n with
  | nil => rw [List.modify_nil, List.map_nil, List.modify_nil]
  | cons x rest ih =>
    cases n with
    | zero => simp only [List.modify_zero_cons, List.map_cons, hcommutes]
    | succ n => simp only [List.modify_succ_cons, List.map_cons, ih]

/-- A change of one element does not show in a list of something that it leaves alone. -/
theorem map_modify_same {α β : Type} (f : α → α) (g : α → β) (h : ∀ a, g (f a) = g a)
    (xs : List α) (n : Nat) : (xs.modify n f).map g = xs.map g :=
  (map_modify_comm (k := id) h xs n).trans (List.modify_id n _)

/-- A change of one element to something of a given value shows as that value. -/
theorem map_modify_set {α β : Type} (f : α → α) (g : α → β) {b : β} (h : ∀ a, g (f a) = b)
    (xs : List α) (n : Nat) : (xs.modify n f).map g = (xs.map g).set n b := by
  rw [map_modify_comm (k := fun _ => b) h, List.set_eq_modify]

/-- What is in the last slot, and how it is taken away or replaced. -/
theorem last_slot {α : Type} {slots before : List α} {last : α} (h : slots = before ++ [last]) :
    slots[before.length]? = some last ∧ slots.eraseIdx before.length = before ∧
      ∀ other, slots.set before.length other = before ++ [other] := by
  subst h
  refine ⟨List.getElem?_concat_length, ?_, fun other => ?_⟩
  · rw [List.eraseIdx_append_of_length_le (Nat.le_refl _), Nat.sub_self,
      List.eraseIdx_cons_zero, List.append_nil]
  · rw [List.set_append_right _ _ (Nat.le_refl _), Nat.sub_self, List.set_cons_zero]

/-! ### Sweeps that nothing interrupts -/

/-- Nothing happens where no sweep is. -/
theorem run_sweepOn_nobody (registry : Registry) (w : Watch τ) {slot : Nat}
    (h : w.sweeps.length ≤ slot) (count : Nat) :
    w.run registry (List.replicate count (.sweepOn slot)) = w := by
  induction count with
  | zero => rfl
  | succ count ih =>
    have hnobody : w.after registry (.sweepOn slot) = w := by
      simp only [after, List.getElem?_eq_none h]
    rw [List.replicate_succ, run, hnobody, ih]

/-- A sweep that goes on without interruption stops what is left to look at, one session after
    the other, and prunes the histories, unless there is a fault before. -/
theorem run_sweepOn (registry : Registry) (w : Watch τ) (now : Moment) (left : List String)
    (before : List SweepUnderWay) (h : w.sweeps = before ++ [⟨now, left⟩]) :
    w.run registry (List.replicate (left.length + 1) (.sweepOn before.length)) =
      { w with
        monitor := ((w.monitor.sweepSessions now left).andThen fun stopped m =>
          (m.prune now).map fun _ => stopped).monitor
        sweeps := before } := by
  induction left generalizing w with
  | nil =>
    obtain ⟨hslot, hgone, _⟩ := last_slot h
    rw [List.length_nil, Nat.zero_add, List.replicate_one, run, run]
    simp only [after, hslot, sweepOn, hgone]
    rfl
  | cons id rest ih =>
    obtain ⟨hslot, hgone, hset⟩ := last_slot h
    rw [List.length_cons, List.replicate_succ, run]
    simp only [after, hslot, sweepOn]
    cases hresult : (w.monitor.sweepOne id now).result with
    | error fault =>
      -- The sweep is gone, and the moves that are left find nobody.
      obtain ⟨hmonitor, hfault⟩ := Monitor.sweepSessions_cons_of_error hresult rest
      simp only [hgone]
      rw [run_sweepOn_nobody registry _ (Nat.le_refl _), (Outcome.andThen_of_error hfault _).1,
        hmonitor]
    | ok stopped =>
      obtain ⟨hmonitor, hothers⟩ := Monitor.sweepSessions_cons_of_ok hresult rest
      simp only [hset]
      rw [ih _ rfl]
      -- Both sides look at the other sessions now, and prune only if none of them has a fault.
      refine congrArg (fun m => ({ w with monitor := m, sweeps := before } : Watch τ)) ?_
      cases hrest : ((w.monitor.sweepOne id now).monitor.sweepSessions now rest).result with
      | error fault =>
        rw [hrest] at hothers
        rw [(Outcome.andThen_of_error hrest _).1, (Outcome.andThen_of_error hothers _).1,
          hmonitor]
      | ok others =>
        rw [hrest] at hothers
        rw [(Outcome.andThen_of_ok hrest _).1, (Outcome.andThen_of_ok hothers _).1, hmonitor]
        rfl

/-- A sweep that nothing interrupts is the sweep of the monitor. -/
theorem sweep_eq_run (registry : Registry) (w : Watch τ) (now : Timestamp) :
    w.run registry (.sweep now ::
        List.replicate (w.monitor.active.keys.length + 1) (.sweepOn w.sweeps.length)) =
      { w with monitor := (w.monitor.sweep now).monitor } :=
  run_sweepOn registry (w.after registry (.sweep now)) now.assumeUniversal
    w.monitor.active.keys w.sweeps rfl

end

end Watch

end StreamWatch
