import StreamWatch.Evaluation.Recorded
import StreamWatch.Number.Basic

namespace StreamWatch

/-! # The breaker

A breaker counts failures in a row. At the threshold it opens and holds everything back
until a cooldown has passed; it closes when it is then read. It reads no clock, so that the
time may be of any ordered type with differences:

* `Breaker.read`: is the breaker open? The first reading after the cooldown closes it;
* `Breaker.recordFailure`, `Breaker.recordSuccess`: what is counted.
-/

/-- The state of a breaker over a type of times. -/
structure Breaker (τ : Type) where
  /-- The failures in a row that open it. -/
  threshold : Number
  cooldown : τ
  failures : Nat
  openedAt : Option τ

/-- What is logged of a breaker. -/
inductive BreakerNotice (τ : Type) where
  | opened (failures : Nat) (cooldown : τ)
  | reset

namespace Breaker

variable {τ : Type}

/-- A breaker that has not counted anything. -/
def fresh (threshold : Number) (cooldown : τ) : Breaker τ := ⟨threshold, cooldown, 0, none⟩

/-- The breaker after a success, which ends a row of failures. It does not close it. -/
def recordSuccess (b : Breaker τ) : Breaker τ := { b with failures := 0 }

/-- The breaker after a failure. It opens at the threshold, unless it is open already. -/
def recordFailure (b : Breaker τ) (now : τ) : Recorded (BreakerNotice τ) (Breaker τ) :=
  let failures := b.failures + 1
  if b.threshold.atMost (.int failures) && b.openedAt.isNone then
    .ofStep { b with failures := failures, openedAt := some now } (.opened failures b.cooldown)
  else pure { b with failures := failures }

/-- Is the breaker open? When the cooldown has passed, reading it closes it. -/
def read [Sub τ] [LE τ] [DecidableLE τ] (b : Breaker τ) (now : τ) :
    Recorded (BreakerNotice τ) (Bool × Breaker τ) :=
  match b.openedAt with
  | none => pure (false, b)
  | some start =>
    if b.cooldown ≤ now - start then
      .ofStep (false, { b with failures := 0, openedAt := none }) .reset
    else pure (true, b)

end Breaker

end StreamWatch
