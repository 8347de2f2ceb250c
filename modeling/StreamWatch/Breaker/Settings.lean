import StreamWatch.Breaker
import StreamWatch.Datum
import StreamWatch.Fault

namespace StreamWatch

/-! # The settings of a breaker as plain data

A breaker may be set with plain data that nobody has validated. A setting of the wrong kind does
no harm until it is needed, and then it is a fault:

* `BreakerSettings.fresh`: the breaker with some settings;
* `BreakerSettings.recordFailures`: counting needs the threshold;
* `BreakerSettings.read`: reading an open breaker needs the cooldown.
-/

/-- The settings of a breaker. -/
structure BreakerSettings where
  threshold : Datum
  cooldown : Datum

namespace BreakerSettings

/-- A breaker with some settings that has not counted anything. -/
def fresh (s : BreakerSettings) : Breaker Number :=
  .fresh (s.threshold.count?.getD (.int 0)) (s.cooldown.count?.getD (.int 0))

/-- The breaker after some failures, how many coming as plain data too. -/
def recordFailures (s : BreakerSettings) (b : Breaker Number) (now : Number) (times : Datum) :
    Except Fault (Recorded (BreakerNotice Number) (Breaker Number)) :=
  match times.count? with
  | some (.int n) =>
    if 0 < n ∧ s.threshold.count?.isNone then
      .error (.misuse (.noOrder ">=" "int" s.threshold.kindName))
    else .ok ((List.replicate n.toNat ()).foldlM (fun b _ => b.recordFailure now) b)
  | _ => .error (.misuse (.notACount times.kindName))

/-- Is the breaker open? -/
def read (s : BreakerSettings) (b : Breaker Number) (now : Number) :
    Except Fault (Recorded (BreakerNotice Number) (Bool × Breaker Number)) :=
  if b.openedAt.isSome ∧ s.cooldown.count?.isNone then
    .error (.misuse (.noOrder ">=" "float" s.cooldown.kindName))
  else .ok (b.read now)

end BreakerSettings

end StreamWatch
