import StreamWatch.Monitor.Basic

namespace StreamWatch.Monitor

/-! # Handing matches over

A flush takes the matches that wait as a batch and hands them over one by one. The monitor may
do other work while a match is being handed over, so a flush is a sequence of operations:

* `takePending`: takes the batch, unless the breaker is open;
* `offer`: goes on with the rest of a batch, or puts it back if the breaker has opened;
* `settle`: notes how the handing over of one match ended;
* `interrupt`: puts a batch back whose first match was being handed over.

A batch is put back in front of the matches that wait.
-/

variable {τ : Type}

/-- Hands a part of a batch back to the matches that wait. -/
def requeue (m : Monitor τ) (batch : List Match) : Monitor τ :=
  { m with pending := batch ++ m.pending }

/-- Reads the breaker. -/
def readBreaker [Sub τ] [LE τ] [DecidableLE τ] (m : Monitor τ) (now : τ) :
    Recorded (Notice τ) (Bool × Monitor τ) :=
  let reading := m.breaker.read now
  ⟨(reading.value.1, { m with breaker := reading.value.2 }), reading.steps.map .breaker⟩

/-- Takes the matches that wait. None are taken while the breaker is open, and they are
    dropped if nobody is there to receive them. -/
def takePending [Sub τ] [LE τ] [DecidableLE τ] (m : Monitor τ) (now : τ) :
    Recorded (Notice τ) (List Match × Monitor τ) :=
  if m.hasReceiver then do
    let (held, m) ← m.readBreaker now
    return if held then ([], m) else (m.pending, { m with pending := [] })
  else pure ([], { m with pending := [] })

/-- Goes on with the rest of a batch. It is put back if the breaker is open. -/
def offer [Sub τ] [LE τ] [DecidableLE τ] (m : Monitor τ) (now : τ) (batch : List Match) :
    Recorded (Notice τ) (List Match × Monitor τ) :=
  if batch.isEmpty then pure ([], m)
  else do
    let (held, m) ← m.readBreaker now
    return if held then ([], m.requeue batch) else (batch, m)

/-- Notes that a match was received. -/
def settleReceived (m : Monitor τ) : Monitor τ :=
  { m with breaker := m.breaker.recordSuccess }

/-- Notes that a match was refused. It is dropped. -/
def settleRefused (m : Monitor τ) (now : τ) (refused : Match) (error : String) :
    Recorded (Notice τ) (Monitor τ) :=
  let counted := m.breaker.recordFailure now
  ⟨{ m with breaker := counted.value },
    counted.steps.map .breaker ++
      [.monitor (.dispatchFailed refused.verdict.ruleId refused.session.id error)]⟩

/-- Puts a batch back whose first match was being handed over. -/
def interrupt (m : Monitor τ) (batch : List Match) : Recorded (Notice τ) (Monitor τ) :=
  .ofStep (m.requeue batch) (.monitor (.dispatchInterrupted batch.length))

end StreamWatch.Monitor
