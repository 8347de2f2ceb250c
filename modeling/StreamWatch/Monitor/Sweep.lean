import StreamWatch.Monitor.Sessions

namespace StreamWatch.Monitor

/-! # Sweeping

A sweep stops the sessions that nothing was heard of for too long, each at the time when it
was last heard of, and then drops what is too old or too much from the histories:

* `sweepOne`, `sweepSessions`: the active sessions, in order;
* `prune`: the histories;
* `sweep`: both.

A fault ends a sweep, and what was done before it stays done.
-/

variable {τ : Type}

/-- Stops a session if it is stale. -/
def sweepOne (m : Monitor τ) (id : String) (now : Moment) : Outcome τ (Option StopResult) :=
  match m.find? id with
  | none => m.unchanged none
  | some session =>
    match isStale session.lastHeardAt (.int m.config.limits.staleTimeoutSeconds) now with
    | .error fault => ⟨m, .error fault, []⟩
    | .ok false => m.unchanged none
    | .ok true =>
      (m.noted (.staleStopped id) ()).andThen fun _ m =>
        (m.finish session session.lastHeardAt (.bool true)).map some

/-- Stops those of some sessions that are stale, in order. -/
def sweepSessions (m : Monitor τ) (now : Moment) : List String → Outcome τ (List StopResult)
  | [] => m.unchanged []
  | id :: rest =>
    (m.sweepOne id now).andThen fun stopped m =>
      (m.sweepSessions now rest).map fun others => stopped.toList ++ others

/-! ### Histories -/

/-- What is kept of a history: not the sessions in front that ended before the cutoff, and
    then no more than the last `most`. -/
def kept (cutoff : Moment) (most : Nat) (sessions : List Session) : List Session :=
  let recent := sessions.dropWhile fun s => s.endedAt.isBefore cutoff
  recent.drop (recent.length - most)

/-- Drops what is not kept from each history, and the histories of which nothing is kept. No
    history can be shortened to less than nothing. -/
def pruneHistories (cutoff : Moment) (most : Int) :
    Table (List Session) → Table (List Session) × Except Fault Unit
  | [] => ([], .ok ())
  | (user, sessions) :: rest =>
    if most < 0 then ((user, []) :: rest, .error .emptyHistory)
    else
      let left := kept cutoff most.toNat sessions
      let others := pruneHistories cutoff most rest
      (if left.isEmpty then others.1 else (user, left) :: others.1, others.2)

/-- The time before which sessions are dropped from the histories. -/
def cutoff (m : Monitor τ) (now : Moment) : Except Fault Moment := do
  now.shift (-(← Duration.ofHours m.config.recentHistoryHours))

/-- Drops what is too old or too much from the histories. -/
def prune (m : Monitor τ) (now : Moment) : Outcome τ Unit :=
  match m.cutoff now with
  | .error fault => ⟨m, .error fault, []⟩
  | .ok cutoff =>
    let pruned := pruneHistories cutoff m.config.maxRecentSessions m.history
    ⟨{ m with history := pruned.1 }, pruned.2, []⟩

/-- Stops every stale session, and prunes the histories. -/
def sweep (m : Monitor τ) (now : Timestamp) : Outcome τ (List StopResult) :=
  let now := now.assumeUniversal
  (m.sweepSessions now m.active.keys).andThen fun stopped m =>
    (m.prune now).map fun _ => stopped

end StreamWatch.Monitor
