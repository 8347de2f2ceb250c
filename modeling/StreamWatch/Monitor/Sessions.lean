import StreamWatch.Monitor.Basic

namespace StreamWatch.Monitor

/-! # Sessions of a monitor

* `register`: a session starts, and is linked to the one that it resumes;
* `enqueue`: the verdicts on a session are queued as matches;
* `update`: a report on a session;
* `stopSession`: a session is stopped.

Registering and queueing are two operations, because the rules are evaluated in between
while the monitor may go on with other work.
-/

variable {τ : Type}

/-! ### Starting -/

/-- The chain that a session joins: that of the last stopped session of the user that played
    the same item, if it resumes that one. -/
def resumeLink (m : Monitor τ) (session : Session) (now : Moment) :
    Except Fault (Option String) :=
  match session.ratingKey with
  | none => .ok none
  | some item =>
    match (m.historyOf session.userId).reverse.find? fun p => p.ratingKey == some item with
    | none => .ok none
    | some previous =>
      previous.resumeLink (session.progress.orElse (.int 0)) none now m.config.limits

/-- A session as it is registered: heard of now, and in the chain that it joins, where the
    session itself does not say otherwise. -/
def admitted (m : Monitor τ) (session : Session) (now : Moment) : Except Fault Session := do
  let heard := session.lastSeenAt.getD now
  let link ←
    match session.referenceId with
    | some root => pure (some root)
    | none => m.resumeLink session now
  return { session with lastSeenAt := some heard, referenceId := link }

/-- The context in which the rules are evaluated for a session that was registered. -/
def contextOf (m : Monitor τ) (session : Session) (user : User) (now : Moment) :
    SessionContext where
  session := session
  user := user
  server := m.server
  activeSessions := m.activeSessions
  recentSessions := m.historyOf user.id
  now := now

/-- Makes a lock for a session that has none. Only a session with a lock can be changed by
    reports. -/
def addLock (m : Monitor τ) (id : String) : Monitor τ :=
  if m.isLocked id then m else { m with locks := m.locks ++ [id] }

/-- Registers a session that starts. The result is the context in which the rules are to be
    evaluated. After a fault the session has a lock, although it is not active. -/
def register (m : Monitor τ) (session : Session) (user : User) (now : Timestamp) :
    Outcome τ SessionContext :=
  let now := now.assumeUniversal
  let held := m.addLock session.id
  match m.admitted session now with
  | .error fault => ⟨held, .error fault, []⟩
  | .ok admitted =>
    let registered := { held with active := held.active.set session.id admitted }
    registered.unchanged (registered.contextOf admitted user now)

/-- Queues the verdicts on a session, in order, behind the matches that wait. -/
def enqueue (m : Monitor τ) (session : Session) (found : List Verdict) :
    Outcome τ (List Verdict) :=
  if found.isEmpty then m.unchanged found
  else
    let queued := found.map fun verdict => Match.mk verdict session
    { m with pending := m.pending ++ queued }.noted
      (.rulesMatched session.id session.userId (found.map Verdict.ruleId)) found

/-! ### Stopping -/

/-- How a monitor stops a session. -/
def stopMode (m : Monitor τ) (session : Session) (forced : Datum) : StopMode where
  forceStopped := forced
  preserveWatched := false
  limits := m.config.limits
  watchThreshold :=
    (Table.get? (session.mediaType.getD "") m.config.watchThresholds).map Datum.real

/-- Puts a stopped session behind the others of its user. -/
def archive (m : Monitor τ) (stopped : Session) : Monitor τ :=
  { m with
    history := m.history.set stopped.userId (m.historyOf stopped.userId ++ [stopped]) }

/-- Removes a session that ends. -/
def release (m : Monitor τ) (id : String) : Monitor τ :=
  { m with active := m.active.erase id, locks := m.locks.filter (· ≠ id) }

/-- Stops a session that is active and moves it to the history of its user. -/
def finish (m : Monitor τ) (session : Session) (stoppedAt : Moment) (forced : Datum) :
    Outcome τ StopResult :=
  match session.stop stoppedAt (m.stopMode session forced) with
  | .error fault => ⟨m, .error fault, []⟩
  | .ok result => ((m.release session.id).archive result.session).unchanged result

/-- The active session that reports may change. -/
def find? (m : Monitor τ) (id : String) : Option Session :=
  if m.isLocked id then m.active.get? id else none

/-- The active session of an id that comes as plain data. Only a text is the id of one, and a
    list or a record cannot even be looked up. -/
def findGiven (m : Monitor τ) (id : Datum) : Except Fault (Option Session) :=
  match id with
  | .text name => .ok (m.find? name)
  | .list _ | .record _ => .error (.misuse (.notAName id.kindName))
  | _ => .ok none

/-- A text is the id that it is. -/
@[simp] theorem findGiven_text (m : Monitor τ) (id : String) :
    m.findGiven (.text id) = .ok (m.find? id) := rfl

/-- Stops a session by its id. An unknown one is only noted. -/
def stopSession (m : Monitor τ) (id : Datum) (stoppedAt : Timestamp) (forced : Datum) :
    Outcome τ (Option StopResult) :=
  match m.findGiven id with
  | .error fault => ⟨m, .error fault, []⟩
  | .ok none => m.noted (.stopOfUnknown id) none
  | .ok (some session) => (m.finish session stoppedAt.assumeUniversal forced).map some

/-! ### Reports -/

/-- Takes a report on an active session. One that the session has stopped ends it. -/
def report (m : Monitor τ) (session : Session) (state : PlaybackState)
    (position : Datum) (now : Moment) : Outcome τ Session :=
  match session.advance state now position with
  | .error fault => ⟨m, .error fault, []⟩
  | .ok updated =>
    if state = .stopped then (m.finish updated now (.bool false)).map StopResult.session
    else
      { m with active := m.active.set session.id updated }.unchanged updated

/-- Takes a report on a session by its id. An unknown state or session is only noted. -/
def update (m : Monitor τ) (id : Datum) (stateName : String) (position : Datum)
    (now : Timestamp) : Outcome τ (Option Session) :=
  match PlaybackState.ofName? stateName with
  | none => m.noted (.unknownState id stateName) none
  | some state =>
    match m.findGiven id with
    | .error fault => ⟨m, .error fault, []⟩
    | .ok none => m.noted (.reportOfUnknown id) none
    | .ok (some session) => (m.report session state position now.assumeUniversal).map some

end StreamWatch.Monitor
