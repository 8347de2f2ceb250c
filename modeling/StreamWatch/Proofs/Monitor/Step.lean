import StreamWatch.Monitor.Sweep
import StreamWatch.Proofs.Lifecycle.Moments

namespace StreamWatch

/-!
# What an operation does to the sessions of a monitor

Every operation on sessions that has no fault does one of a few things to the active sessions,
to the locks and to the histories.  This file says once what they are, so that an invariant is
a matter of these cases:

* `Deed` — a registration or an end, as the result of an operation tells of it;
* `Monitor.Step` — everything that an operation can do, with what it has checked before;
* `Monitor.register_step`, `Monitor.update_step`, `Monitor.stopSession_step`,
  `Monitor.sweepOne_step`, `Monitor.prune_step` — one lemma per operation.
-/

/-! ### Outcomes -/

namespace Outcome

variable {τ α β : Type}

/-- What comes after an operation without a fault. -/
theorem andThen_of_ok {first : Outcome τ α} {a : α} (h : first.result = .ok a)
    (next : α → Monitor τ → Outcome τ β) :
    (first.andThen next).monitor = (next a first.monitor).monitor ∧
      (first.andThen next).result = (next a first.monitor).result := by
  simp only [andThen, h, and_self]

/-- Nothing comes after a fault. -/
theorem andThen_of_error {first : Outcome τ α} {fault : Fault} (h : first.result = .error fault)
    (next : α → Monitor τ → Outcome τ β) :
    (first.andThen next).monitor = first.monitor ∧
      (first.andThen next).result = .error fault := by
  simp only [andThen, h, and_self]

/-- A result that was changed was there before. -/
theorem map_eq_ok {outcome : Outcome τ α} {f : α → β} {b : β}
    (h : (outcome.map f).result = .ok b) : ∃ a, outcome.result = .ok a ∧ f a = b :=
  eq_ok_of_map h

end Outcome

/-! ### Sessions keep who they are -/

namespace Session

/-- A position that is noted changes nothing else. -/
theorem movedTo_eq_ok {s updated : Session} {position : Datum}
    (h : s.movedTo position = .ok updated) : ∃ p, updated = { s with progress := p } := by
  unfold movedTo at h
  split at h
  · exact ⟨s.progress, (Except.ok.inj h).symm⟩
  · obtain ⟨p, _, hmoved⟩ := eq_ok_of_map h
    exact ⟨p, hmoved.symm⟩

/-- A report changes the state of a session, but not whose session it is. -/
theorem advance_eq_ok {s updated : Session} {state : PlaybackState} {now : Timestamp}
    {position : Datum} (h : s.advance state now position = .ok updated) :
    updated.id = s.id ∧ updated.userId = s.userId ∧ updated.state = state := by
  rw [advance_eq] at h
  obtain ⟨p, rfl⟩ := movedTo_eq_ok h
  exact ⟨rfl, rfl, rfl⟩

/-- A stop writes down when it was and what was decided, and changes nothing else. -/
theorem stop_session_eq {s : Session} {stoppedAt : Timestamp} {mode : StopMode}
    {result : StopResult} (h : s.stop stoppedAt mode = .ok result) :
    ∃ watched shortSession, result.session = { s with
      state := .stopped
      stoppedAt := some stoppedAt.assumeUniversal
      duration := some (s.stopDuration stoppedAt).duration
      pausedDuration := (s.stopDuration stoppedAt).finalPausedDuration
      lastPausedAt := none
      watched := watched
      shortSession := shortSession
      forceStopped := s.forceStopped.orElse mode.forceStopped } := by
  rw [stop_eq_map] at h
  obtain ⟨watched, _, rfl⟩ := eq_ok_of_map h
  exact ⟨watched, _, rfl⟩

/-- A stop leaves a stopped session behind, and does not change whose session it is. -/
theorem stop_facts {s : Session} {stoppedAt : Timestamp} {mode : StopMode}
    {result : StopResult} (h : s.stop stoppedAt mode = .ok result) :
    result.session.id = s.id ∧ result.session.userId = s.userId ∧
      result.session.state = .stopped := by
  obtain ⟨watched, shortSession, hsession⟩ := stop_session_eq h
  rw [hsession]
  exact ⟨rfl, rfl, rfl⟩

end Session

/-! ### Steps -/

/-- What an operation tells of registrations: one begins or ends, and with which snapshot. -/
inductive Deed where
  | registered (session : Session)
  | ended (session : Session)

/-- What the result of a report tells: a session that is stopped after it has ended. -/
def Deed.ofReport (updated : Option Session) : Option Deed :=
  updated.bind fun session => if session.state = .stopped then some (.ended session) else none

/-- A session that goes on after a report has not ended. -/
theorem Deed.ofReport_of_ne {s : Session} (h : s.state ≠ .stopped) : ofReport (some s) = none := by
  rw [ofReport, Option.bind_some, if_neg h]

/-- A session that is stopped after a report has ended. -/
theorem Deed.ofReport_of_stopped {s : Session} (h : s.state = .stopped) :
    ofReport (some s) = some (.ended s) := by
  rw [ofReport, Option.bind_some, if_pos h]

/-- What the result of a stop tells. -/
def Deed.ofStop (result : Option StopResult) : Option Deed :=
  result.map fun stopped => .ended stopped.session

namespace Monitor

variable {τ : Type}

/-- Do two monitors have the same sessions, active and stopped? -/
structure SameSessions (m m' : Monitor τ) : Prop where
  active : m'.active = m.active
  locks : m'.locks = m.locks
  history : m'.history = m.history

namespace SameSessions

/-- A monitor has the same sessions as itself. -/
theorem refl (m : Monitor τ) : m.SameSessions m := ⟨rfl, rfl, rfl⟩

/-- What leaves the sessions alone twice leaves them alone. -/
theorem trans {m m' m'' : Monitor τ} (h : m.SameSessions m') (h' : m'.SameSessions m'') :
    m.SameSessions m'' :=
  ⟨h'.active.trans h.active, h'.locks.trans h.locks, h'.history.trans h.history⟩

end SameSessions

/-- What an operation without a fault can do to the sessions of a monitor. -/
inductive Step (m : Monitor τ) : Option Deed → Monitor τ → Prop
  /-- A session is registered. -/
  | registered (session admitted : Session) (now : Moment)
      (hadmitted : m.admitted session now = .ok admitted) :
      Step m (some (.registered admitted))
        { m.addLock session.id with active := m.active.set session.id admitted }
  /-- An active session is heard of, and goes on. -/
  | reported (id : String) (live updated : Session) (state : PlaybackState) (now : Timestamp)
      (position : Datum) (hlive : m.find? id = some live) (hgoesOn : state ≠ .stopped)
      (hupdated : live.advance state now position = .ok updated) :
      Step m none { m with active := m.active.set live.id updated }
  /-- An active session ends, maybe after a last report. -/
  | ended (id : String) (live last : Session) (stoppedAt : Timestamp) (forced : Datum)
      (result : StopResult) (hlive : m.find? id = some live)
      (hlast : last = live ∨
        ∃ now position, live.advance .stopped now position = .ok last)
      (hresult : last.stop stoppedAt (m.stopMode last forced) = .ok result) :
      Step m (some (.ended result.session)) ((m.release last.id).archive result.session)
  /-- The histories are pruned. -/
  | pruned (cutoff : Moment)
      (hpruned : (pruneHistories cutoff m.config.maxRecentSessions m.history).2 = .ok ()) :
      Step m none
        { m with history := (pruneHistories cutoff m.config.maxRecentSessions m.history).1 }
  /-- Nothing happens to the sessions. -/
  | elsewhere (m' : Monitor τ) (hsame : m.SameSessions m') : Step m none m'

/-- Nothing at all happens. -/
theorem Step.refl (m : Monitor τ) : m.Step none m := .elsewhere m (.refl m)

/-- A lock that is made leaves the active sessions alone. -/
@[simp] theorem addLock_active (m : Monitor τ) (id : String) : (m.addLock id).active = m.active := by
  unfold addLock
  split <;> rfl

/-- A lock that is made leaves the histories alone. -/
@[simp] theorem addLock_history (m : Monitor τ) (id : String) :
    (m.addLock id).history = m.history := by
  unfold addLock
  split <;> rfl

/-- A session that is found is an active one. -/
theorem get?_of_find? {m : Monitor τ} {id : String} {live : Session}
    (h : m.find? id = some live) : m.active.get? id = some live := by
  unfold find? at h
  split at h
  · exact h
  · cases h

/-- A session ends if it can be stopped, and is archived. -/
theorem finish_of_stop {m : Monitor τ} {last : Session} {stoppedAt : Moment} {forced : Datum}
    {result : StopResult} (h : last.stop stoppedAt (m.stopMode last forced) = .ok result) :
    m.finish last stoppedAt forced =
      ((m.release last.id).archive result.session).unchanged result := by
  unfold finish
  rw [h]

/-- A session that cannot be stopped does not end. -/
theorem finish_of_fault {m : Monitor τ} {last : Session} {stoppedAt : Moment} {forced : Datum}
    {fault : Fault} (h : last.stop stoppedAt (m.stopMode last forced) = .error fault) :
    m.finish last stoppedAt forced = ⟨m, .error fault, []⟩ := by
  unfold finish
  rw [h]

/-- An end that has a result is the stop of the session, which is archived. -/
theorem finish_eq_ok {m : Monitor τ} {last : Session} {stoppedAt : Moment} {forced : Datum}
    {result : StopResult} (h : (m.finish last stoppedAt forced).result = .ok result) :
    last.stop stoppedAt (m.stopMode last forced) = .ok result ∧
      (m.finish last stoppedAt forced).monitor = (m.release last.id).archive result.session := by
  cases hstop : last.stop stoppedAt (m.stopMode last forced) with
  | error fault =>
    rw [finish_of_fault hstop] at h
    cases h
  | ok stopped =>
    rw [finish_of_stop hstop] at h ⊢
    obtain rfl := Except.ok.inj h
    exact ⟨rfl, rfl⟩

/-- The end of an active session is a step. -/
theorem finish_step {m : Monitor τ} {id : String} {live last : Session} {stoppedAt : Moment}
    {forced : Datum} {result : StopResult} (hlive : m.find? id = some live)
    (hlast : last = live ∨ ∃ now position, live.advance .stopped now position = .ok last)
    (h : (m.finish last stoppedAt forced).result = .ok result) :
    m.Step (some (.ended result.session)) (m.finish last stoppedAt forced).monitor := by
  obtain ⟨hstop, hmonitor⟩ := finish_eq_ok h
  rw [hmonitor]
  exact .ended id live last stoppedAt forced result hlive hlast hstop

/-- Is a session registered like this?  It is as it came, but heard of now if it does not say
    when, and in the chain that it resumes if it names none. -/
def Admits (m : Monitor τ) (session : Session) (now : Moment) (registered : Session) : Prop :=
  ∃ link, registered = { session with
      lastSeenAt := some (session.lastSeenAt.getD now)
      referenceId := session.referenceId.or link } ∧
    (session.referenceId = none → m.resumeLink session now = .ok link)

/-- A session that was admitted is registered like this. -/
theorem admits_of_admitted {m : Monitor τ} {session admitted : Session} {now : Moment}
    (h : m.admitted session now = .ok admitted) : m.Admits session now admitted := by
  unfold Monitor.admitted at h
  cases hreference : session.referenceId with
  | some root =>
    simp only [hreference, pure, Except.pure, bind, Except.bind, Except.ok.injEq] at h
    subst h
    exact ⟨none, by rw [hreference, Option.some_or], fun hnone => nomatch hreference ▸ hnone⟩
  | none =>
    cases hlink : m.resumeLink session now with
    | error fault => simp only [hreference, hlink, bind, Except.bind, reduceCtorEq] at h
    | ok link =>
      simp only [hreference, hlink, pure, Except.pure, bind, Except.bind, Except.ok.injEq] at h
      subst h
      exact ⟨link, by rw [hreference, Option.none_or], fun _ => hlink⟩

/-- What comes of a registration without a fault: the session is admitted and is active. -/
theorem register_cases {m : Monitor τ} {session : Session} {user : User} {now : Timestamp}
    {context : SessionContext} (h : (m.register session user now).result = .ok context) :
    m.admitted session now.assumeUniversal = .ok context.session ∧
      (m.register session user now).monitor =
        { m.addLock session.id with active := m.active.set session.id context.session } := by
  unfold register at h ⊢
  cases hadmitted : m.admitted session now.assumeUniversal with
  | error fault => simp only [hadmitted, reduceCtorEq] at h
  | ok admitted =>
    simp only [hadmitted, unchanged, Except.ok.injEq] at h ⊢
    subst h
    rw [addLock_active]
    exact ⟨rfl, rfl⟩

/-- A registration is a step. -/
theorem register_step {m : Monitor τ} {session : Session} {user : User} {now : Timestamp}
    {context : SessionContext} (h : (m.register session user now).result = .ok context) :
    m.Step (some (.registered context.session)) (m.register session user now).monitor := by
  obtain ⟨hadmitted, hmonitor⟩ := register_cases h
  rw [hmonitor]
  exact .registered session context.session _ hadmitted

/-- A session that is found for an id of any kind is found by its name. -/
theorem findGiven_eq_some {m : Monitor τ} {id : Datum} {live : Session}
    (h : m.findGiven id = .ok (some live)) :
    ∃ name, id = .text name ∧ m.find? name = some live := by
  unfold findGiven at h
  split at h
  · rename_i name
    exact ⟨name, rfl, Except.ok.inj h⟩
  · cases h
  · cases h
  · cases h

/-- What comes of a stop without a fault: nothing, or the end of the active session that it
    names. -/
theorem stopSession_cases {m : Monitor τ} {id : Datum} {stoppedAt : Timestamp} {forced : Datum}
    {result : Option StopResult} (h : (m.stopSession id stoppedAt forced).result = .ok result) :
    (result = none ∧ (m.stopSession id stoppedAt forced).monitor = m) ∨
    ∃ name live stopped, id = .text name ∧ m.find? name = some live ∧ result = some stopped ∧
      (m.finish live stoppedAt.assumeUniversal forced).result = .ok stopped ∧
      (m.stopSession id stoppedAt forced).monitor =
        (m.finish live stoppedAt.assumeUniversal forced).monitor := by
  unfold stopSession at h ⊢
  cases hfound : m.findGiven id with
  | error fault => simp only [hfound, reduceCtorEq] at h
  | ok found =>
    simp only [hfound] at h ⊢
    cases found with
    | none =>
      simp only [noted, Except.ok.injEq] at h
      exact .inl ⟨h.symm, rfl⟩
    | some live =>
      obtain ⟨name, hname, hlive⟩ := findGiven_eq_some hfound
      obtain ⟨stopped, hstopped, rfl⟩ := Outcome.map_eq_ok h
      exact .inr ⟨name, live, stopped, hname, hlive, rfl, hstopped, rfl⟩

/-- A stop is a step. -/
theorem stopSession_step {m : Monitor τ} {id : Datum} {stoppedAt : Timestamp} {forced : Datum}
    {result : Option StopResult} (h : (m.stopSession id stoppedAt forced).result = .ok result) :
    m.Step (Deed.ofStop result) (m.stopSession id stoppedAt forced).monitor := by
  obtain ⟨rfl, hmonitor⟩ | ⟨name, live, stopped, _, hlive, rfl, hstopped, hmonitor⟩ :=
    stopSession_cases h
  · rw [hmonitor]
    exact .refl m
  · rw [hmonitor]
    exact finish_step hlive (.inl rfl) hstopped

/-- What comes of a report on an active session without a fault: the session goes on, or the
    report ends it. -/
theorem report_cases {m : Monitor τ} {live reported : Session} {state : PlaybackState}
    {position : Datum} {now : Moment}
    (h : (m.report live state position now).result = .ok reported) :
    ∃ updated, live.advance state now position = .ok updated ∧
      ((state ≠ .stopped ∧ reported = updated ∧
          (m.report live state position now).monitor =
            { m with active := m.active.set live.id updated }) ∨
        (state = .stopped ∧ ∃ stopped : StopResult, reported = stopped.session ∧
          (m.finish updated now (.bool false)).result = .ok stopped ∧
          (m.report live state position now).monitor =
            (m.finish updated now (.bool false)).monitor)) := by
  unfold report at h ⊢
  cases hupdated : live.advance state now position with
  | error fault => simp only [hupdated, reduceCtorEq] at h
  | ok updated =>
    simp only [hupdated] at h ⊢
    refine ⟨updated, rfl, ?_⟩
    by_cases hends : state = .stopped
    · simp only [hends, if_true] at h ⊢
      obtain ⟨stopped, hstopped, rfl⟩ := Outcome.map_eq_ok h
      exact .inr ⟨trivial, stopped, rfl, hstopped, rfl⟩
    · simp only [hends, if_false, unchanged, Except.ok.injEq] at h
      refine .inl ⟨hends, h.symm, ?_⟩
      rw [if_neg hends]
      rfl

/-- A report on an active session is a step. -/
theorem report_step {m : Monitor τ} {id : String} {live reported : Session}
    {state : PlaybackState} {position : Datum} {now : Moment} (hlive : m.find? id = some live)
    (h : (m.report live state position now).result = .ok reported) :
    m.Step (Deed.ofReport (some reported)) (m.report live state position now).monitor := by
  obtain ⟨updated, hupdated, ⟨hgoesOn, rfl, hmonitor⟩ | ⟨rfl, stopped, rfl, hstopped, hmonitor⟩⟩ :=
    report_cases h
  · obtain ⟨_, _, hstate⟩ := Session.advance_eq_ok hupdated
    rw [Deed.ofReport_of_ne (hstate ▸ hgoesOn), hmonitor]
    exact .reported id live reported state now position hlive hgoesOn hupdated
  · -- Only a report that the session has stopped ends it, and its result says so.
    obtain ⟨_, _, hstate⟩ := Session.stop_facts (finish_eq_ok hstopped).1
    rw [Deed.ofReport_of_stopped hstate, hmonitor]
    exact finish_step hlive (.inr ⟨now, position, hupdated⟩) hstopped

/-- What comes of a report without a fault: nothing, because there is no such state or no such
    active session, or what comes of a report on the session that it names. -/
theorem update_cases {m : Monitor τ} {id : Datum} {stateName : String} {position : Datum}
    {now : Timestamp} {result : Option Session}
    (h : (m.update id stateName position now).result = .ok result) :
    (result = none ∧ (m.update id stateName position now).monitor = m ∧
      ∀ name state, id = .text name → PlaybackState.ofName? stateName = some state →
        m.find? name = none) ∨
    ∃ name live state reported, id = .text name ∧ m.find? name = some live ∧
      PlaybackState.ofName? stateName = some state ∧ result = some reported ∧
      (m.report live state position now.assumeUniversal).result = .ok reported ∧
      (m.update id stateName position now).monitor =
        (m.report live state position now.assumeUniversal).monitor := by
  unfold update at h ⊢
  cases hstate : PlaybackState.ofName? stateName with
  | none =>
    simp only [hstate, noted, Except.ok.injEq] at h ⊢
    exact .inl ⟨h.symm, trivial, fun _ _ _ => nofun⟩
  | some state =>
    simp only [hstate] at h ⊢
    cases hfound : m.findGiven id with
    | error fault => simp only [hfound, reduceCtorEq] at h
    | ok found =>
      simp only [hfound] at h ⊢
      cases found with
      | none =>
        simp only [noted, Except.ok.injEq] at h
        refine .inl ⟨h.symm, rfl, fun name _ hname _ => ?_⟩
        subst hname
        exact Except.ok.inj hfound
      | some live =>
        obtain ⟨name, hname, hlive⟩ := findGiven_eq_some hfound
        obtain ⟨reported, hreported, rfl⟩ := Outcome.map_eq_ok h
        exact .inr ⟨name, live, state, reported, hname, hlive, rfl, rfl, hreported, rfl⟩

/-- A report is a step. -/
theorem update_step {m : Monitor τ} {id : Datum} {stateName : String} {position : Datum}
    {now : Timestamp} {result : Option Session}
    (h : (m.update id stateName position now).result = .ok result) :
    m.Step (Deed.ofReport result) (m.update id stateName position now).monitor := by
  obtain ⟨rfl, hmonitor, _⟩ |
    ⟨name, live, state, reported, _, hlive, _, rfl, hreported, hmonitor⟩ := update_cases h
  · rw [hmonitor]
    exact .refl m
  · rw [hmonitor]
    exact report_step hlive hreported

/-- A sweep does nothing about an active session that is not stale. -/
theorem sweepOne_of_fresh {m : Monitor τ} {id : String} {live : Session} {now : Moment}
    (hlive : m.find? id = some live)
    (h : isStale live.lastHeardAt (.int m.config.limits.staleTimeoutSeconds) now = .ok false) :
    m.sweepOne id now = m.unchanged none := by
  unfold sweepOne
  simp only [hlive, h]

/-- A sweep ends an active session that is stale, once it has noted that. -/
theorem sweepOne_of_stale {m : Monitor τ} {id : String} {live : Session} {now : Moment}
    (hlive : m.find? id = some live)
    (h : isStale live.lastHeardAt (.int m.config.limits.staleTimeoutSeconds) now = .ok true) :
    m.sweepOne id now = (m.noted (.staleStopped id) ()).andThen fun _ m =>
      (m.finish live live.lastHeardAt (.bool true)).map some := by
  unfold sweepOne
  simp only [hlive, h]

/-- What comes of a look at one session in a sweep without a fault: nothing, or the end of the
    active session, which is stale, at the time it was last heard of. -/
theorem sweepOne_cases {m : Monitor τ} {id : String} {now : Moment}
    {result : Option StopResult} (h : (m.sweepOne id now).result = .ok result) :
    (result = none ∧ (m.sweepOne id now).monitor = m) ∨
    ∃ live stopped, m.find? id = some live ∧
      isStale live.lastHeardAt (.int m.config.limits.staleTimeoutSeconds) now = .ok true ∧
      result = some stopped ∧
      (m.finish live live.lastHeardAt (.bool true)).result = .ok stopped ∧
      (m.sweepOne id now).monitor = (m.finish live live.lastHeardAt (.bool true)).monitor := by
  cases hlive : m.find? id with
  | none =>
    unfold sweepOne at h ⊢
    simp only [hlive, unchanged, Except.ok.injEq] at h ⊢
    exact .inl ⟨h.symm, trivial⟩
  | some live =>
    cases hstale : isStale live.lastHeardAt (.int m.config.limits.staleTimeoutSeconds) now with
    | error fault =>
      unfold sweepOne at h
      simp only [hlive, hstale, reduceCtorEq] at h
    | ok stale =>
      cases stale with
      | false =>
        rw [sweepOne_of_fresh hlive hstale] at h ⊢
        exact .inl ⟨(Except.ok.inj h).symm, rfl⟩
      | true =>
        rw [sweepOne_of_stale hlive hstale] at h ⊢
        obtain ⟨stopped, hstopped, rfl⟩ := Outcome.map_eq_ok h
        exact .inr ⟨live, stopped, rfl, hstale, rfl, hstopped, rfl⟩

/-- A look at one session in a sweep is a step. -/
theorem sweepOne_step {m : Monitor τ} {id : String} {now : Moment}
    {result : Option StopResult} (h : (m.sweepOne id now).result = .ok result) :
    m.Step (Deed.ofStop result) (m.sweepOne id now).monitor := by
  obtain ⟨rfl, hmonitor⟩ | ⟨live, stopped, hlive, _, rfl, hstopped, hmonitor⟩ := sweepOne_cases h
  · rw [hmonitor]
    exact .refl m
  · rw [hmonitor]
    exact finish_step hlive (.inl rfl) hstopped

/-- A sweep over some sessions ends with a fault at the first one. -/
theorem sweepSessions_cons_of_error {m : Monitor τ} {id : String} {now : Moment}
    {fault : Fault} (h : (m.sweepOne id now).result = .error fault) (rest : List String) :
    (m.sweepSessions now (id :: rest)).monitor = (m.sweepOne id now).monitor ∧
      (m.sweepSessions now (id :: rest)).result = .error fault :=
  Outcome.andThen_of_error h _

/-- A sweep over some sessions goes on after the first one. -/
theorem sweepSessions_cons_of_ok {m : Monitor τ} {id : String} {now : Moment}
    {stopped : Option StopResult} (h : (m.sweepOne id now).result = .ok stopped)
    (rest : List String) :
    (m.sweepSessions now (id :: rest)).monitor =
        ((m.sweepOne id now).monitor.sweepSessions now rest).monitor ∧
      (m.sweepSessions now (id :: rest)).result =
        ((m.sweepOne id now).monitor.sweepSessions now rest).result.map (stopped.toList ++ ·) :=
  Outcome.andThen_of_ok h _

/-- The pruning of the histories is a step. -/
theorem prune_step {m : Monitor τ} {now : Moment} (h : (m.prune now).result = .ok ()) :
    m.Step none (m.prune now).monitor := by
  unfold prune at h ⊢
  cases hcutoff : m.cutoff now with
  | error fault => simp only [hcutoff, reduceCtorEq] at h
  | ok cutoff =>
    simp only [hcutoff] at h ⊢
    exact .pruned cutoff h

end Monitor

end StreamWatch
