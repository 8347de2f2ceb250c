import StreamWatch.Proofs.Lifecycle.Moments

namespace StreamWatch

/-!
# Reports that change nothing

A player may report as often as it likes that it still does what it did.  Such a report says when
the session was last heard of, and nothing that happens later depends on that:

* `Session.through` — a session after a list of events;
* `Session.seenAt`, `StopResult.seenAt` — the same with another time at which it was last heard of;
* `Session.stop_reported` — what a stop decides does not depend on the last report;
* `Session.facts` — what later events depend on, and `Session.trace_congr`, by which sessions with
  the same facts go on in the same way;
* `Session.heartbeat_leaves_no_trace` — an extra report shows in no later session, but for when it
  was last heard of.
-/

/-! ### Events -/

/-- Every state is found by its name. -/
theorem PlaybackState.ofName_name (state : PlaybackState) : ofName state.name = .ok state := by
  cases state <;> rfl

namespace Session

/-- A session after a list of events.  An event with a fault changes nothing. -/
def through (s : Session) : List LifeEvent → Session
  | [] => s
  | event :: rest => ((s.after event).toOption.getD s).through rest

/-- What becomes of a session goes on from where the first events have left it. -/
theorem trace_append (s : Session) (first second : List LifeEvent) :
    s.trace (first ++ second) = s.trace first ++ (s.through first).trace second := by
  induction first generalizing s with
  | nil => rfl
  | cons event rest ih =>
    rw [List.cons_append, trace, trace, ih]
    rfl

/-- A session after some events goes on from where the first ones have left it. -/
theorem through_append (s : Session) (first second : List LifeEvent) :
    s.through (first ++ second) = (s.through first).through second := by
  induction first generalizing s with
  | nil => rfl
  | cons event rest ih => exact ih _

/-- An event without a fault leaves a session behind, from which the others go on. -/
theorem through_cons_of_ok {s next : Session} {earlier : List LifeEvent} {event : LifeEvent}
    (h : (s.through earlier).after event = .ok next) (rest : List LifeEvent) :
    s.trace (earlier ++ event :: rest) = s.trace earlier ++ .ok next :: next.trace rest ∧
      s.through (earlier ++ event :: rest) = next.through rest := by
  rw [trace_append, through_append, trace, through, h]
  exact ⟨rfl, rfl⟩

/-- The session with another time at which it was last heard of. -/
def seenAt (s : Session) (seen : Option Moment) : Session := { s with lastSeenAt := seen }

end Session

/-- The result of a stop with another time at which the session was last heard of. -/
def StopResult.seenAt (result : StopResult) (seen : Option Moment) : StopResult :=
  { result with session := result.session.seenAt seen }

/-! ### Pauses -/

namespace PauseRecord

/-- A state that stays the same leaves the bookkeeping alone. -/
theorem advanceAt_same (pauses : PauseRecord) (state : PlaybackState) (now : Option Timestamp) :
    pauses.data.advanceAt (some state) (some state) now = .ok pauses := by
  unfold PauseData.advanceAt data
  simp only [Moment.map_assumeUniversal_toTimestamp]

end PauseRecord

namespace Session

/-! ### What events depend on -/

/-- What a stop decides does not depend on the state that was reported last, nor on when that
    was. -/
theorem stop_reported (s : Session) (state : PlaybackState) (seen : Option Moment)
    (stoppedAt : Timestamp) (mode : StopMode) :
    (s.reported state seen s.pauses).stop stoppedAt mode =
      (s.stop stoppedAt mode).map (·.seenAt seen) := by
  rw [stop_eq_map, stop_eq_map]
  show (s.watchedAfter mode (s.stopDuration stoppedAt).duration).map _ = _
  cases s.watchedAfter mode (s.stopDuration stoppedAt).duration with
  | error fault => rfl
  | ok watched => rfl

/-- The facts of a session that later events depend on: all but when it was last heard of. -/
def facts (s : Session) : Session := s.seenAt none

/-- When a session was last heard of is none of its facts. -/
theorem facts_eq_of_seenAt {s s' : Session} (h : s.seenAt none = s'.seenAt none) :
    s.facts = s'.facts := h

/-- A report at a time that may be missing depends on the facts alone. -/
theorem heardAt_facts (s : Session) (new : PlaybackState) (now : Option Timestamp) :
    s.facts.heardAt new now = s.heardAt new now := rfl

/-- A stop at a time that may be missing depends on the facts alone, but for when the session was
    last heard of. -/
theorem stopAt_facts (s : Session) (stoppedAt : Option Timestamp) (mode : StopMode) :
    s.facts.stopAt stoppedAt mode = (s.stopAt stoppedAt mode).map (·.seenAt none) := by
  cases stoppedAt with
  | none => rfl
  | some t => exact s.stop_reported s.state none t mode

variable {s s' : Session}

/-- A report has one outcome for all sessions with the same facts. -/
theorem after_report_congr (h : s.facts = s'.facts) (name : String) (now : Option Timestamp)
    (position : Datum) :
    s.after (.report name now position) = s'.after (.report name now position) := by
  have hheard : ∀ new, s.heardAt new now = s'.heardAt new now := fun new => by
    rw [← heardAt_facts, h, heardAt_facts]
  simp only [after, advanceNamed, hheard]

/-- A stop has one result for all sessions with the same facts, but for when they were last heard
    of. -/
theorem stopAt_congr (h : s.facts = s'.facts) (stoppedAt : Option Timestamp) (mode : StopMode) :
    (s.stopAt stoppedAt mode).map (·.seenAt none) =
      (s'.stopAt stoppedAt mode).map (·.seenAt none) := by
  rw [← stopAt_facts, h, stopAt_facts]

/-- An event has one outcome for all sessions with the same facts, but for when they were last
    heard of. -/
theorem after_congr (h : s.facts = s'.facts) (event : LifeEvent) :
    (s.after event).map (·.seenAt none) = (s'.after event).map (·.seenAt none) := by
  cases event with
  | report name now position => rw [after_report_congr h]
  | stop stoppedAt mode =>
    have hstop : ∀ t : Session, (t.after (.stop stoppedAt mode)).map (·.seenAt none) =
        ((t.stopAt stoppedAt mode).map (·.seenAt none)).map StopResult.session := fun t => by
      simp only [after]
      cases t.stopAt stoppedAt mode <;> rfl
    rw [hstop, hstop, stopAt_congr h]

/-- Sessions with the same facts have the same facts after an event. -/
theorem facts_after (h : s.facts = s'.facts) (event : LifeEvent) :
    ((s.after event).toOption.getD s).facts = ((s'.after event).toOption.getD s').facts := by
  have hevent := after_congr h event
  cases hs : s.after event with
  | error fault =>
    cases hs' : s'.after event with
    | error fault' => exact h
    | ok next' => rw [hs, hs'] at hevent; cases hevent
  | ok next =>
    cases hs' : s'.after event with
    | error fault' => rw [hs, hs'] at hevent; cases hevent
    | ok next' =>
      rw [hs, hs'] at hevent
      exact facts_eq_of_seenAt (Except.ok.inj hevent)

/-- Sessions with the same facts have the same facts after all events. -/
theorem facts_through (h : s.facts = s'.facts) (events : List LifeEvent) :
    (s.through events).facts = (s'.through events).facts := by
  induction events generalizing s s' with
  | nil => exact h
  | cons event rest ih => exact ih (facts_after h event)

/-- Sessions with the same facts go on in the same way, but for when they were last heard of. -/
theorem trace_congr (h : s.facts = s'.facts) (events : List LifeEvent) :
    (s.trace events).map (Except.map (·.seenAt none)) =
      (s'.trace events).map (Except.map (·.seenAt none)) := by
  induction events generalizing s s' with
  | nil => rfl
  | cons event rest ih =>
    simp only [trace, List.map_cons]
    rw [after_congr h event, ih (facts_after h event)]

/-! ### Extra reports -/

/-- Do two sessions go on in the same way with some events, but for when they were last heard of
    as long as nothing is? -/
structure GoesOnLike (s s' : Session) (later : List LifeEvent) : Prop where
  /-- After every event they are the same, but for when they were last heard of. -/
  snapshots : (s'.trace later).map (Except.map (·.seenAt none)) =
    (s.trace later).map (Except.map (·.seenAt none))
  /-- Once a report was heard they are the same. -/
  onceHeard : ∀ earlier name now position heard rest,
    later = earlier ++ .report name now position :: rest →
    (s.through earlier).after (.report name now position) = .ok heard →
    (s.trace later = s.trace earlier ++ .ok heard :: heard.trace rest ∧
      s.through later = heard.through rest) ∧
    (s'.trace later = s'.trace earlier ++ .ok heard :: heard.trace rest ∧
      s'.through later = heard.through rest)
  /-- A stop after the events has the same result, but for when they were last heard of. -/
  stops : ∀ stoppedAt mode, ((s'.through later).stopAt stoppedAt mode).map (·.seenAt none) =
    ((s.through later).stopAt stoppedAt mode).map (·.seenAt none)

/-- The session when it was heard of again, and still does what it did. -/
def stillHeard (s : Session) (now : Option Timestamp) : Session :=
  s.seenAt (now.map Timestamp.assumeUniversal)

/-- A report without a position that a session still does what it did is heard. -/
theorem after_same (s : Session) (now : Option Timestamp) :
    s.after (.report s.state.name now .null) = .ok (s.stillHeard now) := by
  simp only [after, advanceNamed, PlaybackState.ofName_name, heardAt, PauseRecord.advanceAt_same,
    Except.map, bind, Except.bind, movedTo_null]
  rfl

/-- A session that was heard of again has the same facts. -/
theorem facts_stillHeard (s : Session) (now : Option Timestamp) :
    (s.stillHeard now).facts = s.facts := rfl

/-- **Polling frequency does not matter.**  Between any two lists of events a report comes in that
    the session still does what it does, at any time and without a position.  It is heard, it
    changes nothing but when the session was last heard of, and the session goes on as it would
    have done without it. -/
theorem heartbeat_leaves_no_trace (s : Session) (before later : List LifeEvent)
    (now : Option Timestamp) :
    let played := s.through before
    s.trace (before ++ .report played.state.name now .null :: later) =
      s.trace before ++ .ok (played.stillHeard now) :: (played.stillHeard now).trace later ∧
    s.trace (before ++ later) = s.trace before ++ played.trace later ∧
    played.GoesOnLike (played.stillHeard now) later := by
  intro played
  have hfacts : (played.stillHeard now).facts = played.facts := played.facts_stillHeard now
  refine ⟨(through_cons_of_ok (played.after_same now) later).1, s.trace_append before later,
    trace_congr hfacts later, ?_,
    fun stoppedAt mode => stopAt_congr (facts_through hfacts later) stoppedAt mode⟩
  rintro earlier name time position heard rest rfl hheard
  refine ⟨through_cons_of_ok hheard rest, through_cons_of_ok ?_ rest⟩
  rw [after_report_congr (facts_through hfacts earlier), hheard]

/-- So many minutes after the start of the year 1. -/
def atMinute (minutes : Int) : Moment := .universal (minutes * Duration.minute)

/-- A film is paused, and a state is reported that there is not. -/
def filmPaused : List LifeEvent :=
  [.report "paused" (some (atMinute 10)) .null, .report "rewinding" (some (atMinute 11)) .null]

/-- That film is stopped when no time is given, goes on, and is stopped at a time. -/
def filmResumed : List LifeEvent :=
  [.stop none .standard, .report "playing" (some (atMinute 15)) (.int 600000),
    .stop (some (atMinute 20)) .standard]

/-- In the middle of the pause there is a report that the film is still paused.  Five minutes are
    recorded, and from the report on that the film plays, it is the film that it is without the
    extra report. -/
theorem heartbeat_leaves_no_trace_film :
    let s := Session.starting "film" "ann" "server" (.universal 0)
    let played := s.through filmPaused
    played.state = .paused ∧
      (s.trace (filmPaused ++ .report "paused" (some (atMinute 12)) .null :: filmResumed)).map
          (fun outcome => outcome.toOption.map fun t => (t.pausedDuration, t.duration)) =
        [some (0, none), none, some (0, none), none, some (300000, none),
          some (300000, some 900000)] ∧
      ∃ heard : Session, heard.lastSeenAt = some (atMinute 15) ∧
        played.trace filmResumed =
          [.error .noTime, .ok heard] ++ heard.trace [.stop (some (atMinute 20)) .standard] ∧
        (played.stillHeard (some (atMinute 12))).trace filmResumed =
          [.error .noTime, .ok heard] ++ heard.trace [.stop (some (atMinute 20)) .standard] := by
  intro s played
  obtain ⟨_, _, hgoesOn⟩ := heartbeat_leaves_no_trace s filmPaused filmResumed (some (atMinute 12))
  obtain ⟨heard, hheard⟩ : ∃ heard, (played.through [.stop none .standard]).after
      (.report "playing" (some (atMinute 15)) (.int 600000)) = .ok heard := ⟨_, rfl⟩
  obtain ⟨⟨htrace, _⟩, ⟨htrace', _⟩⟩ := hgoesOn.onceHeard [.stop none .standard] "playing"
    (some (atMinute 15)) (.int 600000) heard [.stop (some (atMinute 20)) .standard] rfl hheard
  refine ⟨rfl, by decide +kernel, heard, ?_, htrace, htrace'⟩
  obtain rfl := Except.ok.inj hheard
  rfl

end Session

end StreamWatch
