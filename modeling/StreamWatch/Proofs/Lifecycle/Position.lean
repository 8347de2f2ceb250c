import StreamWatch.Proofs.Lifecycle.Course
import StreamWatch.Proofs.Lifecycle.Heartbeat
import StreamWatch.Proofs.Monitor.Step
import StreamWatch.Proofs.Number.Order
import StreamWatch.Proofs.Validation.Session

namespace StreamWatch

/-!
# The position decides nothing

Players report wrong positions at times.  A position is kept, at most at the end of the item, and
nothing else depends on it:

* `Session.placed`, `LifeEvent.unplaced` — a session at another position, and an event without one;
* `Session.after_unplaced`, `Session.trace_unplaced` — but for the position, what becomes of a
  session is what becomes of it when no position is ever reported;
* `Session.after_cases` — what an event without a fault does to a session;
* `Session.WithinLength`, `Session.LeadsTo` — what every event keeps: the position is not beyond
  the end, what was true of the session stays true, and its profile is the same;
* `Session.position_decides_nothing` — both for whole lives.
-/

/-! ### Events without a position -/

namespace Session

/-- The session at another position. -/
def placed (s : Session) (position : Datum) : Session := { s with progress := position }

end Session

/-- The result of a stop at another position. -/
def StopResult.placed (result : StopResult) (position : Datum) : StopResult :=
  { result with session := result.session.placed position }

namespace LifeEvent

/-- The same event with no position. -/
def unplaced : LifeEvent → LifeEvent
  | report state now _ => report state now .null
  | stop stoppedAt mode => stop stoppedAt mode

/-- Is the position of a report a number, if there is one? -/
def HasNumber : LifeEvent → Prop
  | report _ _ position => position = .null ∨ position.count?.isSome = true
  | stop _ _ => True

end LifeEvent

namespace Session

/-- What a stop decides does not depend on the position. -/
theorem stopAt_placed (s : Session) (position : Datum) (stoppedAt : Option Timestamp)
    (mode : StopMode) :
    (s.placed position).stopAt stoppedAt mode =
      (s.stopAt stoppedAt mode).map (·.placed position) := by
  cases stoppedAt with
  | none => rfl
  | some t =>
    rw [stopAt_some, stopAt_some, stop_eq_map, stop_eq_map]
    show (s.watchedAfter mode (s.stopDuration t).duration).map _ = _
    cases s.watchedAfter mode (s.stopDuration t).duration with
    | error fault => rfl
    | ok watched => rfl

/-- Hearing of a state does not depend on the position. -/
theorem heardAt_placed (s : Session) (position : Datum) (new : PlaybackState)
    (now : Option Timestamp) :
    (s.placed position).heardAt new now = (s.heardAt new now).map (·.placed position) := by
  unfold heardAt
  rw [show (s.placed position).pauses = s.pauses from rfl]
  show (s.pauses.data.advanceAt (some s.state) (some new) _).map _ =
    ((s.pauses.data.advanceAt (some s.state) (some new) _).map _).map _
  cases s.pauses.data.advanceAt (some s.state) (some new) _ with
  | error fault => rfl
  | ok pauses => rfl

/-- Whether a number is beyond a length can always be said. -/
theorem stands_less_number (length : Int) {position : Datum}
    (h : position.count?.isSome = true) :
    ∃ beyond, (Datum.int length).stands .less position = .ok beyond := by
  cases position with
  | bool b => exact ⟨_, by simp only [Datum.stands, Datum.count?]; rfl⟩
  | int n => exact ⟨_, by simp only [Datum.stands, Datum.count?]; rfl⟩
  | real x => exact ⟨_, by simp only [Datum.stands, Datum.count?]; rfl⟩
  | null | text _ | list _ | record _ => simp [Datum.count?] at h

/-- What is kept of a reported position is the position or the length, and it is the length where
    that one is below the position. -/
theorem clampReported_cases {total : Option Int} {position p : Datum}
    (h : clampReported total position = .ok p) :
    (p = position ∧ ∀ length, total = some length → length ≠ 0 →
        (Datum.int length).stands .less position = .ok false) ∨
      ∃ length, total = some length ∧ p = .int length := by
  unfold clampReported at h
  cases total with
  | none => exact .inl ⟨(Except.ok.inj h).symm, nofun⟩
  | some length =>
    by_cases hzero : length = 0
    · simp only [if_pos hzero] at h
      refine .inl ⟨(Except.ok.inj h).symm, fun length' hlength' hne => ?_⟩
      exact absurd (Option.some.inj hlength' ▸ hzero) hne
    · simp only [if_neg hzero] at h
      cases hstands : (Datum.int length).stands .less position with
      | error fault => rw [hstands] at h; cases h
      | ok beyond =>
        rw [hstands] at h
        have hkept := Except.ok.inj h
        -- What is beyond the end is moved to it, and what is not stays where it is.
        cases beyond with
        | true => exact .inr ⟨length, rfl, hkept.symm⟩
        | false =>
          refine .inl ⟨hkept.symm, fun length' hlength' _ => ?_⟩
          rw [← Option.some.inj hlength', hstands]

/-- A position that is a number can always be noted. -/
theorem movedTo_number (s : Session) {position : Datum}
    (h : position = .null ∨ position.count?.isSome = true) :
    ∃ p, s.movedTo position = .ok (s.placed p) := by
  rcases h with rfl | h
  · exact ⟨s.progress, rfl⟩
  · have hclamped : ∃ p, clampReported s.totalDuration position = .ok p := by
      unfold clampReported
      cases s.totalDuration with
      | none => exact ⟨_, rfl⟩
      | some length =>
        obtain ⟨beyond, hbeyond⟩ := stands_less_number length h
        by_cases hzero : length = 0
        · exact ⟨_, if_pos hzero⟩
        · simp only [if_neg hzero, hbeyond]
          exact ⟨_, rfl⟩
    obtain ⟨p, hp⟩ := hclamped
    cases position with
    | null => exact ⟨s.progress, rfl⟩
    | bool _ | int _ | real _ | text _ | list _ | record _ =>
      exact ⟨p, by simp only [movedTo, hp]; rfl⟩

/-- **One event.**  But for the position, it has the outcome that it has without one for a session
    without one. -/
theorem after_unplaced (s : Session) {event : LifeEvent} (h : event.HasNumber) :
    (s.after event).map (·.placed .null) = (s.placed .null).after event.unplaced := by
  cases event with
  | report name now position =>
    simp only [LifeEvent.unplaced, after, advanceNamed]
    cases PlaybackState.ofName name with
    | error fault => rfl
    | ok new =>
      show ((s.heardAt new now).bind fun heard => heard.movedTo position).map _ =
        ((s.placed .null).heardAt new now).bind fun heard => heard.movedTo .null
      rw [heardAt_placed]
      cases s.heardAt new now with
      | error fault => rfl
      | ok heard =>
        obtain ⟨p, hp⟩ := heard.movedTo_number h
        show (heard.movedTo position).map _ = _
        rw [hp]
        rfl
  | stop stoppedAt mode =>
    simp only [LifeEvent.unplaced, after, stopAt_placed]
    cases s.stopAt stoppedAt mode with
    | error fault => rfl
    | ok result => rfl

/-- What an event leaves behind goes by its outcome, the position left out. -/
theorem left_unplaced (s : Session) {event : LifeEvent} (h : event.HasNumber) :
    ((s.after event).toOption.getD s).placed .null =
      ((s.placed .null).after event.unplaced).toOption.getD (s.placed .null) := by
  rw [← s.after_unplaced h]
  cases s.after event with
  | error fault => rfl
  | ok next => rfl

/-- **A whole life.**  But for the position, what becomes of a session is what becomes of it when no
    position is ever reported. -/
theorem trace_unplaced (s : Session) {events : List LifeEvent}
    (h : ∀ event ∈ events, event.HasNumber) :
    (s.trace events).map (Except.map (·.placed .null)) =
      (s.placed .null).trace (events.map .unplaced) := by
  induction events generalizing s with
  | nil => rfl
  | cons event rest ih =>
    have hevent := h event List.mem_cons_self
    have hrest := ih ((s.after event).toOption.getD s) fun later hlater =>
      h later (List.mem_cons_of_mem _ hlater)
    simp only [trace, List.map_cons]
    rw [hrest, s.left_unplaced hevent, s.after_unplaced hevent]

/-- The session that events leave goes by what they are without positions. -/
theorem through_unplaced (s : Session) {events : List LifeEvent}
    (h : ∀ event ∈ events, event.HasNumber) :
    (s.through events).placed .null = (s.placed .null).through (events.map .unplaced) := by
  induction events generalizing s with
  | nil => rfl
  | cons event rest ih =>
    have hrest := ih ((s.after event).toOption.getD s) fun later hlater =>
      h later (List.mem_cons_of_mem _ hlater)
    simp only [through, List.map_cons]
    rw [hrest, s.left_unplaced (h event List.mem_cons_self)]

/-! ### What every event keeps -/

/-- What an event without a fault does: a report is heard and then notes its position, and a stop
    happens at a time. -/
theorem after_cases {s t : Session} {event : LifeEvent} (h : s.after event = .ok t) :
    (∃ new seen pauses position, (s.reported new seen pauses).movedTo position = .ok t) ∨
      ∃ stoppedAt mode watched,
        s.watchedAfter mode (s.stopDuration stoppedAt).duration = .ok watched ∧
          t = (s.ending stoppedAt mode watched).session := by
  cases event with
  | report name now position =>
    left
    simp only [after, advanceNamed] at h
    cases hname : PlaybackState.ofName name with
    | error fault => rw [hname] at h; cases h
    | ok new =>
      rw [hname] at h
      change (s.heardAt new now).bind (fun heard => heard.movedTo position) = .ok t at h
      cases hheard : s.heardAt new now with
      | error fault => rw [hheard] at h; cases h
      | ok heard =>
        rw [hheard] at h
        obtain ⟨pauses, _, rfl⟩ := eq_ok_of_map hheard
        exact ⟨new, _, pauses, position, h⟩
  | stop stoppedAt mode =>
    right
    obtain ⟨result, hresult, rfl⟩ := eq_ok_of_map h
    cases stoppedAt with
    | none => cases hresult
    | some t =>
      rw [stopAt_some, stop_eq_map] at hresult
      obtain ⟨watched, hwatched, rfl⟩ := eq_ok_of_map hresult
      exact ⟨t, mode, watched, hwatched, rfl⟩

/-- Is the position of a session not beyond the end of its item?  A length of zero is none. -/
def WithinLength (s : Session) : Prop :=
  ∀ length, s.totalDuration = some length → length ≠ 0 →
    ∀ position, s.progress = .int position → position ≤ length

/-- A position that is noted is not beyond the end. -/
theorem WithinLength.movedTo {s t : Session} (hs : s.WithinLength) {position : Datum}
    (h : s.movedTo position = .ok t) : t.WithinLength := by
  unfold Session.movedTo at h
  split at h
  · cases h
    exact hs
  · obtain ⟨p, hclamped, rfl⟩ := eq_ok_of_map h
    intro length hlength hzero n hn
    change s.totalDuration = some length at hlength
    change p = .int n at hn
    rcases clampReported_cases hclamped with ⟨rfl, hbelow⟩ | ⟨length', hlength', rfl⟩
    · have hstands := Datum.stands_ofNumber .less (.int length) (.int n)
      rw [hn] at hbelow
      have hnot : (Number.int length).lessThan (.int n) = false :=
        Except.ok.inj (hstands.symm.trans (hbelow length hlength hzero))
      rw [Number.lessThan_int, decide_eq_false_iff_not] at hnot
      omega
    · have hsame := Option.some.inj (hlength'.symm.trans hlength)
      have hkept := Datum.int.inj hn
      omega

/-- The position of a session that was read is not beyond the end. -/
theorem IsValid.withinLength {s : Session} (h : s.IsValid) : s.WithinLength := by
  intro length hlength hzero n hn
  have hmoved := @clamped_of_position s (some n) hn
  rw [h.clamped] at hmoved
  have hsame : s.progress = .int (clampPosition s.totalDuration n) :=
    congrArg Session.progress hmoved
  rw [hn, hlength] at hsame
  have hmin : n = min n length := by
    simpa only [clampPosition, if_neg hzero] using Datum.int.inj hsame
  omega

/-- No event brings a position beyond the end. -/
theorem WithinLength.after {s t : Session} (hs : s.WithinLength) {event : LifeEvent}
    (h : s.after event = .ok t) : t.WithinLength := by
  rcases after_cases h with ⟨new, seen, pauses, position, hmoved⟩ | ⟨_, _, _, _, rfl⟩
  · have hreported : (s.reported new seen pauses).WithinLength := hs
    exact hreported.movedTo hmoved
  · exact hs

/-- The session with everything forgotten that reports and stops tell of it.  What is left is who
    plays what, where, by what and in which quality, from when on and how long the item is. -/
def profile (s : Session) : Session :=
  { s with
    state := .playing
    stoppedAt := none
    lastSeenAt := none
    progress := .null
    duration := none
    lastPausedAt := none
    pausedDuration := 0
    watched := false
    shortSession := false
    forceStopped := .bool false }

/-- Can a session go on as another one?  It stays watched and it stays stopped by force, and it has
    the same profile. -/
structure LeadsTo (s t : Session) : Prop where
  watched : s.watched = true → t.watched = true
  forced : s.forceStopped.truthy = true → t.forceStopped.truthy = true
  profile : t.profile = s.profile

namespace LeadsTo

variable {s t u : Session}

theorem trans (h : s.LeadsTo t) (h' : t.LeadsTo u) : s.LeadsTo u :=
  ⟨fun hs => h'.watched (h.watched hs), fun hs => h'.forced (h.forced hs),
    h'.profile.trans h.profile⟩

/-- Every event leads a session to what it leaves. -/
theorem after {event : LifeEvent} (h : s.after event = .ok t) : s.LeadsTo t := by
  rcases after_cases h with ⟨_, _, _, _, hmoved⟩ | ⟨_, mode, _, hwatched, rfl⟩
  · obtain ⟨p, rfl⟩ := movedTo_eq_ok hmoved
    exact ⟨fun hs => hs, fun hs => hs, rfl⟩
  · refine ⟨fun hs => ?_, fun hs => ?_, rfl⟩
    · -- A session that was watched is not looked at again.
      unfold watchedAfter at hwatched
      rw [hs, Bool.or_true, if_pos rfl] at hwatched
      exact (Except.ok.inj hwatched).symm
    · show (s.forceStopped.orElse mode.forceStopped).truthy = true
      unfold Datum.orElse
      rw [if_pos hs]
      exact hs

end LeadsTo

/-- The sessions that events leave one after the other, that before the first event in front.  An
    event with a fault leaves none. -/
def stages (s : Session) (events : List LifeEvent) : List Session :=
  s :: (s.trace events).filterMap Except.toOption

/-- The first event leaves a session behind or has a fault, and the others go on from there. -/
theorem stages_cons (s : Session) (event : LifeEvent) (rest : List LifeEvent) :
    (∃ t, s.after event = .ok t ∧ s.stages (event :: rest) = s :: t.stages rest) ∨
      s.stages (event :: rest) = s.stages rest := by
  unfold stages
  cases hafter : s.after event with
  | error fault =>
    right
    simp only [trace, hafter]
    rfl
  | ok t =>
    left
    refine ⟨t, rfl, ?_⟩
    simp only [trace, hafter]
    rfl

/-- No position is beyond the end in a life that does not begin so. -/
theorem WithinLength.stages {s : Session} (hs : s.WithinLength) (events : List LifeEvent) :
    ∀ t ∈ s.stages events, t.WithinLength := by
  induction events generalizing s with
  | nil =>
    intro t ht
    obtain rfl := List.mem_singleton.mp ht
    exact hs
  | cons event rest ih =>
    rcases s.stages_cons event rest with ⟨next, hnext, hstages⟩ | hstages
    · rw [hstages]
      intro t ht
      rcases List.mem_cons.mp ht with rfl | ht
      · exact hs
      · exact ih (hs.after hnext) t ht
    · rw [hstages]
      exact ih hs

/-- In a life every session leads to all later ones. -/
theorem pairwise_stages (s : Session) (events : List LifeEvent) :
    (s.stages events).Pairwise LeadsTo := by
  induction events generalizing s with
  | nil => exact List.pairwise_singleton _ s
  | cons event rest ih =>
    rcases s.stages_cons event rest with ⟨next, hnext, hstages⟩ | hstages
    · rw [hstages]
      have hlater := ih next
      refine List.pairwise_cons.mpr ⟨fun t ht => ?_, hlater⟩
      -- The next session leads to all that come after it, and to itself.
      rcases List.mem_cons.mp ht with rfl | ht
      · exact .after hnext
      · exact (LeadsTo.after hnext).trans ((List.pairwise_cons.mp hlater).1 t ht)
    · rw [hstages]
      exact ih s

/-! ### Whole lives -/

/-- **The position decides nothing.**  Let two sessions be the same but for their positions, and two
    lives the same but for the positions that are reported, of which each is a number or missing.

    * Everything that becomes of the sessions is the same but for their positions, and so is the
      result of a stop at any point.
    * In every life no position is beyond the end of an item of a known length, if it was not at
      first, as is so for every session that was read.
    * In every life a session that was watched, or was stopped by force, stays so, and the profile
      of a session never changes. -/
theorem position_decides_nothing (s s' : Session) (events events' : List LifeEvent)
    (hs : s.placed .null = s'.placed .null)
    (hevents : events.map LifeEvent.unplaced = events'.map LifeEvent.unplaced)
    (hnumbers : ∀ event ∈ events ++ events', event.HasNumber) :
    ((s.trace events).map (Except.map (·.placed .null)) =
        (s'.trace events').map (Except.map (·.placed .null)) ∧
      ∀ stoppedAt mode, ((s.through events).stopAt stoppedAt mode).map (·.placed .null) =
        ((s'.through events').stopAt stoppedAt mode).map (·.placed .null)) ∧
    (s.WithinLength → ∀ t ∈ s.stages events, t.WithinLength) ∧
    (∀ d, ofGiven d = .accepted s → s.WithinLength) ∧
    (s.stages events).Pairwise LeadsTo := by
  have hfirst : ∀ event ∈ events, event.HasNumber := fun event hevent =>
    hnumbers event (List.mem_append_left _ hevent)
  have hsecond : ∀ event ∈ events', event.HasNumber := fun event hevent =>
    hnumbers event (List.mem_append_right _ hevent)
  refine ⟨⟨?_, fun stoppedAt mode => ?_⟩, fun hwithin => hwithin.stages events, fun d hd => ?_,
    s.pairwise_stages events⟩
  · rw [s.trace_unplaced hfirst, s'.trace_unplaced hsecond, hs, hevents]
  · rw [← stopAt_placed, ← stopAt_placed, s.through_unplaced hfirst, s'.through_unplaced hsecond,
      hs, hevents]
  · exact ((Session.returns Validation.asText_stamps).valid hd).withinLength

/-- The reports on a film of an hour, with positions that come as they like: one is far beyond the
    end, and after the stop one is not known. -/
def filmReports (first second third : Datum) : List LifeEvent :=
  [.report "paused" (atMinute 10) first, .report "rewinding" (atMinute 11) second,
    .report "playing" (atMinute 20) second, .stop none .standard,
    .stop (atMinute 60) ⟨.bool true, false, .standard, some (.real 0.5)⟩,
    .report "buffering" (atMinute 61) third, .stop (atMinute 62) .standard]

/-- The film with two sets of positions.  The stop, which needs a time, has its fault in both, and
    the film is watched and stopped by force by the end. -/
theorem position_decides_nothing_film :
    let film := { starting "film" "ann" "server" (.universal 0) with
      totalDuration := some 3600000, progress := .int 7 }
    let started := { film with progress := .null }
    let reports := filmReports (.int 99999999) (.real 0.5) .null
    let others := filmReports .null (.int (-3)) (.int 12)
    (film.stages reports).map (fun s => (s.progress.number?.isSome, s.watched)) =
        [(true, false), (true, false), (true, false), (true, true), (true, true), (true, true)] ∧
      (film.trace reports).map (Except.map (·.placed .null)) =
        (started.trace others).map (Except.map (·.placed .null)) ∧
      (∀ s ∈ film.stages reports, s.WithinLength) ∧ (film.stages reports).Pairwise LeadsTo := by
  intro film started reports others
  have hnumbers : ∀ event ∈ reports ++ others, event.HasNumber := by
    intro event hevent
    simp only [reports, others, filmReports, List.cons_append, List.nil_append, List.mem_cons,
      List.not_mem_nil, or_false] at hevent
    rcases hevent with rfl | rfl | rfl | rfl | rfl | rfl | rfl | rfl | rfl | rfl | rfl | rfl | rfl |
      rfl <;>
      first
        | exact trivial
        | exact .inl rfl
        | exact .inr rfl
  have hwithin : film.WithinLength := by
    intro length hlength _ position hposition
    obtain rfl := Option.some.inj hlength
    obtain rfl := Datum.int.inj hposition
    decide
  obtain ⟨⟨htrace, _⟩, hlengths, _, hleads⟩ :=
    position_decides_nothing film started reports others rfl rfl hnumbers
  exact ⟨by decide +kernel, htrace, hlengths hwithin, hleads⟩

end Session

end StreamWatch
