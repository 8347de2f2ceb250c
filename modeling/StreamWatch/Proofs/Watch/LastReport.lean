import StreamWatch.Proofs.Lifecycle.Heartbeat
import StreamWatch.Proofs.Monitor.Sweepable
import StreamWatch.Proofs.Watch.Guarded
import StreamWatch.Proofs.Watch.Retention

namespace StreamWatch

/-!
# A last report is a stop

A session ends when it is stopped, and when it is reported that it has stopped.  The report goes
through the bookkeeping of pauses first, and says when the session was last heard of:

* `Session.heard_stopped` — what the report of a stop changes before the session ends;
* `Monitor.finish_reported` — the end of a session after such a report is its end without it;
* `Watch.last_report_is_stop` — both ways come to the same, but for when the session was last
  heard of.
-/

/-- The report that a session has stopped opens no pause and closes none. -/
theorem Session.heard_stopped (s : Session) (now : Timestamp) :
    s.heard .stopped now =
      s.reported .stopped (some now.assumeUniversal) s.pauses := by
  unfold heard
  cases s.state <;> rfl

namespace Monitor

variable {τ : Type} {m : Monitor τ} {id : String} {live : Session}

/-- A stop ends the session that it names. -/
theorem stopSession_eq (hlive : m.find? id = some live) (now : Timestamp) (forced : Datum) :
    m.stopSession (.text id) now forced =
      (m.finish live now.assumeUniversal forced).map some := by
  unfold stopSession
  rw [findGiven_text, hlive]

/-- The report that a session has stopped ends it as it is after the report. -/
theorem update_stopped_eq (hlive : m.find? id = some live) (now : Timestamp) :
    m.update (.text id) "stopped" .null now =
      ((m.finish (live.reported .stopped (some now.assumeUniversal) live.pauses)
        now.assumeUniversal (.bool false)).map StopResult.session).map some := by
  have hstate : PlaybackState.ofName? "stopped" = some .stopped := by decide
  have hadvance : live.advance .stopped now.assumeUniversal .null =
      .ok (live.reported .stopped (some now.assumeUniversal) live.pauses) := by
    rw [Session.advance_eq, Session.movedTo_null, Session.heard_stopped]
    rfl
  unfold update report
  simp only [hstate, findGiven_text, hlive, hadvance, if_true]

/-- A session ends after a report as it does without it, but for when it was last heard of.  If its
    end fails, it fails in both cases, and nothing has changed. -/
theorem finish_reported (m : Monitor τ) (s : Session) (state : PlaybackState)
    (seen : Option Moment) (stoppedAt : Moment) (forced : Datum) :
    (∃ fault, m.finish s stoppedAt forced = ⟨m, .error fault, []⟩ ∧
      m.finish (s.reported state seen s.pauses) stoppedAt forced =
        ⟨m, .error fault, []⟩) ∨
    ∃ result : StopResult,
      m.finish s stoppedAt forced =
        ⟨(m.release s.id).archive result.session, .ok result, []⟩ ∧
      m.finish (s.reported state seen s.pauses) stoppedAt forced =
        ⟨(m.release s.id).archive (result.session.seenAt seen), .ok (result.seenAt seen), []⟩ := by
  have hreported : (s.reported state seen s.pauses).stop stoppedAt
      (m.stopMode (s.reported state seen s.pauses) forced) =
        (s.stop stoppedAt (m.stopMode s forced)).map (·.seenAt seen) :=
    s.stop_reported state seen stoppedAt (m.stopMode s forced)
  cases hstop : s.stop stoppedAt (m.stopMode s forced) with
  | error fault =>
    rw [hstop] at hreported
    exact .inl ⟨fault, finish_of_fault hstop, finish_of_fault hreported⟩
  | ok result =>
    rw [hstop] at hreported
    exact .inr ⟨result, finish_of_stop hstop, finish_of_stop hreported⟩

end Monitor

namespace Watch

variable {τ : Type} [Sub τ] [LE τ] [DecidableLE τ]

/-- **A report that a session has stopped comes to the same as a stop**, whatever was done before
    and whatever the session did.  Either both fail, for the same reason, and nothing has changed.
    Or both take the session from the active ones, and put what is left of it behind the others of
    its user.  What is left is the same, but that after the report the session was last heard of
    at that time.  Neither fails where the times are such as a clock shows. -/
theorem last_report_is_stop (registry : Registry) (server : Server) (config : MonitorConfig)
    (rules : List Rule) (hasReceiver : Bool) (cooldown : τ) (moves : List (Move τ)) :
    let m := ((fresh (.fresh server config rules hasReceiver cooldown)).run registry moves).monitor
    ∀ id live, m.active.get? id = some live → ∀ now,
      let reported := m.update (.text id) "stopped" .null now
      let stopped := m.stopSession (.text id) now (.bool false)
      (reported.notices = [] ∧ stopped.notices = []) ∧
      ((∃ fault, (reported.result = .error fault ∧ stopped.result = .error fault) ∧
          reported.monitor = m ∧ stopped.monitor = m) ∨
        ∃ result : StopResult,
          (stopped.result = .ok (some result) ∧
            stopped.monitor = (m.release id).archive result.session) ∧
          reported.result = .ok (some (result.session.seenAt (some now.assumeUniversal))) ∧
          reported.monitor =
            (m.release id).archive (result.session.seenAt (some now.assumeUniversal))) ∧
      (∀ reports ≤ twoPow 896, live.Measured reports → now.Shown →
        ∃ result, stopped.result = .ok (some result)) := by
  intro m id live hactive now
  have hguarded : m.Guarded :=
    guarded_run registry (.fresh server config rules hasReceiver cooldown) moves
  have hlive : m.find? id = some live := (hguarded.find?_eq id).trans hactive
  obtain rfl : live.id = id := hguarded.ownId id live hactive
  simp only [Monitor.update_stopped_eq hlive, Monitor.stopSession_eq hlive]
  have hends : ∀ reports ≤ twoPow 896, live.Measured reports → now.Shown → ∃ result,
      (m.finish live now.assumeUniversal (.bool false)).result = .ok result := by
    intro reports hreports hmeasured hnow
    obtain ⟨result, hresult⟩ :=
      hmeasured.stop_isOk hreports hnow.assumeUniversal (m.stopMode_hasNumber live (.bool false))
    rw [Monitor.finish_of_stop hresult]
    exact ⟨result, rfl⟩
  obtain ⟨fault, hstop, hreport⟩ | ⟨result, hstop, hreport⟩ := m.finish_reported live .stopped
    (some now.assumeUniversal) now.assumeUniversal (.bool false)
  · rw [hstop] at hends ⊢
    rw [hreport]
    refine ⟨⟨rfl, rfl⟩, .inl ⟨fault, ⟨rfl, rfl⟩, rfl, rfl⟩,
      fun reports hreports hmeasured hnow => ?_⟩
    obtain ⟨_, hresult⟩ := hends reports hreports hmeasured hnow
    cases hresult
  · rw [hstop, hreport]
    exact ⟨⟨rfl, rfl⟩, .inr ⟨result, ⟨rfl, rfl⟩, rfl, rfl⟩, fun _ _ _ _ => ⟨result, rfl⟩⟩

/-- A film plays for an hour and is paused, while a song plays. -/
def longPause : List (Move Nat) :=
  [startOfAnn "film" 0, startOfAnn "song" 0, .report (.text "film") "paused" .null (hourly 1)]

/-- That film. -/
def pausedFilm : Session :=
  { Session.starting "film" "ann" "server" (hourly 0) with
    state := .paused
    lastSeenAt := some (hourly 1)
    lastPausedAt := some (hourly 1) }

/-- After two hours of pause the film is stopped by a report or by a stop.  Both ways it was watched
    for an hour, and the song goes on. -/
theorem last_report_is_stop_longPause :
    let m := ((fresh home).run .standard longPause).monitor
    let reported := m.update (.text "film") "stopped" .null (hourly 3)
    let stopped := m.stopSession (.text "film") (hourly 3) (.bool false)
    m.active.get? "film" = some pausedFilm ∧ pausedFilm.Measured 0 ∧ (hourly 3).Shown ∧
      (m.release "film").active.keys = ["song"] ∧
      ∃ result : StopResult,
        (result.session.duration, result.session.pausedDuration, result.session.lastSeenAt) =
          (some 3600000, 7200000, some (hourly 1)) ∧
        (stopped.result = .ok (some result) ∧
          stopped.monitor = (m.release "film").archive result.session) ∧
        reported.result = .ok (some (result.session.seenAt (some (hourly 3)))) ∧
        reported.monitor =
          (m.release "film").archive (result.session.seenAt (some (hourly 3))) := by
  intro m reported stopped
  have hlive : m.active.get? "film" = some pausedFilm := rfl
  have hpaused : (hourly 1).Shown := ⟨by decide, by decide⟩
  have hstopped : (hourly 3).Shown := ⟨by decide, by decide⟩
  have hmeasured : pausedFilm.Measured 0 :=
    ⟨⟨by decide, by decide⟩, fun t ht => Option.some.inj ht ▸ hpaused,
      fun t ht => Option.some.inj ht ▸ hpaused, by decide⟩
  obtain ⟨_, hways, hends⟩ := last_report_is_stop .standard ⟨"server", "Home", none⟩ .standard []
    true 60 longPause "film" pausedFilm hlive (hourly 3)
  obtain ⟨ended, hended⟩ := hends 0 (Nat.zero_le _) hmeasured hstopped
  obtain ⟨fault, ⟨_, hfault⟩, _⟩ | ⟨result, ⟨hresult, hmonitor⟩, hways⟩ := hways
  · cases hended.symm.trans hfault
  · have hfacts : stopped.result.toOption.map (Option.map fun result : StopResult =>
        (result.session.duration, result.session.pausedDuration, result.session.lastSeenAt)) =
        some (some (some 3600000, 7200000, some (hourly 1))) := by decide +kernel
    have hreturned : stopped.result = .ok (some result) := hresult
    rw [hreturned] at hfacts
    exact ⟨hlive, hmeasured, hstopped, rfl, result, Option.some.inj (Option.some.inj hfacts),
      ⟨hresult, hmonitor⟩, hways⟩

end Watch

end StreamWatch
