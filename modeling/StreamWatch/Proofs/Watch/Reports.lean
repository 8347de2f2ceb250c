import Mathlib.Data.List.Induction
import StreamWatch.Proofs.Watch.Records

namespace StreamWatch

/-!
# An active session is what was reported of it

Many sessions are watched at once, and their starts, reports, stops and sweeps take turns.  An
active session is still what its own reports since its last start have made of it, as if there
were no other session:

* `Session.afterReports` — a session after a list of reports, one after the other;
* `Move.Starts`, `Move.reportTo` — which moves concern the session of an id;
* `Watch.Effect` — what a move without a fault does to the active sessions, exactly, and
  `Watch.effect_of_deed`, by which every move does one of these things;
* `Watch.Follows` — a snapshot is what the reports since the last start made of it, and
  `Watch.follows_run`, by which every active session is.
-/

/-! ### Reports -/

/-- A report of a state at a time, with a position as it came. -/
structure StateReport where
  state : PlaybackState
  time : Timestamp
  position : Datum

/-- A session after a list of reports, one after the other. -/
def Session.afterReports (s : Session) (reports : List StateReport) : Except Fault Session :=
  reports.foldlM (fun heard report => heard.advance report.state report.time report.position) s

/-- A session goes on from where the first reports have left it. -/
theorem Session.afterReports_append {s heard : Session} {reports : List StateReport}
    (h : s.afterReports reports = .ok heard) (later : List StateReport) :
    s.afterReports (reports ++ later) = heard.afterReports later := by
  unfold Session.afterReports at h ⊢
  rw [List.foldlM_append, h]
  rfl

/-- After a single report a session is what this one made of it. -/
theorem Session.afterReports_singleton (s : Session) (report : StateReport) :
    s.afterReports [report] = s.advance report.state report.time report.position := by
  simp only [afterReports, List.foldlM_cons, List.foldlM_nil, bind_pure]

/-- A name that a state was found for is the name of that state. -/
theorem PlaybackState.name_of_ofName? {name : String} {state : PlaybackState}
    (h : ofName? name = some state) : state.name = name := by
  have hfound := List.find?_some h
  exact eq_of_beq hfound

namespace Move

variable {τ : Type}

/-- Does a move start a session of an id? -/
def Starts (id : String) : Move τ → Prop
  | .start session _ _ => session.id = id
  | _ => False

/-- What a move reports to the session of an id, if the session goes on after it.  A report
    that is addressed to another id, of a state that there is not, or of a session that has
    stopped is none. -/
def reportTo (id : String) : Move τ → Option StateReport
  | .report (.text name) stateName position now =>
    if name = id then
      ((PlaybackState.ofName? stateName).filter (· ≠ .stopped)).map
        (⟨·, now.assumeUniversal, position⟩)
    else none
  | _ => none

/-- Only a report to a session that goes on reports something to it. -/
theorem reportTo_eq_some {id : String} {move : Move τ} {report : StateReport}
    (h : move.reportTo id = some report) :
    ∃ stateName now, move = .report (.text id) stateName report.position now ∧
      PlaybackState.ofName? stateName = some report.state ∧ report.state ≠ .stopped ∧
      report.time = now.assumeUniversal := by
  unfold reportTo at h
  split at h
  · rename_i name stateName position now
    split at h
    · rename_i hname
      obtain ⟨state, hstate, rfl⟩ := Option.map_eq_some_iff.mp h
      obtain ⟨hstate, hgoesOn⟩ := Option.filter_eq_some_iff.mp hstate
      exact ⟨stateName, now, hname ▸ rfl, hstate, of_decide_eq_true hgoesOn, rfl⟩
    · cases h
  · cases h

/-- What is reported to one id is reported to no other one. -/
theorem reportTo_of_ne {id other : String} {move : Move τ} {report : StateReport}
    (h : move.reportTo id = some report) (hother : other ≠ id) : move.reportTo other = none := by
  obtain ⟨stateName, now, rfl, _⟩ := reportTo_eq_some h
  simp only [reportTo, hother.symm, if_false]

end Move

/-! ### Effects -/

namespace Watch

variable {τ : Type}

/-- How a move ends an active session: the snapshot that is stopped, at which time, and what is
    said of force.  A report that the session has stopped counts as its last one, and a stale
    session is stopped at the time it was last heard of. -/
inductive Ends (w : Watch τ) (live : Session) : Move τ → Session → Timestamp → Datum → Prop
  | stop (stoppedAt : Timestamp) (forced : Datum) :
      Ends w live (.stop (.text live.id) stoppedAt forced) live stoppedAt.assumeUniversal forced
  | report (position : Datum) (now : Timestamp) (last : Session)
      (hlast : live.advance .stopped now.assumeUniversal position = .ok last) :
      Ends w live (.report (.text live.id) PlaybackState.stopped.name position now) last
        now.assumeUniversal (.bool false)
  | sweep (slot : Nat) (now : Moment) (rest : List String)
      (hslot : w.sweeps[slot]? = some ⟨now, live.id :: rest⟩)
      (hstale : isStale live.lastHeardAt (.int w.monitor.config.limits.staleTimeoutSeconds) now =
        .ok true) :
      Ends w live (.sweepOn slot) live live.lastHeardAt (.bool true)

/-- What ends a session starts none, and reports nothing to one that goes on. -/
theorem Ends.concerns_nobody {w : Watch τ} {live last : Session} {move : Move τ}
    {stoppedAt : Timestamp} {forced : Datum} (h : w.Ends live move last stoppedAt forced)
    (id : String) : ¬ move.Starts id ∧ move.reportTo id = none := by
  refine ⟨by cases h <;> exact not_false, Option.eq_none_iff_forall_ne_some.mpr ?_⟩
  intro report hreport
  obtain ⟨stateName, now, rfl, hstate, hgoesOn, _⟩ := Move.reportTo_eq_some hreport
  cases h with
  | report position now last hlast =>
    have hstopped : PlaybackState.ofName? PlaybackState.stopped.name = some .stopped := by decide
    exact hgoesOn (Option.some.inj (hstate.symm.trans hstopped))

/-- What is stopped is the session itself, maybe after its last report. -/
theorem Ends.id_eq {w : Watch τ} {live last : Session} {move : Move τ} {stoppedAt : Timestamp}
    {forced : Datum} (h : w.Ends live move last stoppedAt forced) : last.id = live.id := by
  cases h with
  | stop | sweep => rfl
  | report position now last hlast => exact (Session.advance_eq_ok hlast).1

/-- What a move without a fault does to the active sessions. -/
inductive Effect (w : Watch τ) : Move τ → Option Deed → Monitor τ → Prop
  /-- A session is registered. -/
  | registered (session : Session) (user : User) (now : Timestamp) (admitted : Session)
      (m' : Monitor τ) (hadmitted : w.monitor.admitted session now.assumeUniversal = .ok admitted)
      (hactive : m'.active = w.monitor.active.set session.id admitted) :
      Effect w (.start session user now) (some (.registered admitted)) m'
  /-- A report is noted. -/
  | reported (move : Move τ) (live updated : Session) (report : StateReport) (m' : Monitor τ)
      (hlive : w.monitor.active.get? live.id = some live)
      (hreport : move.reportTo live.id = some report)
      (hupdated : live.advance report.state report.time report.position = .ok updated)
      (hactive : m'.active = w.monitor.active.set live.id updated) :
      Effect w move none m'
  /-- A session ends. -/
  | ended (move : Move τ) (live last : Session) (stoppedAt : Timestamp) (forced : Datum)
      (result : StopResult) (m' : Monitor τ)
      (hlive : w.monitor.active.get? live.id = some live)
      (hends : w.Ends live move last stoppedAt forced)
      (hresult : last.stop stoppedAt (w.monitor.stopMode last forced) = .ok result)
      (hactive : m'.active = w.monitor.active.erase live.id) :
      Effect w move (some (.ended result.session)) m'
  /-- Nothing happens: no session is started, and if something is reported it is to an id of
      which no session is active. -/
  | nothing (move : Move τ) (m' : Monitor τ) (hstarts : ∀ id, ¬ move.Starts id)
      (hreport : ∀ id, (move.reportTo id).isSome → w.monitor.active.get? id = none)
      (hactive : m'.active = w.monitor.active) :
      Effect w move none m'

/-- What a move without a fault makes of the snapshot of one id, if there is one. -/
inductive SnapshotStep (w : Watch τ) (id : String) (move : Move τ) (deed : Option Deed) :
    Option Session → Option Session → Prop
  /-- The session is started, whether it was active before or not. -/
  | started (session : Session) (user : User) (now : Timestamp) (admitted : Session)
      (before : Option Session) (hmove : move = .start session user now) (hid : session.id = id)
      (hadmitted : w.monitor.admitted session now.assumeUniversal = .ok admitted) :
      SnapshotStep w id move deed before (some admitted)
  /-- The session goes on, after what the move reports to it, if that is anything. -/
  | goesOn (live next : Session) (hstarts : ¬ move.Starts id)
      (hnext : live.afterReports (move.reportTo id).toList = .ok next) :
      SnapshotStep w id move deed (some live) (some next)
  | ended (live stopped : Session) (hdeed : deed = some (.ended stopped)) (hid : stopped.id = id) :
      SnapshotStep w id move deed (some live) none
  | inactive : SnapshotStep w id move deed none none

/-- A snapshot that a move does not concern stays as it is, if there is one. -/
theorem SnapshotStep.of_eq {w : Watch τ} {id : String} {move : Move τ} {deed : Option Deed}
    {before after : Option Session} (hsame : after = before) (hstarts : ¬ move.Starts id)
    (hreport : before.isSome → move.reportTo id = none) :
    w.SnapshotStep id move deed before after := by
  subst hsame
  cases after with
  | none => exact .inactive
  | some live =>
    refine .goesOn live live hstarts ?_
    rw [hreport rfl]
    rfl

/-- An effect makes of each snapshot what concerns its session. -/
theorem Effect.snapshotStep {w : Watch τ} {move : Move τ} {deed : Option Deed} {m' : Monitor τ}
    (h : w.Effect move deed m') (id : String) :
    w.SnapshotStep id move deed (w.monitor.active.get? id) (m'.active.get? id) := by
  cases h with
  | registered session user now admitted m' hadmitted hactive =>
    rw [hactive]
    by_cases hid : id = session.id
    · rw [hid, Table.get?_set_self]
      exact .started session user now admitted _ rfl rfl hadmitted
    · rw [Table.get?_set_of_ne _ _ hid]
      exact .of_eq rfl (fun hstarts => hid hstarts.symm) fun _ => rfl
  | reported move live updated report m' hlive hreport hupdated hactive =>
    obtain ⟨stateName, now, rfl, _⟩ := Move.reportTo_eq_some hreport
    rw [hactive]
    by_cases hid : id = live.id
    · rw [hid, hlive, Table.get?_set_self]
      refine .goesOn live updated not_false ?_
      rw [hreport, Option.toList_some, Session.afterReports_singleton, hupdated]
    · rw [Table.get?_set_of_ne _ _ hid]
      exact .of_eq rfl not_false fun _ => Move.reportTo_of_ne hreport hid
  | ended move live last stoppedAt forced result m' hlive hends hresult hactive =>
    rw [hactive]
    by_cases hid : id = live.id
    · rw [hid, hlive, Table.get?_erase_self]
      exact .ended live result.session rfl ((Session.stop_facts hresult).1.trans hends.id_eq)
    · obtain ⟨hstarts, hreport⟩ := hends.concerns_nobody id
      rw [Table.get?_erase_of_ne _ hid]
      exact .of_eq rfl hstarts fun _ => hreport
  | nothing move m' hstarts hreport hactive =>
    rw [hactive]
    refine .of_eq rfl (hstarts id) fun hsome => ?_
    by_contra hreported
    rw [hreport id (Option.isSome_iff_ne_none.mpr hreported)] at hsome
    cases hsome

/-- A move that neither starts nor reports anything leaves the active sessions alone. -/
theorem Effect.of_silent {w : Watch τ} {move : Move τ} {m' : Monitor τ}
    (hstarts : ∀ id, ¬ move.Starts id) (hreport : ∀ id, move.reportTo id = none)
    (hactive : m'.active = w.monitor.active) : w.Effect move none m' := by
  refine .nothing move m' hstarts (fun id hreported => ?_) hactive
  rw [hreport id] at hreported
  cases hreported

/-- An end that has a result is the effect of a move that ends the session. -/
theorem effect_of_finish {w : Watch τ} {move : Move τ} {live last : Session}
    {stoppedAt : Moment} {forced : Datum} {result : StopResult}
    (hlive : w.monitor.active.get? live.id = some live) (hid : last.id = live.id)
    (hends : w.Ends live move last stoppedAt forced)
    (h : (w.monitor.finish last stoppedAt forced).result = .ok result) :
    w.Effect move (some (.ended result.session))
      (w.monitor.finish last stoppedAt forced).monitor := by
  obtain ⟨hstop, hmonitor⟩ := Monitor.finish_eq_ok h
  refine .ended move live last stoppedAt forced result _ hlive hends hstop ?_
  rw [hmonitor, ← hid]
  rfl

/-- What a report without a fault does. -/
theorem effect_of_update {w : Watch τ} {l : Ledger} (h : Accounted w.monitor l) {id : Datum}
    {stateName : String} {position : Datum} {now : Timestamp} {result : Option Session}
    (hresult : (w.monitor.update id stateName position now).result = .ok result) :
    w.Effect (.report id stateName position now) (Deed.ofReport result)
      (w.monitor.update id stateName position now).monitor := by
  obtain ⟨rfl, hmonitor, hnobody⟩ |
      ⟨name, live, state, reported, rfl, hlive, hstate, rfl, hreported, hmonitor⟩ :=
    Monitor.update_cases hresult
  · -- Nobody has heard the report, so the session that it names is not an active one.
    refine .nothing _ _ (fun _ => not_false) (fun name hname => ?_) (by rw [hmonitor])
    obtain ⟨report, hreport⟩ := Option.isSome_iff_exists.mp hname
    obtain ⟨_, _, hmove, hstate, _⟩ := Move.reportTo_eq_some hreport
    obtain ⟨rfl, rfl, _⟩ := Move.report.inj hmove
    rw [← h.find?_eq]
    exact hnobody name report.state rfl hstate
  · obtain ⟨rfl, hfound⟩ := h.get?_of_find? hlive
    obtain ⟨updated, hupdated, ⟨hgoesOn, rfl, hreport⟩ | ⟨rfl, stopped, rfl, hstopped, hreport⟩⟩ :=
      Monitor.report_cases hreported
    · obtain ⟨_, _, hreported⟩ := Session.advance_eq_ok hupdated
      rw [Deed.ofReport_of_ne (hreported ▸ hgoesOn), hmonitor, hreport]
      refine .reported _ live reported ⟨state, now.assumeUniversal, position⟩ _ hfound ?_ hupdated
        rfl
      rw [Move.reportTo, if_pos rfl, hstate, Option.filter_some, if_pos (decide_eq_true hgoesOn),
        Option.map_some]
    · obtain ⟨hid, _⟩ := Session.advance_eq_ok hupdated
      obtain ⟨_, _, hended⟩ := Session.stop_facts (Monitor.finish_eq_ok hstopped).1
      rw [Deed.ofReport_of_stopped hended, hmonitor, hreport,
        ← PlaybackState.name_of_ofName? hstate]
      exact effect_of_finish hfound hid (.report position now updated hupdated) hstopped

/-- What a stop without a fault does. -/
theorem effect_of_stopSession {w : Watch τ} {l : Ledger} (h : Accounted w.monitor l) {id : Datum}
    {stoppedAt : Timestamp} {forced : Datum} {result : Option StopResult}
    (hresult : (w.monitor.stopSession id stoppedAt forced).result = .ok result) :
    w.Effect (.stop id stoppedAt forced) (Deed.ofStop result)
      (w.monitor.stopSession id stoppedAt forced).monitor := by
  obtain ⟨rfl, hmonitor⟩ | ⟨name, live, stopped, rfl, hlive, rfl, hstopped, hmonitor⟩ :=
    Monitor.stopSession_cases hresult
  · exact .of_silent (fun _ => not_false) (fun _ => rfl) (by rw [hmonitor])
  · obtain ⟨rfl, hfound⟩ := h.get?_of_find? hlive
    rw [hmonitor]
    exact effect_of_finish hfound rfl (.stop stoppedAt forced) hstopped

/-- What a sweep does that looks at one session without a fault. -/
theorem effect_of_sweepOne {w : Watch τ} {l : Ledger} (h : Accounted w.monitor l) {slot : Nat}
    {now : Moment} {id : String} {rest : List String} {result : Option StopResult}
    (hslot : w.sweeps[slot]? = some ⟨now, id :: rest⟩)
    (hresult : (w.monitor.sweepOne id now).result = .ok result) :
    w.Effect (.sweepOn slot) (Deed.ofStop result) (w.monitor.sweepOne id now).monitor := by
  obtain ⟨rfl, hmonitor⟩ | ⟨live, stopped, hlive, hstale, rfl, hstopped, hmonitor⟩ :=
    Monitor.sweepOne_cases hresult
  · exact .of_silent (fun _ => not_false) (fun _ => rfl) (by rw [hmonitor])
  · obtain ⟨rfl, hfound⟩ := h.get?_of_find? hlive
    rw [hmonitor]
    exact effect_of_finish hfound rfl (.sweep slot now rest hslot hstale) hstopped

section
variable [Sub τ] [LE τ] [DecidableLE τ]

/-- **Every move has one of the effects**, unless it has a fault. -/
theorem effect_of_deed (registry : Registry) {w : Watch τ} {l : Ledger}
    (h : Accounted w.monitor l) {move : Move τ} {deed : Option Deed}
    (hdeed : w.deed move = .ok deed) : w.Effect move deed (w.after registry move).monitor := by
  cases move with
  | start session user now =>
    obtain ⟨context, hresult, rfl⟩ := eq_ok_of_map hdeed
    obtain ⟨hadmitted, hmonitor⟩ := Monitor.register_cases hresult
    rw [after_start_monitor, hmonitor]
    exact .registered session user now context.session _ hadmitted rfl
  | report id stateName position now =>
    obtain ⟨result, hresult, rfl⟩ := eq_ok_of_map hdeed
    exact effect_of_update h hresult
  | stop id stoppedAt forced =>
    obtain ⟨result, hresult, rfl⟩ := eq_ok_of_map hdeed
    exact effect_of_stopSession h hresult
  | sweepOn slot =>
    simp only [Watch.deed, Watch.after] at hdeed ⊢
    cases hslot : w.sweeps[slot]? with
    | none =>
      simp only [hslot] at hdeed
      cases hdeed
      exact .of_silent (fun _ => not_false) (fun _ => rfl) rfl
    | some sweep =>
      obtain ⟨now, left⟩ := sweep
      cases left with
      | nil =>
        simp only [hslot] at hdeed
        obtain ⟨_, _, rfl⟩ := eq_ok_of_map hdeed
        refine .of_silent (fun _ => not_false) (fun _ => rfl) ?_
        simp only [Watch.sweepOn, Monitor.prune]
        split <;> rfl
      | cons id rest =>
        simp only [hslot] at hdeed
        obtain ⟨result, hresult, rfl⟩ := eq_ok_of_map hdeed
        exact effect_of_sweepOne h hslot hresult
  | evaluated | flush | received | refused | interrupted | sweep | setRules | failure =>
    cases hdeed
    exact .of_silent (fun _ => not_false) (fun _ => rfl) (after_sameSessions registry w rfl).active

/-! ### Runs -/

/-- Is a snapshot what the last start of its session and the reports since then have made of
    it?  The run started the session as the monitor of that time registers it, and since then
    it has not started it again, and has reported to it what leads to the snapshot. -/
def Follows (registry : Registry) (w : Watch τ) (moves : List (Move τ)) (id : String)
    (snapshot : Session) : Prop :=
  ∃ before session user now since started,
    moves = before ++ .start session user now :: since ∧ session.id = id ∧
    (∀ move ∈ since, ¬ move.Starts id) ∧
    (w.run registry before).monitor.Admits session now.assumeUniversal started ∧
    started.afterReports (since.filterMap (Move.reportTo id)) = .ok snapshot

namespace Follows

variable {registry : Registry} {w : Watch τ} {moves : List (Move τ)} {id : String}
  {snapshot : Session}

/-- A session that has just been started is what was registered. -/
theorem started {session registered : Session} {user : User} {now : Timestamp}
    (h : (w.run registry moves).monitor.Admits session now.assumeUniversal registered) :
    w.Follows registry (moves ++ [.start session user now]) session.id registered := by
  refine ⟨moves, session, user, now, [], registered, rfl, rfl, ?_, h, rfl⟩
  exact fun move hmove => absurd hmove List.not_mem_nil

/-- A snapshot after one more move that does not start the session. -/
theorem concat (h : w.Follows registry moves id snapshot) {move : Move τ}
    (hstarts : ¬ move.Starts id) {next : Session}
    (hnext : snapshot.afterReports (move.reportTo id).toList = .ok next) :
    w.Follows registry (moves ++ [move]) id next := by
  obtain ⟨before, session, user, now, since, registered, rfl, hid, hsince, hadmits, hreports⟩ := h
  refine ⟨before, session, user, now, since ++ [move], registered, ?_, hid, ?_, hadmits, ?_⟩
  · rw [List.append_assoc, List.cons_append]
  · intro other hother
    obtain hother | hother := List.mem_append.mp hother
    · exact hsince other hother
    · obtain rfl := List.mem_singleton.mp hother
      exact hstarts
  · have hreport : [move].filterMap (Move.reportTo id) = (move.reportTo id).toList := by
      cases hmove : move.reportTo id with
      | none => rw [List.filterMap_cons_none hmove]; rfl
      | some report => rw [List.filterMap_cons_some hmove]; rfl
    rw [List.filterMap_append, hreport, Session.afterReports_append hreports, hnext]

end Follows

/-- **An active session is what was reported of it.**  It follows the reports since its last
    start, whatever else has happened. -/
theorem follows_run (registry : Registry) {w : Watch τ} {l : Ledger}
    (haccounted : Accounted w.monitor l) (hnobody : ∀ id, w.monitor.active.get? id = none)
    {moves : List (Move τ)} {told : List (Option Deed)} (htold : w.deeds registry moves = .ok told)
    {id : String} {live : Session}
    (hlive : (w.run registry moves).monitor.active.get? id = some live) :
    w.Follows registry moves id live := by
  -- From the end of the run: what the last move does to the snapshot depends on all before it.
  induction moves using List.reverseRecOn generalizing told id live with
  | nil =>
    rw [Watch.run, hnobody] at hlive
    cases hlive
  | append_singleton moves move ih =>
    obtain ⟨earlier, deed, hearlier, hdeed, _⟩ := deeds_concat_eq_ok htold
    have heffect := effect_of_deed registry (accounted_run registry haccounted hearlier) hdeed
    rw [run_append, Watch.run, Watch.run] at hlive
    have hstep := heffect.snapshotStep id
    rw [hlive] at hstep
    generalize hbefore : (w.run registry moves).monitor.active.get? id = before at hstep
    cases hstep with
    | started session user now admitted before hmove hid hadmitted =>
      subst hmove hid
      exact .started (Monitor.admits_of_admitted hadmitted)
    | goesOn previous next hstarts hnext => exact (ih hearlier hbefore).concat hstarts hnext

/-- A move changes a history only by dropping sessions from its front, or by putting one at its
    end: the stop of an active session that the move ends. -/
theorem after_historyOf (registry : Registry) {w : Watch τ} {l : Ledger}
    (h : Accounted w.monitor l) {move : Move τ} {deed : Option Deed}
    (hdeed : w.deed move = .ok deed) (userId : String) :
    (w.after registry move).monitor.historyOf userId <:+ w.monitor.historyOf userId ∨
    ∃ live last stoppedAt forced result, w.monitor.active.get? live.id = some live ∧
      w.Ends live move last stoppedAt forced ∧
      last.stop stoppedAt (w.monitor.stopMode last forced) = .ok result ∧
      (w.after registry move).monitor.historyOf userId =
        w.monitor.historyOf userId ++ [result.session] := by
  have hstep := step_of_deed registry w hdeed
  -- A session is put into a history only by an end, and the result of the move tells of it.
  by_cases hended : ∃ stopped, deed = some (.ended stopped)
  · obtain ⟨stopped, rfl⟩ := hended
    rw [hstep.historyOf_ended]
    split
    · cases effect_of_deed registry h hdeed with
      | ended move live last stoppedAt forced result m' hlive hends hresult hactive =>
        exact .inr ⟨live, last, stoppedAt, forced, result, hlive, hends, hresult, rfl⟩
    · rw [List.append_nil]
      exact .inl (List.suffix_refl _)
  · exact .inl (hstep.historyOf_suffix (fun stopped heq => hended ⟨stopped, heq⟩) h.filed userId)

/-- A move that does not concern a session leaves its snapshot alone. -/
theorem after_active_of_unconcerned (registry : Registry) {w : Watch τ} {l : Ledger}
    (h : Accounted w.monitor l) {move : Move τ} {deed : Option Deed}
    (hdeed : w.deed move = .ok deed) {id : String} (hstarts : ¬ move.Starts id)
    (hreport : (w.monitor.active.get? id).isSome → move.reportTo id = none)
    (hended : ∀ stopped, deed = some (.ended stopped) → stopped.id ≠ id) :
    (w.after registry move).monitor.active.get? id = w.monitor.active.get? id := by
  have hstep := (effect_of_deed registry h hdeed).snapshotStep id
  generalize w.monitor.active.get? id = before at hreport hstep ⊢
  generalize (w.after registry move).monitor.active.get? id = after at hstep ⊢
  cases hstep with
  | started session user now admitted before hmove hid hadmitted =>
    subst hmove
    exact absurd hid hstarts
  | goesOn live next _ hnext =>
    rw [hreport rfl] at hnext
    exact congrArg some (Except.ok.inj hnext).symm
  | ended live stopped hdeed hid => exact absurd hid (hended stopped hdeed)
  | inactive => rfl

/-- **Every session is watched as if it were alone.**  A monitor is used in any way in which no
    call has a fault: starts, reports, stops, sweeps and the rest take turns in any order.  Then

    * an active session is what its last start has registered and the reports since then, to it
      and of a state it can go on with, have made of it, in their order;
    * a move changes a history only by dropping sessions from its front, or by putting one
      session at its end: the stop, with the limits and thresholds of the settings, of an active
      session that the move ends;
    * a move that neither starts the session of an id, nor reports to it while it is active, nor
      ends it leaves its snapshot alone. -/
theorem sessions_follow_reports (registry : Registry) (server : Server) (config : MonitorConfig)
    (rules : List Rule) (hasReceiver : Bool) (cooldown : τ) (moves : List (Move τ))
    {told : List (Option Deed)}
    (h : (fresh (.fresh server config rules hasReceiver cooldown)).deeds registry moves =
      .ok told) :
    let start := fresh (.fresh server config rules hasReceiver cooldown)
    let w := start.run registry moves
    (∀ id live, w.monitor.active.get? id = some live → start.Follows registry moves id live) ∧
    (∀ move deed userId, w.deed move = .ok deed →
      (w.after registry move).monitor.historyOf userId <:+ w.monitor.historyOf userId ∨
      ∃ live last stoppedAt forced result, start.Follows registry moves live.id live ∧
        w.Ends live move last stoppedAt forced ∧
        last.stop stoppedAt
          { forceStopped := forced
            preserveWatched := false
            limits := config.limits
            watchThreshold := (Table.get? (last.mediaType.getD "") config.watchThresholds).map
              Datum.real } = .ok result ∧
        (w.after registry move).monitor.historyOf userId =
          w.monitor.historyOf userId ++ [result.session]) ∧
    ∀ move deed id, w.deed move = .ok deed → ¬ move.Starts id →
      ((w.monitor.active.get? id).isSome → move.reportTo id = none) →
      (∀ stopped, deed = some (.ended stopped) → stopped.id ≠ id) →
      (w.after registry move).monitor.active.get? id = w.monitor.active.get? id := by
  intro start w
  have hfresh : Accounted start.monitor .blank :=
    Accounted.fresh server config rules hasReceiver cooldown
  have haccounted := accounted_run registry hfresh h
  have hfollows : ∀ id live, w.monitor.active.get? id = some live →
      start.Follows registry moves id live :=
    fun id live => follows_run registry hfresh (fun _ => rfl) h
  refine ⟨hfollows, fun move deed userId hdeed => ?_,
    fun move deed id hdeed hstarts hreport hended =>
      after_active_of_unconcerned registry haccounted hdeed hstarts hreport hended⟩
  obtain hkept | ⟨live, last, stoppedAt, forced, result, hlive, hends, hstop, hhistory⟩ :=
    after_historyOf registry haccounted hdeed userId
  · exact .inl hkept
  · rw [Monitor.stopMode, run_config] at hstop
    exact .inr ⟨live, last, stoppedAt, forced, result, hfollows live.id live hlive, hends, hstop,
      hhistory⟩

/-- A film starts and is paused for half a minute.  Meanwhile another session starts, is
    reported on and ends, a state is reported that there is not, and a sweep finds nothing
    stale. -/
def afternoon : List (Move Nat) :=
  let clock second : Moment := .universal (2 * Duration.day + second * Duration.second)
  let start id userId second : Move Nat :=
    .start (Session.starting id userId "server" (clock second)) ⟨userId, none, 50, clock 0, none⟩
      (clock second)
  [start "film" "ann" 0, start "song" "bob" 1,
    .report (.text "film") "paused" (.int 60000) (clock 10), .evaluated 0,
    .report (.text "song") "buffering" .null (clock 20),
    .report (.text "film") "rewinding" .null (clock 30), .sweep (clock 200), .sweepOn 0,
    .stop (.text "song") (clock 35) (.bool false),
    .report (.text "film") "playing" .null (clock 40), .sweepOn 0, .sweepOn 0]

/-- The film of that afternoon is what its two reports have made of it. -/
theorem sessions_follow_reports_afternoon :
    ∃ told live, (fresh home).deeds .standard afternoon = .ok told ∧
      ((fresh home).run .standard afternoon).monitor.active.get? "film" = some live ∧
      live.pausedDuration = 30000 ∧ (fresh home).Follows .standard afternoon "film" live := by
  obtain ⟨told, htold⟩ : ∃ told, (fresh home).deeds .standard afternoon = .ok told := ⟨_, rfl⟩
  obtain ⟨live, hlive⟩ : ∃ live,
      ((fresh home).run .standard afternoon).monitor.active.get? "film" = some live := ⟨_, rfl⟩
  have hpaused : (((fresh home).run .standard afternoon).monitor.active.get? "film").map
      Session.pausedDuration = some 30000 := by decide +kernel
  rw [hlive] at hpaused
  have hfollows := sessions_follow_reports .standard ⟨"server", "Home", none⟩ .standard [] true 60
    afternoon htold
  exact ⟨told, live, htold, hlive, Option.some.inj hpaused, hfollows.1 "film" live hlive⟩

end

end Watch

end StreamWatch
