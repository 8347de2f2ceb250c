import StreamWatch.Proofs.Watch.Records

namespace StreamWatch

/-!
# Which chain a session joins that starts

A session that names no chain joins that of an earlier session of its user that played the same
item, if it resumes it.  Of several the monitor takes the one that stands last in the history.
That is the one which ended last, and not always the one which stopped latest: a session may end
with a time that is past.

* `Monitor.plays` — the sessions of a user in the history that played an item, all of which have
  a stop (`Watch.filed_run`);
* `Monitor.chainOfStart_eq` — the chain of a session that starts, in any state;
* `Monitor.JoinsLatest` — that chain is what the latest of these sessions gives;
* `Monitor.joinsLatest_of_last_latest`, `Monitor.not_joinsLatest` — it is if the last of the
  stops is the latest, and otherwise it need not be;
* `Watch.exists_plays` — every list of stops is that of the plays after some run.
-/

/-! ### The chain of a session that starts -/

/-- Has a session stopped, and none of some sessions at a later instant? -/
def Session.IsLatestOf (s : Session) (sessions : List Session) : Prop :=
  ∃ t, s.stoppedAt = some t ∧
    ∀ other ∈ sessions, ∀ u, other.stoppedAt = some u → u.instant ≤ t.instant

namespace Monitor

variable {τ : Type}

/-- The sessions of a user in the history that played an item. -/
def plays (m : Monitor τ) (userId item : String) : List Session :=
  (m.historyOf userId).filter fun s => s.ratingKey == some item

/-- The chain that a session is in once it is registered. -/
def chainOfStart (m : Monitor τ) (session : Session) (user : User) (now : Timestamp) :
    Except Fault (Option String) :=
  (m.register session user now).result.map fun context => context.session.referenceId

/-- The chain that a session joins if it resumes an earlier one. -/
def chainAfter (m : Monitor τ) (earlier session : Session) (now : Timestamp) :
    Except Fault (Option String) :=
  earlier.resumeLink (session.progress.orElse (.int 0)) none now.assumeUniversal m.config.limits

/-- Is a session that starts put into the chain that the latest play of an item gives, and into
    none if there is no play of it? -/
def JoinsLatest (m : Monitor τ) (session : Session) (user : User) (now : Timestamp)
    (item : String) : Prop :=
  (m.plays session.userId item = [] → m.chainOfStart session user now = .ok none) ∧
  (m.plays session.userId item ≠ [] → ∃ latest ∈ m.plays session.userId item,
    latest.IsLatestOf (m.plays session.userId item) ∧
    m.chainOfStart session user now = m.chainAfter latest session now)

/-- **The chain of a session that starts** and names none is what the last play of its item
    gives, and none if there is no play of it. -/
theorem chainOfStart_eq (m : Monitor τ) {session : Session} {item : String}
    (hreference : session.referenceId = none) (hitem : session.ratingKey = some item) (user : User)
    (now : Timestamp) : m.chainOfStart session user now =
      match (m.plays session.userId item).getLast? with
      | none => .ok none
      | some last => m.chainAfter last session now := by
  have hlink : m.resumeLink session now.assumeUniversal =
      match (m.plays session.userId item).getLast? with
      | none => .ok none
      | some last => m.chainAfter last session now := by
    unfold Monitor.resumeLink
    simp only [hitem, plays, List.getLast?_filter]
    rfl
  unfold chainOfStart register admitted
  simp only [hreference]
  rw [← hlink]
  cases m.resumeLink session now.assumeUniversal with
  | error fault => rfl
  | ok link => rfl

/-- A session that starts joins the chain of the latest play exactly if the last play gives the
    same chain as the latest one. -/
theorem joinsLatest_iff (m : Monitor τ) {session : Session} {item : String}
    (hreference : session.referenceId = none) (hitem : session.ratingKey = some item) (user : User)
    (now : Timestamp) : m.JoinsLatest session user now item ↔
      ∀ last ∈ (m.plays session.userId item).getLast?, ∃ latest ∈ m.plays session.userId item,
        latest.IsLatestOf (m.plays session.userId item) ∧
        m.chainAfter last session now = m.chainAfter latest session now := by
  have hchain := m.chainOfStart_eq hreference hitem user now
  unfold JoinsLatest
  cases hlast : (m.plays session.userId item).getLast? with
  | none =>
    rw [hlast] at hchain
    have hnil := List.getLast?_eq_none_iff.mp hlast
    exact iff_of_true ⟨fun _ => hchain, fun hsome => absurd hnil hsome⟩ fun last => nofun
  | some last =>
    rw [hlast] at hchain
    have hsome : m.plays session.userId item ≠ [] := List.ne_nil_of_mem (List.mem_of_getLast? hlast)
    simp only [hchain, Option.mem_def, Option.some.injEq, forall_eq']
    exact ⟨fun hjoins => hjoins.2 hsome,
      fun hjoins => ⟨fun hnil => absurd hnil hsome, fun _ => hjoins⟩⟩

/-! ### The stops of the plays of an item -/

section
variable {m : Monitor τ} {userId item : String} {stops : List Int}

/-- The instants of the stops of the sessions of a user in the history that played an item. -/
def stopsOf (m : Monitor τ) (userId item : String) : List (Option Int) :=
  (m.plays userId item).map fun s => s.stoppedAt.map fun t => t.instant

/-- Every play has one of the stops. -/
theorem stop_of_play (h : m.stopsOf userId item = stops.map some) {s : Session}
    (hs : s ∈ m.plays userId item) : ∃ t, s.stoppedAt = some t ∧ t.instant ∈ stops := by
  have hstop : (s.stoppedAt.map fun t => t.instant) ∈ stops.map some :=
    h ▸ List.mem_map_of_mem hs
  obtain ⟨stop, hmem, hstop⟩ := List.mem_map.mp hstop
  obtain ⟨t, ht, rfl⟩ := Option.map_eq_some_iff.mp hstop.symm
  exact ⟨t, ht, hmem⟩

/-- The last play has the last of the stops. -/
theorem stop_of_last (h : m.stopsOf userId item = stops.map some) {last : Session}
    (hlast : (m.plays userId item).getLast? = some last) :
    ∃ t, last.stoppedAt = some t ∧ stops.getLast? = some t.instant := by
  have hstops := congrArg List.getLast? h
  rw [stopsOf, List.getLast?_map, hlast, List.getLast?_map, Option.map_some] at hstops
  obtain ⟨stop, hstop, hsome⟩ := Option.map_eq_some_iff.mp hstops.symm
  obtain ⟨t, ht, rfl⟩ := Option.map_eq_some_iff.mp hsome.symm
  exact ⟨t, ht, hstop⟩

/-- A play is the latest exactly if its stop is. -/
theorem isLatestOf_iff (h : m.stopsOf userId item = stops.map some) {s : Session} {t : Moment}
    (ht : s.stoppedAt = some t) :
    s.IsLatestOf (m.plays userId item) ↔ ∀ stop ∈ stops, stop ≤ t.instant := by
  constructor
  · rintro ⟨t', ht', hmost⟩ stop hstop
    obtain rfl := Option.some.inj (ht.symm.trans ht')
    have hplay : some stop ∈ m.stopsOf userId item := h ▸ List.mem_map_of_mem hstop
    obtain ⟨other, hother, hstopped⟩ := List.mem_map.mp hplay
    obtain ⟨u, hu, rfl⟩ := Option.map_eq_some_iff.mp hstopped
    exact hmost other hother u hu
  · intro hmost
    refine ⟨t, ht, fun other hother u hu => ?_⟩
    obtain ⟨u', hu', hmem⟩ := stop_of_play h hother
    obtain rfl := Option.some.inj (hu.symm.trans hu')
    exact hmost _ hmem

/-- A session that starts joins the chain of the latest play if the last of the stops is the
    latest of them. -/
theorem joinsLatest_of_last_latest (h : m.stopsOf userId item = stops.map some)
    (hmost : ∀ last ∈ stops.getLast?, ∀ stop ∈ stops, stop ≤ last) {session : Session}
    (hreference : session.referenceId = none) (hitem : session.ratingKey = some item)
    (howner : session.userId = userId) (user : User) (now : Timestamp) :
    m.JoinsLatest session user now item := by
  subst howner
  refine (m.joinsLatest_iff hreference hitem user now).mpr fun last hlast => ?_
  obtain ⟨t, ht, hstop⟩ := stop_of_last h hlast
  exact ⟨last, List.mem_of_getLast? hlast, (isLatestOf_iff h ht).mpr (hmost _ hstop), rfl⟩

end

end Monitor

/-! ### Runs with given stops -/

/-- Settings with which a session is resumed only at the instant of its stop. -/
def MonitorConfig.prompt : MonitorConfig :=
  { standard with limits := { SessionLimits.standard with
      continuedSessionThreshold := 0
      maxGroupGapHours := 0 } }

/-- A session of the film that names its chain and starts at an instant. -/
def Session.screening (instant : Int) : Session :=
  { starting "screening" "ann" "server" (.universal instant) with
    ratingKey := some "film"
    referenceId := some "chain" }

/-- A session of the film that names no chain and starts at an instant. -/
def Session.restart (instant : Int) : Session :=
  { starting "restart" "ann" "server" (.universal instant) with ratingKey := some "film" }

/-- Is this a session of the film that was stopped at an instant? -/
structure Session.IsScreening (s : Session) (instant : Int) : Prop where
  item : s.ratingKey = some "film"
  chain : s.referenceId = some "chain"
  progress : s.progress = .null
  unwatched : s.watched = false
  stopped : s.stoppedAt = some (.universal instant)

/-- A session of the film starts, and is stopped at the same instant. -/
def Move.screening {τ : Type} (instant : Int) : List (Move τ) :=
  [.start (.screening instant) Watch.ann ⟨instant, some 0⟩,
    .stop (.text "screening") ⟨instant, some 0⟩ (.bool false)]

/-- A session of the film goes on at the instant of its stop. -/
theorem Session.IsScreening.continuedAt_self {s : Session} {instant : Int}
    (hs : s.IsScreening instant) (stop : Moment) :
    s.continuedAt stop (.int 0) (.int 0) stop = .ok true := by
  have hpassed : stop.millisecondsSince stop = 0 := by
    unfold Moment.millisecondsSince Moment.since
    rw [Int.sub_self]
    rfl
  have hgreater : (Datum.int 0).stands .greater (.int 0) = .ok false := by decide +kernel
  have hless : (Datum.int 0).stands .less (.int 0) = .ok false := by decide +kernel
  rw [Session.continuedAt_eq, hpassed, hgreater, hs.unwatched, hs.progress]
  simp only [bind, Except.bind, Bool.false_eq_true, if_false]
  rw [show Datum.null.orElse (.int 0) = .int 0 from rfl, hless]
  rfl

/-- With these settings a session of the film is resumed at the instant of its stop, and not
    later. -/
theorem Monitor.chainAfter_screening {τ : Type} {m : Monitor τ} (hconfig : m.config = .prompt)
    {s : Session} {stop now : Int} (hs : s.IsScreening stop) (hle : stop ≤ now)
    (hcalendar : Timestamp.clockInRange now = true) {session : Session}
    (hprogress : session.progress = .null) :
    m.chainAfter s session ⟨now, some 0⟩ = .ok (if stop = now then some "chain" else none) := by
  have hgap : Duration.ofHours m.config.limits.maxGroupGapHours = .ok 0 := by rw [hconfig]; rfl
  have hthreshold : m.config.limits.continuedSessionThreshold = 0 := by rw [hconfig]; rfl
  have hearliest : Moment.shift (.universal now) (-0) = .ok (.universal now) := by
    unfold Moment.shift
    rw [Int.neg_zero, Int.add_zero, Moment.localClock_universal, if_pos hcalendar, Int.add_zero]
  have hposition : session.progress.orElse (.int 0) = .int 0 := by rw [hprogress]; rfl
  have hroot : s.chainRoot = "chain" := by unfold Session.chainRoot; rw [hs.chain]; rfl
  have hmoment : Timestamp.assumeUniversal ⟨now, some 0⟩ = .universal now := rfl
  unfold chainAfter
  rw [Session.resumeLink_eq]
  simp only [hs.stopped, hgap, hthreshold, hposition, bind, Except.bind, hmoment, Option.getD_none,
    Moment.assumeUniversal_toTimestamp, hearliest, Moment.isBefore_universal, decide_eq_true_eq]
  by_cases hnow : stop = now
  · subst hnow
    rw [if_neg (Int.lt_irrefl stop), if_pos rfl, hs.continuedAt_self, hroot]
    rfl
  · rw [if_pos (by omega), if_neg hnow]
    rfl

/-- A session that starts at the latest of the stops does not join the chain of the latest play
    if the last of the stops is an earlier one. -/
theorem Monitor.not_joinsLatest {τ : Type} {m : Monitor τ} (hconfig : m.config = .prompt)
    {stops : List Int} (hstops : m.stopsOf "ann" "film" = stops.map some)
    (hscreened : ∀ s ∈ m.plays "ann" "film", ∃ stop, s.IsScreening stop) {last latest : Int}
    (hlast : stops.getLast? = some last) (hlatest : latest ∈ stops)
    (hmost : ∀ stop ∈ stops, stop ≤ latest) (hlt : last < latest)
    (hcalendar : Timestamp.clockInRange latest = true) (user : User) :
    ¬ m.JoinsLatest (.restart latest) user ⟨latest, some 0⟩ "film" := by
  intro hjoins
  have hsome : m.plays "ann" "film" ≠ [] := fun hnil => by
    rw [stopsOf, hnil, List.map_nil, eq_comm, List.map_eq_nil_iff] at hstops
    exact absurd (hstops ▸ hlatest) List.not_mem_nil
  have hfinal := List.getLast?_eq_some_getLast hsome
  obtain ⟨play, hplay, hfirst, hchain⟩ :=
    (m.joinsLatest_iff rfl rfl user _).mp hjoins _ hfinal
  -- The last play was stopped too early.
  obtain ⟨early, hearly⟩ := hscreened _ (List.getLast_mem hsome)
  obtain ⟨t, ht, hstop⟩ := stop_of_last hstops hfinal
  obtain rfl := Option.some.inj (hearly.stopped.symm.trans ht)
  obtain rfl : last = early := Option.some.inj (hlast.symm.trans hstop)
  -- The latest play was stopped in time.
  obtain ⟨stop, hscreening⟩ := hscreened play hplay
  have hle := (isLatestOf_iff hstops hscreening.stopped).mp hfirst latest hlatest
  obtain ⟨u, hu, hmem⟩ := stop_of_play hstops hplay
  obtain rfl := Option.some.inj (hscreening.stopped.symm.trans hu)
  have hsame : stop = latest := Int.le_antisymm (hmost _ hmem) hle
  rw [chainAfter_screening hconfig hearly (Int.le_of_lt hlt) hcalendar rfl,
    chainAfter_screening hconfig hscreening (Int.le_of_eq hsame) hcalendar rfl,
    if_neg (Int.ne_of_lt hlt), if_pos hsame] at hchain
  cases hchain

namespace Watch

variable {τ : Type} [Sub τ] [LE τ] [DecidableLE τ]

/-- Is no session active? -/
def Idle (w : Watch τ) : Prop := w.monitor.active = [] ∧ w.monitor.locks = []

/-- A screening is put into the history of a monitor that has no active session. -/
theorem run_screening (registry : Registry) {w : Watch τ} (hidle : w.Idle) (instant : Int) :
    ∃ s, s.IsScreening instant ∧ s.userId = "ann" ∧
      (w.run registry (Move.screening instant)).monitor = w.monitor.archive s := by
  obtain ⟨⟨server, config, hasReceiver, rules, active, locks, history, pending, breaker⟩,
    evaluations, sweeps, flushes, desk⟩ := w
  obtain ⟨rfl, rfl⟩ := hidle
  exact ⟨_, ⟨rfl, rfl, rfl, rfl, rfl⟩, rfl, rfl⟩

/-- Screenings with given stops are put into the history in their order. -/
theorem run_screenings (registry : Registry) {w : Watch τ} (hidle : w.Idle) (stops : List Int) :
    ∃ screened : List Session, (∀ s ∈ screened, ∃ stop, s.IsScreening stop) ∧
      screened.map (fun s => s.stoppedAt.map fun t => t.instant) = stops.map some ∧
      (w.run registry (stops.flatMap Move.screening)).monitor.historyOf "ann" =
        w.monitor.historyOf "ann" ++ screened := by
  induction stops generalizing w with
  | nil => exact ⟨[], fun s hs => absurd hs List.not_mem_nil, rfl, (List.append_nil _).symm⟩
  | cons stop rest ih =>
    obtain ⟨s, hs, howner, hmonitor⟩ := run_screening registry hidle stop
    -- No session is active any more, and so the other screenings go the same way.
    have hidle' : (w.run registry (Move.screening stop)).Idle := by
      unfold Idle
      rw [hmonitor]
      exact hidle
    obtain ⟨screened, hscreened, hstops, hhistory⟩ := ih hidle'
    refine ⟨s :: screened, ?_, ?_, ?_⟩
    · intro t ht
      obtain rfl | ht := List.mem_cons.mp ht
      · exact ⟨stop, hs⟩
      · exact hscreened t ht
    · rw [List.map_cons, List.map_cons, hstops, hs.stopped]
      rfl
    · rw [List.flatMap_cons, run_append, hhistory, hmonitor, Monitor.historyOf_archive,
        if_pos howner, List.append_assoc, List.singleton_append]

/-- Whatever the stops are, there is a run of a monitor whose plays have them in their order. -/
theorem exists_plays (registry : Registry) (server : Server) (rules : List Rule)
    (hasReceiver : Bool) (cooldown : τ) (stops : List Int) :
    ∃ moves : List (Move τ),
      let m := ((fresh (.fresh server .prompt rules hasReceiver cooldown)).run registry
        moves).monitor
      m.stopsOf "ann" "film" = stops.map some ∧
        ∀ s ∈ m.plays "ann" "film", ∃ stop, s.IsScreening stop := by
  refine ⟨stops.flatMap Move.screening, ?_⟩
  obtain ⟨screened, hscreened, hstops, hhistory⟩ := run_screenings registry
    (w := fresh (.fresh server .prompt rules hasReceiver cooldown)) ⟨rfl, rfl⟩ stops
  have hplays : (((fresh (.fresh server .prompt rules hasReceiver cooldown)).run registry
      (stops.flatMap Move.screening)).monitor.plays "ann" "film") = screened := by
    unfold Monitor.plays
    rw [hhistory]
    refine List.filter_eq_self.mpr fun s hs => ?_
    obtain ⟨stop, hstop⟩ := hscreened s hs
    rw [hstop.item]
    exact beq_self_eq_true _
  simp only [Monitor.stopsOf, hplays]
  exact ⟨hstops, hscreened⟩

/-- **When a session joins the chain of the latest play.**  A monitor is used in any way, with or
    without faults, and then a session starts that names no chain.

    * It joins the chain of the latest play of its item exactly if the last play in the history
      gives the same chain as the latest one.
    * The stops of the plays make sure of that, in every such run and whatever the settings are,
      exactly if the last of them is the latest. -/
theorem joinsLatest_iff_last_latest (registry : Registry) (server : Server) (rules : List Rule)
    (hasReceiver : Bool) (cooldown : τ) {stops : List Int}
    (hcalendar : ∀ stop ∈ stops, Timestamp.clockInRange stop = true) :
    let used (config : MonitorConfig) (moves : List (Move τ)) : Monitor τ :=
      ((fresh (.fresh server config rules hasReceiver cooldown)).run registry moves).monitor
    (∀ config moves (session : Session) user now item,
      session.referenceId = none → session.ratingKey = some item →
      ((used config moves).JoinsLatest session user now item ↔
        let plays := (used config moves).plays session.userId item
        ∀ last ∈ plays.getLast?, ∃ latest ∈ plays, latest.IsLatestOf plays ∧
          (used config moves).chainAfter last session now =
            (used config moves).chainAfter latest session now)) ∧
    ((∀ config moves (session : Session) user now item,
      session.referenceId = none → session.ratingKey = some item →
      (used config moves).stopsOf session.userId item = stops.map some →
      (used config moves).JoinsLatest session user now item) ↔
        ∀ last ∈ stops.getLast?, ∀ stop ∈ stops, stop ≤ last) := by
  intro used
  refine ⟨fun config moves session user now item hreference hitem =>
    (used config moves).joinsLatest_iff hreference hitem user now, ?_, ?_⟩
  · intro hjoins last hlast stop hstop
    obtain ⟨latest, hlatest, hmost⟩ : ∃ latest ∈ stops, ∀ stop ∈ stops, stop ≤ latest :=
      ⟨_, List.max_mem (List.ne_nil_of_mem hstop), fun _ => List.le_max_of_mem⟩
    refine Int.le_trans (hmost stop hstop) (Int.not_lt.mp fun hlt => ?_)
    -- If the last stop is an earlier one, there is a run in which it hides the latest one.
    obtain ⟨moves, hstops, hscreened⟩ :=
      exists_plays registry server rules hasReceiver cooldown stops
    exact Monitor.not_joinsLatest (run_config registry _ moves) hstops hscreened hlast hlatest
      hmost hlt (hcalendar latest hlatest) ann
      (hjoins .prompt moves (.restart latest) ann _ "film" rfl rfl hstops)
  · intro hmost config moves session user now item hreference hitem hstops
    exact Monitor.joinsLatest_of_last_latest hstops hmost hreference hitem rfl user now

/-- So many seconds after the second day of the year 1. -/
def atSecond (seconds : Int) : Moment :=
  .universal (2 * Duration.day + seconds * Duration.second)

/-- A session in which ann plays the film, and which starts after so many seconds. -/
def filmOfAnn (id : String) (seconds : Int) : Session :=
  { Session.starting id "ann" "server" (atSecond seconds) with ratingKey := some "film" }

/-- The film is played, and played again half a minute later. -/
def secondTry : List (Move Nat) :=
  [.start (filmOfAnn "first" 0) ann (atSecond 0),
    .stop (.text "first") (atSecond 300) (.bool false),
    .start (filmOfAnn "second" 330) ann (atSecond 330),
    .stop (.text "second") (atSecond 400) (.bool false)]

/-- The third session joins the chain of the second one, which is that of the first one. -/
theorem joinsLatest_secondTry :
    let m := ((fresh home).run .standard secondTry).monitor
    (∀ stop ∈ [(atSecond 300).instant, (atSecond 400).instant],
      Timestamp.clockInRange stop = true) ∧
    m.stopsOf "ann" "film" = [(atSecond 300).instant, (atSecond 400).instant].map some ∧
    m.JoinsLatest (filmOfAnn "third" 430) ann (atSecond 430) "film" ∧
    m.chainOfStart (filmOfAnn "third" 430) ann (atSecond 430) = .ok (some "first") := by
  intro m
  have hcalendar : ∀ stop ∈ [(atSecond 300).instant, (atSecond 400).instant],
      Timestamp.clockInRange stop = true := by decide
  have hstops : m.stopsOf "ann" "film" =
      [(atSecond 300).instant, (atSecond 400).instant].map some := by decide +kernel
  have hmost : ∀ last ∈ [(atSecond 300).instant, (atSecond 400).instant].getLast?,
      ∀ stop ∈ [(atSecond 300).instant, (atSecond 400).instant], stop ≤ last := by decide
  have hjoins := (joinsLatest_iff_last_latest .standard ⟨"server", "Home", none⟩ [] true 60
    hcalendar).2.mpr hmost .standard secondTry (filmOfAnn "third" 430) ann (atSecond 430) "film" rfl
    rfl hstops
  exact ⟨hcalendar, hstops, hjoins, rfl⟩

/-- The film is played twice at once.  The first session is stopped after a while, and then a
    sweep comes upon the second one, of which nothing was heard since its start. -/
def silentTwin : List (Move Nat) :=
  [.start (filmOfAnn "first" 0) ann (atSecond 0), .start (filmOfAnn "second" 0) ann (atSecond 0),
    .stop (.text "first") (atSecond 330) (.bool false), .sweep (atSecond 331), .sweepOn 0,
    .sweepOn 0]

/-- **A session can be hidden by one that stopped earlier.**  The third session starts ten
    seconds after the stop of the first one, and would resume it.  But it joins no chain, because
    the second one, which stopped at its start, stands behind the first one. -/
theorem not_joinsLatest_silentTwin :
    let m := ((fresh home).run .standard silentTwin).monitor
    m.chainOfStart (filmOfAnn "third" 340) ann (atSecond 340) = .ok none ∧
      ¬ m.JoinsLatest (filmOfAnn "third" 340) ann (atSecond 340) "film" := by
  intro m
  have hnone : m.chainOfStart (filmOfAnn "third" 340) ann (atSecond 340) = .ok none := rfl
  refine ⟨hnone, fun ⟨_, hjoins⟩ => ?_⟩
  obtain ⟨first, second, hplays, hfirst, hsecond, hchain⟩ : ∃ first second,
      m.plays "ann" "film" = [first, second] ∧ first.stoppedAt = some (atSecond 330) ∧
        second.stoppedAt = some (atSecond 0) ∧
        m.chainAfter first (filmOfAnn "third" 340) (atSecond 340) = .ok (some "first") :=
    ⟨_, _, rfl, rfl, rfl, rfl⟩
  have howner : (filmOfAnn "third" 340).userId = "ann" := rfl
  rw [howner, hplays] at hjoins
  obtain ⟨latest, hlatest, ⟨t, ht, hmost⟩, hjoined⟩ := hjoins (List.cons_ne_nil _ _)
  obtain rfl | hlatest := List.mem_cons.mp hlatest
  · rw [hnone, hchain] at hjoined
    cases hjoined
  · obtain rfl := List.mem_singleton.mp hlatest
    obtain rfl := Option.some.inj (hsecond.symm.trans ht)
    exact absurd (hmost first List.mem_cons_self _ hfirst) (by decide)

end Watch

end StreamWatch
