import StreamWatch.Log.Level
import StreamWatch.Log.Line
import StreamWatch.Simulation.Run

namespace StreamWatch.Demo

/-! # The demonstration

A small scenario that shows a monitor at work: two users, four sessions and three rules.

* `rules`, `sessions`: the ruleset, and the sessions around a moment;
* `arrivals`, `arriving`: the script of sessions that arrive one after the other, and sessions
  picked for it by their numbers;
* `transcript`: what a run of the whole demonstration prints.
-/

open Simulation

/-! ### Rules -/

/-- A group of one condition. -/
def single (field operator : String) (value : ExpectedValue) : ConditionGroup :=
  ⟨[⟨field, operator, value, none⟩]⟩

/-- An active rule for all servers. -/
def rule (id name : String) (groups : List ConditionGroup) (actions : List Action) : Rule where
  id := id
  name := name
  description := none
  isActive := true
  serverId := none
  conditions := some ⟨groups⟩
  actions := some ⟨actions⟩
  legacyType := none
  legacyParams := none

/-- The rules: sessions far apart, too many streams from outside, and blocked countries. -/
def rules : List Rule := [
  rule "simultaneous-locations" "Simultaneous locations"
    [single "active_session_distance_km" "gt" (.int 500)]
    [.createViolation .high none, .notify [.push] none],
  rule "concurrent-streams" "Too many streams"
    [single "concurrent_streams" "gte" (.int 3), single "is_local_network" "eq" (.bool false)]
    [.createViolation .warning none],
  rule "geo-restriction" "Blocked country"
    [single "country" "in" (.list [.text "KP", .text "IR"])]
    [.logOnly (some "Blocked country")]]

/-! ### Sessions -/

/-- A user who has been here for some days. -/
def user (id name : String) (trust : Int) (now : Moment) (days : Int) : Except Fault User :=
  (now.shift (-(days * Duration.day))).map fun since => ⟨id, some name, trust, since, none⟩

/-- A film that a user started some seconds after a moment. -/
def film (id : String) (viewer : User) (now : Moment) (seconds : Int) : Except Fault Session :=
  (now.shift (seconds * Duration.second)).map fun started =>
    { Session.starting id viewer.id "server-1" started with mediaType := some "movie" }

/-- The same session at a place. -/
def located (s : Session) (ip country : String) (place : Option Place) : Session :=
  { s with
    ipAddress := ip
    country := some country
    latitude := place.map fun p => p.latitude.toFloat
    longitude := place.map fun p => p.longitude.toFloat }

/-- The same session on a device. -/
def playedOn (s : Session) (device : String) (platform : Option String) : Session :=
  { s with device := some device, platform := platform }

/-- The sessions with their users: one user in two cities and on three devices within two
    minutes, and another one in a blocked country. -/
def sessions (now : Moment) : Except Fault (List (Session × User)) := do
  let alice ← user "user-alice" "alice" 90 now 400
  let bob ← user "user-bob" "bob" 70 now 20
  let newYork : Place := ⟨.real 40.7128, .real (-74.0060)⟩
  let london : Place := ⟨.real 51.5074, .real (-0.1278)⟩
  let s1 := located (← film "s-1" alice now 0) "24.29.18.175" "US" (some newYork)
  let s2 := located (← film "s-2" alice now 60) "81.2.69.160" "GB" (some london)
  let s3 := located (← film "s-3" alice now 120) "81.2.69.192" "GB" (some london)
  let s4 := located (← film "s-4" bob now 30) "175.45.176.3" "KP" none
  return [
    (playedOn s1 "Living Room TV" none, alice),
    (playedOn s2 "iPhone" (some "iOS"), alice),
    (playedOn s3 "Chrome" (some "Windows"), alice),
    (playedOn s4 "Android TV" (some "Android TV"), bob)]

/-- Sessions that arrive one after the other, with a pause after each. -/
def arrivals (pause : Datum) (arriving : List (Session × User)) : List Command :=
  arriving.flatMap fun (session, viewer) =>
    [.startSession session viewer (some session.startedAt), .pause pause]

/-- The seconds between two arrivals where nothing else is said. -/
def standardPause : Datum := .real 0.01

/-- The session of a number. Numbers below zero count from the end. -/
def pick (known : List (Session × User)) (number : Datum) : Except Fault (Session × User) :=
  match number.count? with
  | some (.int i) =>
    let place := if i < 0 then i + known.length else i
    match if place < 0 then none else known[place.toNat]? with
    | some pair => .ok pair
    | none => .error .noItem
  | _ => .error (.misuse (.noKeys number.kindName))

/-- The sessions of some numbers. -/
def arriving (known : List (Session × User)) (numbers : List Datum) :
    Except Fault (List (Session × User)) :=
  numbers.mapM (pick known)

/-! ### The whole demonstration -/

/-- The settings: the loop goes round twice a second. -/
def config : MonitorConfig := { MonitorConfig.standard with sweepIntervalSeconds := 0.5 }

/-- The server. -/
def server : Server := ⟨"server-1", "Home Plex", some "plex"⟩

/-- The script: the sessions arrive while the loop runs, which then gets time for a round. -/
def script (arriving : List (Session × User)) : List Command :=
  [.start] ++ arrivals (.real 0.05) arriving ++
    [.pause (.real (config.sweepIntervalSeconds + 0.1)), .stop]

/-- The line that announces a match. -/
def alertLine (found : Match) : String :=
  let groups := (Datum.ofList .int found.verdict.matchedGroups).display
  let actions := String.intercalate ", " (found.verdict.actions.map fun a => a.kind.name)
  "[ALERT] " ++ found.verdict.ruleName ++ " | user=" ++ found.session.userId ++
    " | session=" ++ found.session.id ++ " | groups=" ++ groups ++ " | actions=" ++ actions

/-- The line of an event, if it has one. -/
def lineOf? (threshold : Nat) : Event → Option LogLine
  | .received found => some (.text (alertLine found))
  | .noted notice =>
    let entry := notice.entry Datum.ofNumber
    if entry.passes threshold then some (.entry entry.line) else none
  | .called _ => none

/-- Was a match received? -/
def isReceived : Event → Bool
  | .received _ => true
  | _ => false

/-- What the demonstration prints when it starts at a time, with the entries of the log that
    reach a threshold. -/
def transcript (threshold : Nat) (now : Moment) : Except Fault (List LogLine) := do
  let monitor := freshMonitor server config rules true
  let script := script (← sessions now)
  let world ← (World.fresh monitor .standard [] now script).simulate.withoutFault
  let events := world.allEvents
  let total := (events.filter isReceived).length
  return events.filterMap (lineOf? threshold) ++
    [.text "", .text ("Total alerts generated: " ++ toString total)]

/-- The level of the log where nothing is set. -/
def standardLevel : String := "warning"

/-- The moment around which the demonstration takes place where nothing else is said. -/
def standardStart : Moment :=
  ⟨.ofLocalClock ((⟨2026, 3, 14⟩ : Date).dayNumber * Duration.day + 12 * Duration.hour) (some 0),
    rfl⟩

end StreamWatch.Demo
