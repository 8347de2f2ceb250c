import StreamWatch.Datum.Order
import StreamWatch.Geo
import StreamWatch.Time.Timestamp

namespace StreamWatch

/-! # Sessions, users and servers

* `PlaybackState`: what a player is doing;
* `Session`: one attempt to play an item, as a media server reports it;
* `User`, `Server`: who plays, and where.
-/

/-- What a player is doing. -/
inductive PlaybackState where
  | playing | paused | stopped | buffering
  deriving Repr, DecidableEq, Inhabited

namespace PlaybackState

/-- The name of a state. -/
def name : PlaybackState → String
  | .playing => "playing"
  | .paused => "paused"
  | .stopped => "stopped"
  | .buffering => "buffering"

/-- Every state. -/
def all : List PlaybackState := [.playing, .paused, .stopped, .buffering]

/-- The state of a name. -/
def ofName? (name : String) : Option PlaybackState :=
  all.find? fun state => state.name == name

/-- The state of a name, or the fault that there is none. -/
def ofName (name : String) : Except Fault PlaybackState :=
  match ofName? name with
  | some state => .ok state
  | none => .error (.unknownState name)

end PlaybackState

/-- One attempt to play an item. Times of day are moments, and all lengths of time and
    positions are milliseconds. What a player says of its position, and of why it was stopped,
    is kept as it came. -/
structure Session where
  id : String
  userId : String
  serverId : String
  state : PlaybackState
  mediaType : Option String
  ratingKey : Option String
  libraryId : Option String
  startedAt : Moment
  stoppedAt : Option Moment
  lastSeenAt : Option Moment
  /-- The reported position in the item, nothing if none was reported. -/
  progress : Datum
  /-- The length of the item. -/
  totalDuration : Option Int
  /-- The time watched, once the session has stopped. -/
  duration : Option Int
  /-- The start of the pause that is open, if one is. -/
  lastPausedAt : Option Moment
  /-- The recorded length of the pauses that are closed. -/
  pausedDuration : Int
  /-- The session that this one resumes, directly or not. -/
  referenceId : Option String
  watched : Bool
  shortSession : Bool
  /-- What was said of the stop being forced. It was if this counts as true. -/
  forceStopped : Datum
  ipAddress : String
  latitude : Option Float
  longitude : Option Float
  city : Option String
  country : Option String
  device : Option String
  platform : Option String
  product : Option String
  deviceId : Option String
  playerName : Option String
  sourceWidth : Option Int
  sourceHeight : Option Int
  sourceBitrate : Option Int
  streamWidth : Option Int
  streamHeight : Option Int
  bitrate : Option Int
  isTranscode : Bool

namespace Session

/-- A session that starts, and of which nothing else is known. -/
def starting (id userId serverId : String) (startedAt : Moment) : Session where
  id := id
  userId := userId
  serverId := serverId
  state := .playing
  mediaType := none
  ratingKey := none
  libraryId := none
  startedAt := startedAt
  stoppedAt := none
  lastSeenAt := none
  progress := .null
  totalDuration := none
  duration := none
  lastPausedAt := none
  pausedDuration := 0
  referenceId := none
  watched := false
  shortSession := false
  forceStopped := .bool false
  ipAddress := ""
  latitude := none
  longitude := none
  city := none
  country := none
  device := none
  platform := none
  product := none
  deviceId := none
  playerName := none
  sourceWidth := none
  sourceHeight := none
  sourceBitrate := none
  streamWidth := none
  streamHeight := none
  bitrate := none
  isTranscode := false

/-- The place of a session, if both its coordinates are known. -/
def place? (s : Session) : Option Place :=
  match s.latitude, s.longitude with
  | some north, some east => some ⟨.real north, .real east⟩
  | _, _ => none

/-- A position in an item of a known and non-zero length, at most at its end. -/
def clampPosition (total : Option Int) (position : Int) : Int :=
  match total with
  | none => position
  | some length => if length = 0 then position else min position length

/-- A reported position in an item, at most at its end. There has to be an order of the two if
    the item has a known and non-zero length. -/
def clampReported (total : Option Int) (position : Datum) : Except Fault Datum :=
  match total with
  | none => .ok position
  | some length =>
    if length = 0 then .ok position
    else do return if ← (Datum.int length).stands .less position then .int length else position

/-- When a session was last heard of: at its start, if nothing else is known. -/
def lastHeardAt (s : Session) : Moment := s.lastSeenAt.getD s.startedAt

/-- When a session ended: at its start, if nothing else is known. -/
def endedAt (s : Session) : Moment := s.stoppedAt.getD s.startedAt

end Session

/-- A user of one media server. -/
structure User where
  id : String
  username : Option String
  trustScore : Int
  createdAt : Moment
  lastActivityAt : Option Moment

/-- A media server. -/
structure Server where
  id : String
  name : String
  type : Option String

end StreamWatch
