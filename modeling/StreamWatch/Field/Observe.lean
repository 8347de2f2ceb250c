import StreamWatch.Client
import StreamWatch.Field.Basic
import StreamWatch.Field.Observation
import StreamWatch.Rule.Context

namespace StreamWatch

/-! # What each field observes

Every field reads one value off the context of a session. Where a report is incomplete the
value is a neutral one, such as no distance or an empty text, so that only the comparison
decides:

* `ConditionField.observe`: the observation of a field;
* `ConditionField.evaluate`: does a condition on a field hold?
-/

namespace SessionContext

/-! ### The sessions of the user -/

/-- The active sessions of the user. -/
def ownActive (c : SessionContext) : List Session :=
  c.activeSessions.filter fun s => s.userId == c.user.id

/-- The recent sessions of the user. -/
def ownRecent (c : SessionContext) : List Session :=
  c.recentSessions.filter fun s => s.userId == c.user.id

/-- The recent sessions of the user that started in the hours before this one. -/
def recentWithin (c : SessionContext) (hours : Int) : Except Fault (List Session) := do
  let window ← Duration.ofHours hours
  let cutoff ← c.session.startedAt.shift (-window)
  return c.ownRecent.filter fun s => !s.startedAt.isBefore cutoff

/-- Of two distances the greater one; what is missing or not a number counts for nothing. -/
def fartherOf (greatest : Float) : Option Float → Float
  | some distance => if greatest < distance then distance else greatest
  | none => greatest

/-- The greatest distance to another active session of the user. -/
def greatestDistance (c : SessionContext) : Except Fault Float :=
  (c.ownActive.filter fun s => s.id != c.session.id).foldlM (fun greatest other =>
    (Geo.distance? c.session.place? other.place?).map (fartherOf greatest)) 0.0

/-- The later of two sessions, the first of them if they started at once. -/
def laterOf (a b : Session) : Session := if a.startedAt.isBefore b.startedAt then b else a

/-- The recent session of the user that started last, without this one. -/
def previousSession? (c : SessionContext) : Option Session :=
  match c.ownRecent.filter fun s => s.id != c.session.id with
  | [] => none
  | first :: rest => some (rest.foldl laterOf first)

/-- The speed over a distance in a number of hours. To be at two places at once is infinitely
    fast. -/
def speed (distance hours : Float) : Datum :=
  if hours ≤ 0.0 then if 0.0 < distance then .real positiveInfinity else .int 0
  else .real (distance / hours)

/-- The speed of the way from the session before, in kilometres an hour. -/
def travelSpeed (c : SessionContext) : Except Fault Datum :=
  match c.previousSession? with
  | none => .ok (.int 0)
  | some previous =>
    (Geo.distance? c.session.place? previous.place?).map fun
      | none => .int 0
      | some distance =>
        speed distance
          ((c.session.startedAt.since previous.startedAt).dividedBy Duration.hour)

/-- How many different texts there are. -/
def countDistinct (texts : List String) : Int := texts.eraseDups.length

/-- How many texts of a kind this session and the recent ones of a window have. -/
def countInWindow (c : SessionContext) (hours : Int) (label : Session → String) :
    Except Fault Int :=
  (c.recentWithin hours).map fun recent => countDistinct (label c.session :: recent.map label)

/-- The whole days from a moment until now. -/
def daysSince (c : SessionContext) (moment : Moment) : Int :=
  (c.now.since moment).wholeUnits Duration.day

end SessionContext

namespace Session

/-- What tells the devices of a user apart. -/
def deviceLabel (s : Session) : String := (s.deviceId.or s.playerName).getD "unknown"

/-- The name of the client. -/
def clientName (s : Session) : String := (s.product.or s.playerName).getD ""

/-- The resolution of the source. -/
def sourceLabel (s : Session) : String := frameLabel s.sourceWidth s.sourceHeight

/-- The resolution of the stream. -/
def outputLabel (s : Session) : String := frameLabel s.streamWidth s.streamHeight

/-- Does transcoding lower the resolution? -/
def isDowngraded (s : Session) : Bool :=
  s.isTranscode && decide (resolutionTier s.outputLabel < resolutionTier s.sourceLabel)

/-- The bitrate of the source in millions of bits a second. -/
def sourceMegabits (s : Session) : Except Fault Float :=
  match quotient? ((s.sourceBitrate.or s.bitrate).getD 0) 1000000 with
  | some rate => .ok rate
  | none => .error .quotientTooLarge

end Session

/-- The hours that a condition looks back, a day where nothing is set. -/
def Condition.windowHours (condition : Condition) : Int :=
  (condition.params.bind ConditionParams.windowHours).getD 24

namespace ConditionField

/-- What a field observes in a context, looking back a number of hours where it looks back. -/
def observe (field : ConditionField) (c : SessionContext) (hours : Int) :
    Except Fault Observation :=
  match field with
  | concurrentStreams => .ok (.plain (.int c.ownActive.length))
  | activeSessionDistance => c.greatestDistance.map fun d => .plain (.real d)
  | travelSpeed => c.travelSpeed.map .plain
  | uniqueAddresses => (c.countInWindow hours Session.ipAddress).map fun n => .plain (.int n)
  | uniqueDevices => (c.countInWindow hours Session.deviceLabel).map fun n => .plain (.int n)
  | inactiveDays =>
    .ok (.plain (.int (c.daysSince (c.user.lastActivityAt.getD c.user.createdAt))))
  | sourceResolution => .ok (.resolution c.session.sourceLabel)
  | outputResolution => .ok (.resolution c.session.outputLabel)
  | isTranscoding => .ok (.plain (.bool c.session.isTranscode))
  | isTranscodeDowngrade => .ok (.plain (.bool c.session.isDowngraded))
  | sourceBitrate => c.session.sourceMegabits.map fun rate => .plain (.real rate)
  | userId => .ok (.plain (.text c.user.id))
  | trustScore => .ok (.plain (.int c.user.trustScore))
  | accountAge => .ok (.plain (.int (c.daysSince c.user.createdAt)))
  | deviceType => .ok (.plain (.text (deviceKind c.session.device c.session.platform).name))
  | clientName => .ok (.plain (.text c.session.clientName))
  | platform => .ok (.plain (.text (platformKind c.session.platform).name))
  | isLocalNetwork => .ok (.plain (.bool (Network.isPrivate (some c.session.ipAddress))))
  | country => .ok (.plain (.text (c.session.country.getD "")))
  | addressInRange => .ok (.address c.session.ipAddress)
  | serverId => .ok (.plain (.text c.server.id))
  | libraryId => .ok (.plain (.text (c.session.libraryId.getD "")))
  | mediaType => .ok (.plain (.ofOption .text c.session.mediaType))

/-- Does a condition on a field hold in a context? -/
def evaluate (field : ConditionField) (c : SessionContext) (condition : Condition) :
    Except Fault Bool :=
  (field.observe c condition.windowHours).map fun observed => observed.meets condition

end ConditionField

/-- Does a condition hold in a context? There has to be a field of its name. -/
def Condition.evaluate (condition : Condition) (c : SessionContext) : Except Fault Bool :=
  match ConditionField.ofName? condition.field with
  | some field => field.evaluate c condition
  | none => .error (.unknownField condition.field)

end StreamWatch
