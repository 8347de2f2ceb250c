import StreamWatch.Client
import StreamWatch.Datum
import StreamWatch.Lifecycle
import StreamWatch.Network.Block
import StreamWatch.Resolution

namespace StreamWatch

/-! # Unchecked data

Some questions are asked about data straight from a report, which nobody has validated. What is
of the right kind goes to the function that has the answer, and anything else is a fault of its
own:

* `resolutionLabelOf`, `frameLabelOf`, `resolutionTierOf`: the resolution of a picture;
* `deviceKindOf`, `platformKindOf`: the client;
* `isPrivateOf`, `inBlockOf`: the address;
* `isStaleOf`, `worthRecordingOf`, `watchCompletedOf`: the thresholds of a session's life;
* `distanceOf`: the distance between two places.
-/

namespace Datum

/-- A text that may be missing, and of which something is wanted. What counts as false is
    missing. -/
def textFor (wanted : String) (d : Datum) : Except Fault (Option String) :=
  if d.truthy then
    match d with
    | .text s => .ok (some s)
    | other => .error (.misuse (.noAttribute other.kindName wanted))
  else .ok none

/-- A measure of a frame that may be missing. What counts as false is missing. -/
def measure (d : Datum) : Except Fault (Option Int) :=
  if d.truthy then
    match d.count? with
    | some n => .ok (some (wholeMeasure n))
    | none => .error (.misuse (.noOrder ">=" d.kindName "int"))
  else .ok none

end Datum

/-! ### Pictures and clients -/

/-- The label of what is known of a resolution. -/
def resolutionLabelOf (name width height : Datum) : Except Fault (Option String) := do
  let name ← name.textFor "lower"
  if name.isSome then return resolutionLabel name none none
  let width ← width.measure
  if width.isSome then return resolutionLabel none width none
  return resolutionLabel none none (← height.measure)

/-- The label of a frame. -/
def frameLabelOf (width height : Datum) : Except Fault String :=
  (resolutionLabelOf .null width height).map fun label => label.getD unknownLabel

/-- The tier of a label. -/
def resolutionTierOf (label : Datum) : Except Fault Int :=
  match label with
  | .text name => .ok (resolutionTier name)
  | .list _ | .record _ => .error (.misuse (.notAName label.kindName))
  | _ => .ok 0

/-- The kind of a device. -/
def deviceKindOf (device platform : Datum) : Except Fault DeviceKind := do
  let device ← device.textFor "lower"
  let platform ← platform.textFor "lower"
  return deviceKind device platform

/-- The kind of a platform. -/
def platformKindOf (platform : Datum) : Except Fault PlatformKind :=
  (platform.textFor "lower").map platformKind

/-! ### Addresses -/

/-- Is an address set aside for local use? -/
def isPrivateOf (address : Datum) : Except Fault Bool :=
  (address.textFor "strip").map Network.isPrivate

/-- The address of a number. -/
def addressOfNumber? (n : Int) : Option Network.IPv4 :=
  if 0 ≤ n ∧ n < 0x100000000 then some (BitVec.ofInt 32 n) else none

/-- Is an address, which may be given as a number, in a block? -/
def inBlockOf (address block : Datum) : Except Fault Bool :=
  match address, block with
  | .text a, .text b => .ok (Network.inBlockText a b)
  | a, .text b =>
    match a.count?, Network.blockOfText? b.toList with
    | some (.int n), some block => .ok ((addressOfNumber? n).any block.covers)
    | _, _ => .ok false
  | _, .list _ | _, .record _ => .ok false
  | _, other => .error (.misuse (.noParts other.kindName))

/-! ### Sessions -/

/-- Is a session that was last heard of at a time stale at `now`? One that was never heard of is
    not. -/
def isStaleOf (lastHeardAt : Option Timestamp) (timeoutSeconds : Datum) (now : Timestamp) :
    Except Fault Bool :=
  match lastHeardAt, timeoutSeconds.count? with
  | none, _ => .ok false
  | some heard, some seconds => isStale heard seconds now
  | some _, none => .error (.misuse (.notSeconds timeoutSeconds.kindName))

/-- Is a session long enough to be recorded? -/
def worthRecordingOf (duration minPlayTime : Datum) : Except Fault Bool :=
  match duration, duration.count?, minPlayTime.count? with
  | .null, _, some least => .ok (worthRecording none least)
  | .null, _, none => .ok false
  | _, some length, some least => .ok (worthRecording (some length) least)
  | _, _, some least =>
    if least.nonzero then duration.stands .atLeast minPlayTime else .ok true
  | _, _, none => duration.stands .atLeast minPlayTime

/-- Was at least the threshold of an item played? -/
def watchCompletedOf (progress total threshold : Datum) : Except Fault Bool := do
  if progress.truthy && total.truthy then
    match progress.count?, total.count? with
    | some a, some b => watchCompleted (some a) (some b) threshold
    | _, _ => throw (.misuse (.noOperation "/" progress.kindName total.kindName))
  else return false

/-! ### Places -/

/-- The coordinates of two places along one axis, the second one first. -/
def coordinates (b a : Datum) : Except Fault (Number × Number) :=
  match b.count?, a.count? with
  | some n, some m => .ok (n, m)
  | _, _ => .error (.misuse (.noOperation "-" b.kindName a.kindName))

/-- Is a coordinate missing? -/
def isMissing : Datum → Bool
  | .null => true
  | _ => false

/-- The distance between two places, none when a coordinate is missing. -/
def distanceOf (latitudeA longitudeA latitudeB longitudeB : Datum) :
    Except Fault (Option Float) := do
  if [latitudeA, longitudeA, latitudeB, longitudeB].any isMissing then return none
  let (northB, northA) ← coordinates latitudeB latitudeA
  let (eastB, eastA) ← coordinates longitudeB longitudeA
  Geo.distance? (some ⟨northA, eastA⟩) (some ⟨northB, eastB⟩)

end StreamWatch
