import StreamWatch.Session
import StreamWatch.Validation.Scalar

namespace StreamWatch

open Validation

/-! # Sessions, users and servers as they are given

Each type has an `ofGiven`, which reads what is given, and a `toGiven`, which writes it. What is
written names every field, and is read back to an equal value. Where there are timestamps,
`toGiven` takes a way to write them:

* `Moment.asTime`: as such;
* `Moment.asText`, `Moment.asFullText`: as a text, the second with all digits of its microseconds.
-/

namespace Moment

/-- A moment as a text. -/
def asText (t : Moment) : Given := .text t.text

end Moment

namespace Session

/-- Reads the fields of a session. -/
def fieldsOf (r : Parts) : Checked Session :=
  mk <$> required "id" text r
    <*> required "server_user_id" text r
    <*> required "server_id" text r
    <*> defaulted "state" .playing (oneOf .choice PlaybackState.name PlaybackState.all) r
    <*> optional "media_type" text r
    <*> optional "rating_key" text r
    <*> optional "library_id" text r
    <*> required "started_at" moment r
    <*> optional "stopped_at" moment r
    <*> optional "last_seen_at" moment r
    <*> (Datum.ofOption .int <$> optional "progress_ms" int r)
    <*> optional "total_duration_ms" int r
    <*> optional "duration_ms" int r
    <*> optional "last_paused_at" moment r
    <*> defaulted "paused_duration_ms" 0 (intFrom 0) r
    <*> optional "reference_id" text r
    <*> defaulted "watched" false bool r
    <*> defaulted "short_session" false bool r
    <*> (Datum.bool <$> defaulted "force_stopped" false bool r)
    <*> defaulted "ip_address" "" text r
    <*> optional "geo_lat" float r
    <*> optional "geo_lon" float r
    <*> optional "geo_city" text r
    <*> optional "geo_country" text r
    <*> optional "device" text r
    <*> optional "platform" text r
    <*> optional "product" text r
    <*> optional "device_id" text r
    <*> optional "player_name" text r
    <*> optional "source_video_width" int r
    <*> optional "source_video_height" int r
    <*> optional "source_bitrate" int r
    <*> optional "stream_video_width" int r
    <*> optional "stream_video_height" int r
    <*> optional "bitrate" int r
    <*> defaulted "is_transcode" false bool r

/-- The same session with its position inside the item: servers at times report one past
    the end. -/
def clamped (s : Session) : Session :=
  match s.progress with
  | .int position => { s with progress := .int (clampPosition s.totalDuration position) }
  | _ => s

/-- Reads a session. -/
def ofGiven : Read Session := record fun r => clamped <$> fieldsOf r

/-- Writes a session, with a way to write timestamps. -/
def toGiven (stamp : Moment → Given) (s : Session) : Given :=
  .record [
    ("id", .text s.id),
    ("server_user_id", .text s.userId),
    ("server_id", .text s.serverId),
    ("state", .text s.state.name),
    ("media_type", .ofOption .text s.mediaType),
    ("rating_key", .ofOption .text s.ratingKey),
    ("library_id", .ofOption .text s.libraryId),
    ("started_at", stamp s.startedAt),
    ("stopped_at", .ofOption stamp s.stoppedAt),
    ("last_seen_at", .ofOption stamp s.lastSeenAt),
    ("progress_ms", s.progress.given),
    ("total_duration_ms", .ofOption .int s.totalDuration),
    ("duration_ms", .ofOption .int s.duration),
    ("last_paused_at", .ofOption stamp s.lastPausedAt),
    ("paused_duration_ms", .int s.pausedDuration),
    ("reference_id", .ofOption .text s.referenceId),
    ("watched", .bool s.watched),
    ("short_session", .bool s.shortSession),
    ("force_stopped", s.forceStopped.given),
    ("ip_address", .text s.ipAddress),
    ("geo_lat", .ofOption .real s.latitude),
    ("geo_lon", .ofOption .real s.longitude),
    ("geo_city", .ofOption .text s.city),
    ("geo_country", .ofOption .text s.country),
    ("device", .ofOption .text s.device),
    ("platform", .ofOption .text s.platform),
    ("product", .ofOption .text s.product),
    ("device_id", .ofOption .text s.deviceId),
    ("player_name", .ofOption .text s.playerName),
    ("source_video_width", .ofOption .int s.sourceWidth),
    ("source_video_height", .ofOption .int s.sourceHeight),
    ("source_bitrate", .ofOption .int s.sourceBitrate),
    ("stream_video_width", .ofOption .int s.streamWidth),
    ("stream_video_height", .ofOption .int s.streamHeight),
    ("bitrate", .ofOption .int s.bitrate),
    ("is_transcode", .bool s.isTranscode)]

end Session

namespace User

/-- Reads a user. -/
def ofGiven : Read User := record fun r =>
  mk <$> required "id" text r
    <*> optional "username" text r
    <*> defaulted "trust_score" 100 (intBetween 0 100) r
    <*> required "created_at" moment r
    <*> optional "last_activity_at" moment r

/-- Writes a user, with a way to write timestamps. -/
def toGiven (stamp : Moment → Given) (u : User) : Given :=
  .record [
    ("id", .text u.id),
    ("username", .ofOption .text u.username),
    ("trust_score", .int u.trustScore),
    ("created_at", stamp u.createdAt),
    ("last_activity_at", .ofOption stamp u.lastActivityAt)]

end User

namespace Server

/-- Reads a server. -/
def ofGiven : Read Server := record fun r =>
  mk <$> required "id" text r
    <*> defaulted "name" "" text r
    <*> optional "type" text r

/-- Writes a server. -/
def toGiven (s : Server) : Given :=
  .record [("id", .text s.id), ("name", .text s.name), ("type", .ofOption .text s.type)]

end Server

end StreamWatch
