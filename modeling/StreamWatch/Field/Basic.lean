namespace StreamWatch

/-! # The fields of conditions

`ConditionField` lists what a condition can test, family by family. -/

/-- What a condition can test. -/
inductive ConditionField where
  /-- How many streams of the user are active. -/
  | concurrentStreams
  /-- The greatest distance to another active stream of the user. -/
  | activeSessionDistance
  /-- The speed of the way from the session before. -/
  | travelSpeed
  /-- How many addresses the user had in a window of time. -/
  | uniqueAddresses
  /-- How many devices the user had in a window of time. -/
  | uniqueDevices
  /-- The days since the user was last active. -/
  | inactiveDays
  | sourceResolution
  | outputResolution
  | isTranscoding
  /-- Does transcoding lower the resolution? -/
  | isTranscodeDowngrade
  | sourceBitrate
  | userId
  | trustScore
  | accountAge
  | deviceType
  | clientName
  | platform
  | isLocalNetwork
  | country
  /-- Is the address in a block of addresses? -/
  | addressInRange
  | serverId
  | libraryId
  | mediaType
  deriving Repr, DecidableEq

namespace ConditionField

/-- The name of a field. -/
def name : ConditionField → String
  | concurrentStreams => "concurrent_streams"
  | activeSessionDistance => "active_session_distance_km"
  | travelSpeed => "travel_speed_kmh"
  | uniqueAddresses => "unique_ips_in_window"
  | uniqueDevices => "unique_devices_in_window"
  | inactiveDays => "inactive_days"
  | sourceResolution => "source_resolution"
  | outputResolution => "output_resolution"
  | isTranscoding => "is_transcoding"
  | isTranscodeDowngrade => "is_transcode_downgrade"
  | sourceBitrate => "source_bitrate_mbps"
  | userId => "user_id"
  | trustScore => "trust_score"
  | accountAge => "account_age_days"
  | deviceType => "device_type"
  | clientName => "client_name"
  | platform => "platform"
  | isLocalNetwork => "is_local_network"
  | country => "country"
  | addressInRange => "ip_in_range"
  | serverId => "server_id"
  | libraryId => "library_id"
  | mediaType => "media_type"

/-- Every field. -/
def all : List ConditionField :=
  [concurrentStreams, activeSessionDistance, travelSpeed, uniqueAddresses, uniqueDevices,
   inactiveDays, sourceResolution, outputResolution, isTranscoding, isTranscodeDowngrade,
   sourceBitrate, userId, trustScore, accountAge, deviceType, clientName, platform,
   isLocalNetwork, country, addressInRange, serverId, libraryId, mediaType]

/-- The field of a name. -/
def ofName? (fieldName : String) : Option ConditionField :=
  all.find? fun field => field.name == fieldName

end ConditionField

end StreamWatch
