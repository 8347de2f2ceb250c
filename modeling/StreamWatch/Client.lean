import StreamWatch.Text.Lowercase

namespace StreamWatch

/-! # Clients

What a client says of its device and its platform is free text. It is sorted into a small
vocabulary of devices (`deviceKind`) and platforms (`platformKind`) by the marks that the
text, in lower case, holds. -/

/-- Does a text hold one of the marks? -/
def holdsMark (marks : List String) (text : String) : Bool :=
  marks.any fun mark => Text.occursIn mark text

/-- The kinds of device. -/
inductive DeviceKind where
  | tv | mobile | tablet | desktop | browser | unknown
  deriving Repr, DecidableEq

/-- The name of a kind of device. -/
def DeviceKind.name : DeviceKind → String
  | .tv => "tv"
  | .mobile => "mobile"
  | .tablet => "tablet"
  | .desktop => "desktop"
  | .browser => "browser"
  | .unknown => "unknown"

/-- The marks of a platform that runs on television sets. -/
def televisionMarks : List String :=
  ["tv", "roku", "webos", "tizen", "firetv", "chromecast", "androidtv"]

/-- The kind of a device, from the device and the platform that the client names. -/
def deviceKind (device platform : Option String) : DeviceKind :=
  let d := Text.lowercase (device.getD "")
  let p := Text.lowercase (platform.getD "")
  let isTablet := holdsMark ["ipad", "tablet"] d
  if holdsMark ["tv"] d || holdsMark televisionMarks p then .tv
  else if holdsMark ["iphone", "phone"] d || p == "ios" || p == "android" then
    if isTablet then .tablet else .mobile
  else if isTablet then .tablet
  else if holdsMark ["windows", "macos", "linux"] p then .desktop
  else if holdsMark ["browser", "chrome", "firefox", "safari", "edge"] d then .browser
  else .unknown

/-- The kinds of platform. -/
inductive PlatformKind where
  | ios | android | windows | macos | linux | tvos | androidtv | roku | webos | tizen | unknown
  deriving Repr, DecidableEq

/-- The name of a kind of platform. -/
def PlatformKind.name : PlatformKind → String
  | .ios => "ios"
  | .android => "android"
  | .windows => "windows"
  | .macos => "macos"
  | .linux => "linux"
  | .tvos => "tvos"
  | .androidtv => "androidtv"
  | .roku => "roku"
  | .webos => "webos"
  | .tizen => "tizen"
  | .unknown => "unknown"

/-- The kind of a platform, from the name that the client gives. -/
def platformKind (platform : Option String) : PlatformKind :=
  let p := Text.lowercase (platform.getD "")
  if holdsMark ["ios"] p || p == "iphone" || p == "ipad" then .ios
  else if holdsMark ["android"] p then
    if holdsMark ["tv"] p then .androidtv else .android
  else if holdsMark ["windows"] p then .windows
  else if holdsMark ["macos", "mac os"] p || p == "darwin" then .macos
  else if holdsMark ["linux"] p then .linux
  else if holdsMark ["tvos", "apple tv"] p then .tvos
  else if holdsMark ["roku"] p then .roku
  else if holdsMark ["webos"] p then .webos
  else if holdsMark ["tizen"] p then .tizen
  else .unknown

end StreamWatch
