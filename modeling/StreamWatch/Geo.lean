import StreamWatch.Fault

namespace StreamWatch

/-! # Distances on the globe

`greatCircle` is the length of the shortest way between two places on a sphere, by the
haversine formula in doubles. Rounding can push the haversine out of the interval from 0
to 1, above all for exact antipodes; the square roots are then outside their domain. The
differences of integers are taken before they become doubles. -/

/-- A place, in degrees north and east. -/
structure Place where
  latitude : Number
  longitude : Number

namespace Geo

/-- The angle from `a` to `b`. -/
def difference (a b : Number) : Except Fault Float :=
  match a, b with
  | .int m, .int n => (Number.int (n - m)).double
  | _, _ => do
    let b ← b.double
    let a ← a.double
    return b - a

/-- The radius of the globe in kilometres. -/
def earthRadius : Float := 6371.0

/-- Degrees in radians. -/
def radians (degrees : Float) : Float := degrees * (3.141592653589793 / 180.0)

/-- A trigonometric function, which has no value at an infinity. -/
def trigonometric (f : Float → Float) (x : Float) : Except Fault Float :=
  if x.isInf then .error .outsideDomain else .ok (f x)

/-- The square root, which has no value below zero. -/
def squareRoot (x : Float) : Except Fault Float :=
  if x < 0.0 then .error .outsideDomain else .ok x.sqrt

/-- The square of the sine of half an angle. -/
def halfSineSquared (angle : Float) : Except Fault Float :=
  (trigonometric Float.sin (angle / 2.0)).map fun s => s.pow 2.0

/-- The length of the shortest way between two places in kilometres. -/
def greatCircle (a b : Place) : Except Fault Float := do
  let north ← difference a.latitude b.latitude
  let east ← difference a.longitude b.longitude
  let northPart ← halfSineSquared (radians north)
  let cosA ← trigonometric Float.cos (radians (← a.latitude.double))
  let cosB ← trigonometric Float.cos (radians (← b.latitude.double))
  let eastPart ← halfSineSquared (radians east)
  let h := northPart + cosA * cosB * eastPart
  let near ← squareRoot h
  let far ← squareRoot (1.0 - h)
  return earthRadius * (2.0 * Float.atan2 near far)

/-- The distance between two places, none when either is not known. -/
def distance? (a b : Option Place) : Except Fault (Option Float) :=
  match a, b with
  | some p, some q => (greatCircle p q).map some
  | _, _ => .ok none

end Geo

end StreamWatch
