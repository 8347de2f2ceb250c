import StreamWatch.Number.Basic
import StreamWatch.Text.DecimalDigit
import StreamWatch.Text.Lowercase

namespace StreamWatch

/-! # Video resolution

Media servers name a resolution by a label of their own, or only give the size of the
frame. Both are brought to one vocabulary of labels, which is ordered by tiers. The width
is preferred over the height, so that a wide and low picture keeps the tier of its width:

* `resolutionLabel`: the label of what is known, none when nothing is;
* `frameLabel`: the label of a frame;
* `resolutionTier`: the tier of a label.
-/

/-- The labels and their tiers, which are frame heights in lines. -/
def resolutionTiers : List (String × Int) :=
  [("4K", 2160), ("1080p", 1080), ("720p", 720), ("480p", 480), ("SD", 360), ("unknown", 0)]

/-- The tier of a label; any other label ranks with the unknown one. -/
def resolutionTier (label : String) : Int := (resolutionTiers.lookup label).getD 0

/-- Names in use, in lower case, with the label that each stands for. -/
def labelAliases : List (String × String) :=
  [("4k", "4K"), ("2160", "4K"), ("2160p", "4K"), ("uhd", "4K"), ("1080", "1080p"),
   ("1080p", "1080p"), ("fhd", "1080p"), ("720", "720p"), ("720p", "720p"), ("hd", "720p"),
   ("480", "480p"), ("480p", "480p"), ("sd", "SD")]

/-- Is a text a line of decimal digits, of any script? One line end may follow them. -/
def isNumeralLine (s : String) : Bool :=
  let digits := s.toList.takeWhile Text.isDecimalDigit
  let rest := s.toList.dropWhile Text.isDecimalDigit
  !digits.isEmpty && (rest.isEmpty || rest == ['\n'])

/-- The label of a resolution that has a name. A bare count of lines gets a `p`, and a
    name that is not in use is kept as it is. -/
def namedLabel (name : String) : String :=
  let low := Text.lowercase name
  match labelAliases.lookup low with
  | some label => label
  | none => if isNumeralLine low then low ++ "p" else name

/-- The label of a frame width. -/
def widthLabel (width : Int) : String :=
  if width ≥ 3840 then "4K"
  else if width ≥ 1920 then "1080p"
  else if width ≥ 1280 then "720p"
  else if width ≥ 854 then "480p"
  else "SD"

/-- The label of a frame height. -/
def heightLabel (height : Int) : String :=
  if height ≥ 2160 then "4K"
  else if height ≥ 1080 then "1080p"
  else if height ≥ 720 then "720p"
  else if height ≥ 480 then "480p"
  else "SD"

/-- The whole number that a measure counts as: no part of a line or column counts but that of
    the first one, and what is not a number is as small as can be. -/
def wholeMeasure (measure : Number) : Int :=
  match measure with
  | .int n => n
  | .real x =>
    match ExactValue.ofFloat x with
    | .nan => 1
    | .infinite negative => if negative then -1 else 3840
    | .finite m e =>
      let whole := m * twoPow e.toNat / twoPow (-e).toNat
      if m ≠ 0 ∧ whole = 0 then 1 else whole

/-- A measure that is given and not zero. -/
def known? (measure : Option Int) : Option Int :=
  measure.filter fun n => n != 0

/-- The label of what is known of a resolution: of its name, else of the width, else of
    the height; none when nothing is known. -/
def resolutionLabel (name : Option String) (width height : Option Int) : Option String :=
  match name.filter fun s => !s.isEmpty with
  | some s => some (namedLabel s)
  | none =>
    match known? width with
    | some w => some (widthLabel w)
    | none => (known? height).map heightLabel

/-- The label of a frame of which neither measure is known. -/
def unknownLabel : String := "unknown"

/-- The label of a frame. -/
def frameLabel (width height : Option Int) : String :=
  (resolutionLabel none width height).getD unknownLabel

end StreamWatch
