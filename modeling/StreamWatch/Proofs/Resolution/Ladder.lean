import Mathlib.Data.List.Forall2
import StreamWatch.Proofs.Resolution

namespace StreamWatch

/-!
# Ladders of resolutions

A width and a height get their label from a ladder each: the label of the highest step that they
reach.

* `ladderLabel` — the label that a ladder gives, with `widthLabel_eq` and `heightLabel_eq`;
* `Descends` — a ladder on which no lower step is of a higher tier, and `tier_ladderLabel_mono`, by
  which more is never of a lower tier there;
* `ladderLabel_congr` — two measures that reach the same steps of two ladders get the same label;
* `frameTier_monotone` — larger frames are of no lower tier, only frames of which nothing is known
  are of the tier zero, and the two ladders agree on frames of sixteen to nine.
-/

/-! ### Ladders -/

/-- The least measures that have a label, from the highest one down, and the labels. -/
abbrev Ladder := List (Int × String)

/-- The label under the lowest step of a ladder. -/
def groundLabel : String := "SD"

/-- The label of the highest step that a measure reaches. -/
def ladderLabel : Ladder → Int → String
  | [], _ => groundLabel
  | (least, label) :: rest, n => if n ≥ least then label else ladderLabel rest n

/-- The ladder of widths. -/
def widthLadder : Ladder := [(3840, "4K"), (1920, "1080p"), (1280, "720p"), (854, "480p")]

/-- The ladder of heights. -/
def heightLadder : Ladder := [(2160, "4K"), (1080, "1080p"), (720, "720p"), (480, "480p")]

/-- A width has the label that its ladder gives. -/
theorem widthLabel_eq (width : Int) : widthLabel width = ladderLabel widthLadder width := rfl

/-- A height has the label that its ladder gives. -/
theorem heightLabel_eq (height : Int) : heightLabel height = ladderLabel heightLadder height := rfl

/-- A ladder gives the label of one of its steps, or that under the lowest one. -/
theorem ladderLabel_mem (ladder : Ladder) (n : Int) :
    ladderLabel ladder n ∈ ladder.map Prod.snd ++ [groundLabel] := by
  induction ladder with
  | nil => exact List.mem_singleton_self groundLabel
  | cons step rest ih =>
    rw [ladderLabel, List.map_cons, List.cons_append]
    split
    · exact List.mem_cons_self
    · exact List.mem_cons_of_mem _ ih

/-! ### More is of no lower tier -/

/-- Is no step of a ladder of a higher tier than one above it? -/
def Descends (ladder : Ladder) : Prop :=
  (ladder.map Prod.snd ++ [groundLabel]).Pairwise fun upper lower =>
    resolutionTier lower ≤ resolutionTier upper

instance : DecidablePred Descends := fun ladder =>
  inferInstanceAs (Decidable ((ladder.map Prod.snd ++ [groundLabel]).Pairwise _))

/-- On a ladder that descends a greater measure is of no lower tier. -/
theorem tier_ladderLabel_mono {ladder : Ladder} (h : Descends ladder) {m n : Int} (hmn : m ≤ n) :
    resolutionTier (ladderLabel ladder m) ≤ resolutionTier (ladderLabel ladder n) := by
  induction ladder with
  | nil => exact Int.le_refl _
  | cons step rest ih =>
    obtain ⟨hfirst, hrest⟩ := List.pairwise_cons.mp h
    rw [ladderLabel, ladderLabel]
    split
    · rename_i hreached
      exact Int.le_of_eq (congrArg resolutionTier (if_pos (Int.le_trans hreached hmn)).symm)
    · split
      · -- Only the greater one reaches this step, and the other one is left with those below.
        exact hfirst _ (ladderLabel_mem rest m)
      · exact ih hrest

/-- Two measures that reach the same steps of ladders with the same labels have the same label. -/
theorem ladderLabel_congr {ladder ladder' : Ladder} {m n : Int}
    (h : List.Forall₂ (fun step step' => (m ≥ step.1 ↔ n ≥ step'.1) ∧ step.2 = step'.2) ladder
      ladder') : ladderLabel ladder m = ladderLabel ladder' n := by
  induction h with
  | nil => rfl
  | cons hstep _ ih =>
    rw [ladderLabel, ladderLabel, ih]
    exact if_congr hstep.1 hstep.2 rfl

/-! ### Frames -/

/-- The ladder of widths descends. -/
theorem widthLadder_descends : Descends widthLadder := by decide

/-- The ladder of heights descends. -/
theorem heightLadder_descends : Descends heightLadder := by decide

/-- A measure is not known if it is missing or zero. -/
theorem known?_eq_none_iff {measure : Option Int} :
    known? measure = none ↔ measure = none ∨ measure = some 0 := by
  cases measure with
  | none => simp [known?]
  | some n => simp [known?]

/-- A measure that is not zero is known. -/
theorem known?_of_pos {n : Int} (h : 0 < n) : known? (some n) = some n := by
  simp [known?, Int.ne_of_gt h]

/-- A frame whose width is known has the label of the width. -/
theorem frameLabel_of_width {width : Int} (h : 0 < width) (height : Option Int) :
    frameLabel (some width) height = ladderLabel widthLadder width := by
  unfold frameLabel resolutionLabel
  rw [known?_of_pos h]
  exact widthLabel_eq width

/-- A frame of which only the height is known has the label of the height. -/
theorem frameLabel_of_height {width : Option Int} {height : Int} (hwidth : known? width = none)
    (h : 0 < height) : frameLabel width (some height) = ladderLabel heightLadder height := by
  unfold frameLabel resolutionLabel
  rw [hwidth, known?_of_pos h]
  exact heightLabel_eq height

/-- **Resolutions go by the size of the frame.**  A frame that is wider is of no lower tier,
    whatever the heights are, and so is one that is higher where no width is known.  Only a frame of
    which neither measure is known has the tier zero, and frames of sixteen to nine have the same
    label by their width as by their height. -/
theorem frameTier_monotone :
    (∀ (width width' : Int) (height height' : Option Int), 0 < width → width ≤ width' →
      resolutionTier (frameLabel (some width) height) ≤
        resolutionTier (frameLabel (some width') height')) ∧
    (∀ (height height' : Int) (width width' : Option Int),
      width = none ∨ width = some 0 → width' = none ∨ width' = some 0 → 0 < height →
      height ≤ height' →
      resolutionTier (frameLabel width (some height)) ≤
        resolutionTier (frameLabel width' (some height'))) ∧
    (∀ width height : Option Int, resolutionTier (frameLabel width height) = 0 ↔
      (width = none ∨ width = some 0) ∧ (height = none ∨ height = some 0)) ∧
    ∀ k : Int, 0 < k → frameLabel (some (16 * k)) none = frameLabel none (some (9 * k)) := by
  refine ⟨?_, ?_, ?_, ?_⟩
  · intro width width' height height' hpositive hwider
    rw [frameLabel_of_width hpositive, frameLabel_of_width (Int.lt_of_lt_of_le hpositive hwider)]
    exact tier_ladderLabel_mono widthLadder_descends hwider
  · intro height height' width width' hwidth hwidth' hpositive hhigher
    rw [frameLabel_of_height (known?_eq_none_iff.mpr hwidth) hpositive,
      frameLabel_of_height (known?_eq_none_iff.mpr hwidth') (Int.lt_of_lt_of_le hpositive hhigher)]
    exact tier_ladderLabel_mono heightLadder_descends hhigher
  · intro width height
    rw [← known?_eq_none_iff, ← known?_eq_none_iff, ← frameLabel_eq_unknown_iff]
    -- No other label of the vocabulary is of the tier of the unknown one.
    refine ⟨fun hzero => ?_, fun hunknown => congrArg resolutionTier hunknown⟩
    exact resolutionTier_injOn _ (frameLabel_mem width height) _ unknownLabel_mem hzero
  · intro k hpositive
    rw [frameLabel_of_width (by omega), frameLabel_of_height rfl (by omega)]
    apply ladderLabel_congr
    -- The lowest steps are not quite of sixteen to nine, but no multiple lies between them.
    simp only [widthLadder, heightLadder, List.forall₂_cons, List.forall₂_nil_left_iff, and_true]
    omega

/-- At the lowest step, which the two ladders have at 854 and 480: a frame one column short of it is
    of no higher tier than one that reaches it, so is a frame one line short of it, and the first
    frame of sixteen to nine that reaches it by its width does so by its height. -/
theorem frameTier_monotone_lowest :
    resolutionTier (frameLabel (some 853) (some 2160)) ≤
        resolutionTier (frameLabel (some 854) none) ∧
      resolutionTier (frameLabel none (some 479)) ≤
        resolutionTier (frameLabel (some 0) (some 480)) ∧
      resolutionTier (frameLabel (some 0) none) = 0 ∧
      frameLabel (some (16 * 54)) none = frameLabel none (some (9 * 54)) := by
  obtain ⟨hwidths, hheights, hzero, hagree⟩ := frameTier_monotone
  exact ⟨hwidths 853 854 (some 2160) none (by decide) (by decide),
    hheights 479 480 none (some 0) (.inl rfl) (.inr rfl) (by decide) (by decide),
    (hzero (some 0) none).mpr ⟨.inr rfl, .inl rfl⟩, hagree 54 (by decide)⟩

end StreamWatch
