import Mathlib.Data.List.Basic
import StreamWatch.Resolution

namespace StreamWatch

/-!
# The vocabulary of resolutions

Two labels of the vocabulary are never of one tier, but a label outside of it ranks with the unknown
one:

* `resolutionLabels` — the vocabulary, and `IsMeasured`, what is in it of a frame that is measured;
* `frameLabel_mem`, `frameLabel_eq_unknown_iff` — a frame has a label of the vocabulary, and the
  unknown one exactly if neither of its measures is known;
* `resolutionTier_eq_iff` — hence the label of a frame is of the tier of another one exactly if it is
  that label, or it is the unknown one and the other is none of the vocabulary.
-/

/-- The labels that have a tier. -/
def resolutionLabels : List String := resolutionTiers.map Prod.fst

/-! ### Tiers -/

/-- The unknown label has a tier. -/
theorem unknownLabel_mem : unknownLabel ∈ resolutionLabels := by decide

/-- No two labels of the vocabulary are of one tier. -/
theorem resolutionTier_injOn : ∀ label ∈ resolutionLabels, ∀ other ∈ resolutionLabels,
    resolutionTier label = resolutionTier other → label = other := by
  decide

/-- A label outside of the vocabulary ranks with the unknown one. -/
theorem resolutionTier_of_not_mem {label : String} (h : label ∉ resolutionLabels) :
    resolutionTier label = resolutionTier unknownLabel := by
  have hnone : resolutionTiers.lookup label = none := by
    rw [List.lookup_eq_none_iff]
    intro entry hentry
    rw [bne_iff_ne]
    rintro rfl
    exact h (List.mem_map_of_mem hentry)
  rw [resolutionTier, hnone]
  rfl

/-- A label of the vocabulary is of the tier of another one exactly if it is that label, or the
    unknown one where the other has no tier of its own. -/
theorem resolutionTier_eq_iff {label other : String} (h : label ∈ resolutionLabels) :
    resolutionTier label = resolutionTier other ↔
      label = other ∨ (label = unknownLabel ∧ other ∉ resolutionLabels) := by
  by_cases hother : other ∈ resolutionLabels
  · have hsame : resolutionTier label = resolutionTier other ↔ label = other :=
      ⟨resolutionTier_injOn label h other hother, congrArg resolutionTier⟩
    rw [hsame]
    exact ⟨.inl, fun hcases => hcases.resolve_right fun ⟨_, houtside⟩ => houtside hother⟩
  · rw [resolutionTier_of_not_mem hother]
    constructor
    · intro htier
      exact .inr ⟨resolutionTier_injOn label h unknownLabel unknownLabel_mem htier, hother⟩
    · rintro (rfl | ⟨rfl, -⟩)
      · exact absurd h hother
      · rfl

/-! ### Frames -/

/-- Is a label one of a measure: in the vocabulary, and not the unknown one? -/
def IsMeasured (label : String) : Prop := label ∈ resolutionLabels ∧ label ≠ unknownLabel

instance : DecidablePred IsMeasured := fun label =>
  inferInstanceAs (Decidable (label ∈ resolutionLabels ∧ label ≠ unknownLabel))

/-- Every width has a label. -/
theorem isMeasured_widthLabel (width : Int) : IsMeasured (widthLabel width) := by
  unfold widthLabel
  split_ifs <;> decide

/-- Every height has a label. -/
theorem isMeasured_heightLabel (height : Int) : IsMeasured (heightLabel height) := by
  unfold heightLabel
  split_ifs <;> decide

/-- The label of a frame is one of a measure, or the unknown one where no measure is known. -/
theorem frameLabel_cases (width height : Option Int) :
    IsMeasured (frameLabel width height) ∧ ¬ (known? width = none ∧ known? height = none) ∨
      frameLabel width height = unknownLabel ∧ known? width = none ∧ known? height = none := by
  unfold frameLabel resolutionLabel
  cases known? width with
  | some w => exact .inl ⟨isMeasured_widthLabel w, nofun⟩
  | none =>
    cases known? height with
    | some h => exact .inl ⟨isMeasured_heightLabel h, nofun⟩
    | none => exact .inr ⟨rfl, rfl, rfl⟩

/-- The label of a frame is one of the vocabulary. -/
theorem frameLabel_mem (width height : Option Int) : frameLabel width height ∈ resolutionLabels := by
  rcases frameLabel_cases width height with ⟨⟨hmem, -⟩, -⟩ | ⟨hunknown, -⟩
  · exact hmem
  · rw [hunknown]
    exact unknownLabel_mem

/-- The label of a frame is unknown exactly if both of its measures are. -/
theorem frameLabel_eq_unknown_iff {width height : Option Int} :
    frameLabel width height = unknownLabel ↔ known? width = none ∧ known? height = none := by
  rcases frameLabel_cases width height with ⟨⟨-, hmeasured⟩, hknown⟩ | ⟨hunknown, hnone⟩
  · exact ⟨fun h => absurd h hmeasured, fun h => absurd h hknown⟩
  · exact ⟨fun _ => hnone, fun _ => hunknown⟩

end StreamWatch
