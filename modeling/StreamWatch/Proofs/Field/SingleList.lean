import StreamWatch.Proofs.Evaluation.Agreement
import StreamWatch.Proofs.Field.Operators
import StreamWatch.Proofs.Number.Order
import StreamWatch.Proofs.Resolution

namespace StreamWatch

/-!
# Lists of one item

To be in a list of one item is to be equal to that item, unless the one is tested by labels and the
other by tiers:

* `satisfies_single` — what is true of data;
* `Observation.Misranks` — an unknown resolution ranks with a label outside of the vocabulary, and is
  not that label;
* `Observation.meets_single_iff` — an observation meets both conditions or neither of them, unless it
  misranks the item;
* `ConditionField.singleList_iff` — hence a field answers alike, or has the same fault, unless it
  looks at a frame without measures for a label that there is not.
-/

/-- An item as the only value that is expected. -/
def ExpectedItem.single : ExpectedItem → ExpectedValue
  | .int n => .int n
  | .real x => .real x
  | .text s => .text s

/-- Is an item a text that is no label of a resolution? -/
def ExpectedItem.IsUnlabelled : ExpectedItem → Prop
  | .text s => s ∉ resolutionLabels
  | _ => False

/-- An item is the same datum by itself as in a list. -/
theorem ExpectedItem.toDatum_single (item : ExpectedItem) : item.single.toDatum = item.toDatum := by
  cases item <;> rfl

/-- A datum is equal to another one exactly if it is in the list of that one. -/
theorem satisfies_single (a e : Datum) :
    satisfies a Operator.eq.name e = satisfies a Operator.isIn.name (.list [e]) ∧
      satisfies a Operator.neq.name e = satisfies a Operator.notIn.name (.list [e]) := by
  simp [satisfies_name, Operator.holds, strictlyAmong]

/-! ### Observations -/

namespace Observation

/-- Does an observation take nothing but texts? -/
def TakesTexts : Observation → Prop
  | .plain _ => False
  | _ => True

/-- Does an observation rank with an item that it is not?  So does an unknown resolution with a text
    that is no label. -/
def Misranks : Observation → ExpectedItem → Prop
  | .resolution label, item => label = unknownLabel ∧ item.IsUnlabelled
  | _, _ => False

/-- Does an observation answer alike for an item and for the list of it, by the operators that ask
    for it and by those that ask for anything else? -/
def MeetsSingle (observed : Observation) (condition : Condition) (item : ExpectedItem) : Prop :=
  observed.meets (condition.asking .eq item.single) =
      observed.meets (condition.asking .isIn (.list [item])) ∧
    observed.meets (condition.asking .neq item.single) =
      observed.meets (condition.asking .notIn (.list [item]))

variable {observed : Observation} {condition : Condition} {item : ExpectedItem}

/-- Where negated operators are opposites, it is enough to answer alike to those that are not. -/
theorem meetsSingle_iff_of_tests (hequality : observed.TestsEquality item.single)
    (hmembership : observed.TestsMembership) :
    observed.MeetsSingle condition item ↔
      observed.meets (condition.asking .eq item.single) =
        observed.meets (condition.asking .isIn (.list [item])) := by
  rw [MeetsSingle, meets_neq hequality, meets_notIn hmembership, Bool.not_inj_iff, and_self]

/-- A plain value answers alike. -/
theorem meetsSingle_plain (d : Datum) : (plain d).MeetsSingle condition item := by
  show satisfies d Operator.eq.name item.single.toDatum =
      satisfies d Operator.isIn.name (.list [item.toDatum]) ∧
    satisfies d Operator.neq.name item.single.toDatum =
      satisfies d Operator.notIn.name (.list [item.toDatum])
  rw [item.toDatum_single]
  exact satisfies_single d item.toDatum

/-- An address answers alike for a block. -/
theorem meetsSingle_address (ip block : String) :
    (address ip).MeetsSingle condition (.text block) := by
  by_cases hip : ip = ""
  · -- It meets nothing at all.
    subst hip
    exact ⟨rfl, rfl⟩
  · have hequality : (address ip).TestsEquality (ExpectedItem.text block).single :=
      ⟨hip, block, rfl⟩
    apply (meetsSingle_iff_of_tests hequality hip).mpr
    obtain ⟨hequal, -, hin, -⟩ := addressMeets_of_ne hip block [.text block]
    show addressMeets ip Operator.eq.name (.text block) =
      addressMeets ip Operator.isIn.name (.list [.text block])
    rw [hequal, hin, List.any_cons, List.any_nil, Bool.or_false]
    rfl

/-- A resolution of the vocabulary answers alike for all labels that it does not misrank. -/
theorem meetsSingle_resolution_iff {label : String} (h : label ∈ resolutionLabels)
    (other : String) :
    (resolution label).MeetsSingle condition (.text other) ↔
      ¬ (resolution label).Misranks (.text other) := by
  have hequality : (resolution label).TestsEquality (ExpectedItem.text other).single := trivial
  rw [meetsSingle_iff_of_tests hequality trivial]
  have hequal : (resolution label).meets (condition.asking .eq (.text other)) = true ↔
      label = other ∨ (resolution label).Misranks (.text other) := by
    show satisfies (.int (resolutionTier label)) Operator.eq.name
      (.int (resolutionTier other)) = true ↔ _
    rw [satisfies_name]
    show (Number.int (resolutionTier label)).equals (.int (resolutionTier other)) = true ↔ _
    rw [Number.equals_int, decide_eq_true_iff]
    exact resolutionTier_eq_iff h
  have hin : (resolution label).meets (condition.asking .isIn (.list [.text other])) = true ↔
      label = other := by
    show satisfies (.text label) Operator.isIn.name (.list [.text other]) = true ↔ _
    rw [← (satisfies_single _ _).1, satisfies_name]
    exact beq_iff_eq
  show (resolution label).meets (condition.asking .eq (.text other)) = _ ↔ _
  rw [Bool.eq_iff_iff, hequal, hin]
  constructor
  · intro hsame hmisranks
    obtain rfl : label = other := hsame.mp (.inr hmisranks)
    exact hmisranks.2 h
  · intro hranks
    exact or_iff_left hranks

/-- What is observed answers alike for an item that it takes and for the list of it, unless it
    misranks the item. -/
theorem meetsSingle_iff (hitem : observed.TakesTexts → ∃ text, item = .text text)
    (hlabel : ∀ label, observed = .resolution label → label ∈ resolutionLabels) :
    observed.MeetsSingle condition item ↔ ¬ observed.Misranks item := by
  cases observed with
  | plain d => exact iff_of_true (meetsSingle_plain d) id
  | resolution label =>
    obtain ⟨other, rfl⟩ := hitem trivial
    exact meetsSingle_resolution_iff (hlabel label rfl) other
  | address ip =>
    obtain ⟨block, rfl⟩ := hitem trivial
    exact iff_of_true (meetsSingle_address ip block) id

end Observation

/-! ### Fields -/

namespace ConditionField

/-- Does a field take nothing but texts? -/
def TakesTexts (field : ConditionField) : Prop :=
  field ∈ [sourceResolution, outputResolution, addressInRange]

/-- Does a field look at a frame of which no measure is known? -/
def LacksFrame (field : ConditionField) (s : Session) : Prop :=
  (field = sourceResolution ∧ known? s.sourceWidth = none ∧ known? s.sourceHeight = none) ∨
    (field = outputResolution ∧ known? s.streamWidth = none ∧ known? s.streamHeight = none)

variable {field : ConditionField} {c : SessionContext} {condition : Condition}
  {item : ExpectedItem} {hours : Int} {observed : Observation}

/-- Two conditions that look back alike are answered alike exactly if all that is observed meets both
    or neither. -/
theorem evaluate_asking_eq_iff {op op' : Operator} {value value' : ExpectedValue} :
    field.evaluate c (condition.asking op value) =
        field.evaluate c (condition.asking op' value') ↔
      ∀ observed, field.observe c condition.windowHours = .ok observed →
        observed.meets (condition.asking op value) =
          observed.meets (condition.asking op' value') := by
  show (field.observe c condition.windowHours).map _ =
    (field.observe c condition.windowHours).map _ ↔ _
  cases field.observe c condition.windowHours with
  | error fault => exact iff_of_true rfl nofun
  | ok observed =>
    constructor
    · rintro hsame _ ⟨⟩
      exact Except.ok.inj hsame
    · intro hsame
      exact congrArg Except.ok (hsame observed rfl)

/-- A resolution that is observed has a label of the vocabulary. -/
theorem mem_resolutionLabels_of_observe (h : field.observe c hours = .ok observed) (label : String)
    (hlabel : observed = .resolution label) : label ∈ resolutionLabels := by
  subst hlabel
  rcases observe_cases h with ⟨_, hplain⟩ | ⟨-, hsource⟩ | ⟨-, houtput⟩ | ⟨-, haddress⟩
  · cases hplain
  · cases hsource
    exact frameLabel_mem ..
  · cases houtput
    exact frameLabel_mem ..
  · cases haddress

/-- A field takes texts alone where its observations do. -/
theorem takesTexts_of_observe (h : field.observe c hours = .ok observed)
    (htexts : observed.TakesTexts) : field.TakesTexts := by
  rcases observe_cases h with ⟨_, rfl⟩ | ⟨rfl, -⟩ | ⟨rfl, -⟩ | ⟨rfl, -⟩
  · cases htexts
  all_goals simp [TakesTexts]

/-- What a field observes misranks an item exactly if it looks at a frame without measures and the
    item is a text that is no label. -/
theorem exists_misranks_iff (hours : Int) :
    (∃ observed, field.observe c hours = .ok observed ∧ observed.Misranks item) ↔
      field.LacksFrame c.session ∧ item.IsUnlabelled := by
  constructor
  · rintro ⟨observed, hobs, hmisranks⟩
    rcases observe_cases hobs with ⟨_, rfl⟩ | ⟨rfl, rfl⟩ | ⟨rfl, rfl⟩ | ⟨rfl, rfl⟩
    · cases hmisranks
    · exact ⟨.inl ⟨rfl, frameLabel_eq_unknown_iff.mp hmisranks.1⟩, hmisranks.2⟩
    · exact ⟨.inr ⟨rfl, frameLabel_eq_unknown_iff.mp hmisranks.1⟩, hmisranks.2⟩
    · cases hmisranks
  · rintro ⟨⟨rfl, hframe⟩ | ⟨rfl, hframe⟩, hitem⟩
    · exact ⟨_, rfl, frameLabel_eq_unknown_iff.mpr hframe, hitem⟩
    · exact ⟨_, rfl, frameLabel_eq_unknown_iff.mpr hframe, hitem⟩

/-- **Lists of one item.**  A field that is asked whether it is equal to an item answers as if it
    were asked whether it is in the list of it, and so does it for the negations, or has the same
    fault.  It does not exactly where it looks at the resolution of a frame of which no measure is
    known, for a text that is no label: that ranks with the unknown label, and is not in the list. -/
theorem singleList_iff (field : ConditionField) (c : SessionContext) (condition : Condition)
    (item : ExpectedItem) (hitem : field.TakesTexts → ∃ text, item = .text text) :
    (field.evaluate c (condition.asking .eq item.single) =
          field.evaluate c (condition.asking .isIn (.list [item])) ∧
        field.evaluate c (condition.asking .neq item.single) =
          field.evaluate c (condition.asking .notIn (.list [item]))) ↔
      ¬ (field.LacksFrame c.session ∧ item.IsUnlabelled) := by
  calc
    _ ↔ ∀ observed, field.observe c condition.windowHours = .ok observed →
        observed.MeetsSingle condition item := by
      rw [evaluate_asking_eq_iff, evaluate_asking_eq_iff]
      simp only [Observation.MeetsSingle, imp_and, forall_and]
    _ ↔ ∀ observed, field.observe c condition.windowHours = .ok observed →
        ¬ observed.Misranks item :=
      forall₂_congr fun observed hobs =>
        Observation.meetsSingle_iff (fun htexts => hitem (takesTexts_of_observe hobs htexts))
          (mem_resolutionLabels_of_observe hobs)
    _ ↔ _ := by
      rw [← exists_misranks_iff condition.windowHours]
      simp only [not_exists, not_and]

/-- A frame of the largest width is equal to its label, is in the list of that label, and not out
    of it. -/
theorem singleList_largest :
    let c : SessionContext :=
      { quietContext with session := { quietContext.session with sourceWidth := some 3840 } }
    let condition : Condition := ⟨"source_resolution", "eq", .text "4K", none⟩
    sourceResolution.TakesTexts ∧
      sourceResolution.evaluate c condition = .ok true ∧
      sourceResolution.evaluate c (condition.asking .isIn (.list [.text "4K"])) = .ok true ∧
      sourceResolution.evaluate c (condition.asking .notIn (.list [.text "4K"])) = .ok false := by
  intro c condition
  have hlabel : ¬ (sourceResolution.LacksFrame c.session ∧
      (ExpectedItem.text "4K").IsUnlabelled) := by
    rintro ⟨-, hunlabelled⟩
    exact hunlabelled (by decide)
  obtain ⟨hequal, hdiffers⟩ := (singleList_iff sourceResolution c condition (.text "4K")
    fun _ => ⟨"4K", rfl⟩).mpr hlabel
  exact ⟨by simp [TakesTexts], rfl, hequal.symm, hdiffers.symm⟩

/-- A frame without measures is equal to a label that there is not, and is not in the list of it. -/
theorem not_singleList_unlabelled :
    ¬ ∀ (field : ConditionField) (c : SessionContext) (condition : Condition) (item : ExpectedItem),
      (field.TakesTexts → ∃ text, item = .text text) →
        field.evaluate c (condition.asking .eq item.single) =
            field.evaluate c (condition.asking .isIn (.list [item])) ∧
          field.evaluate c (condition.asking .neq item.single) =
            field.evaluate c (condition.asking .notIn (.list [item])) := by
  intro hsame
  obtain ⟨hequal, -⟩ := hsame sourceResolution quietContext
    ⟨"source_resolution", "eq", .text "UHD", none⟩ (.text "UHD") fun _ => ⟨"UHD", rfl⟩
  have hranks : sourceResolution.evaluate quietContext
      ⟨"source_resolution", "eq", .text "UHD", none⟩ = .ok true := rfl
  have hlisted : sourceResolution.evaluate quietContext
      ⟨"source_resolution", "in", .list [.text "UHD"], none⟩ = .ok false := rfl
  cases hranks.symm.trans (hequal.trans hlisted)

end ConditionField

end StreamWatch
