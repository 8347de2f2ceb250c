import StreamWatch.Field.Observe
import StreamWatch.Proofs.Comparison
import StreamWatch.Proofs.Fault

namespace StreamWatch

/-!
# Operators and their negations on every field

An operator and its negation look at the same observation, but not all observations are compared in
the same way, and an address that is not there is neither in a block nor out of it:

* `Condition.asking` — one condition by several operators and with several values;
* `ConditionField.observe_cases` — which kind of observation a field makes;
* `Observation.meets_neq`, `Observation.meets_notIn` — an observation that is compared with a value
  at all meets a condition or its negation, and not both;
* `ConditionField.negations` — hence a field answers by the opposite where the operator is negated,
  or has the same fault, and what it does not compare meets neither.
-/

/-- A condition that asks by an operator for a value, and is as another one otherwise. -/
def Condition.asking (condition : Condition) (op : Operator) (value : ExpectedValue) : Condition :=
  { condition with operator := op.name, value := value }

/-! ### What a field observes -/

/-- Two fields observe a resolution and one an address, without a fault; all others observe plain
    values. -/
theorem ConditionField.observe_cases {field : ConditionField} {c : SessionContext} {hours : Int}
    {observed : Observation} (h : field.observe c hours = .ok observed) :
    (∃ value, observed = .plain value) ∨
      (field = sourceResolution ∧ observed = .resolution c.session.sourceLabel) ∨
      (field = outputResolution ∧ observed = .resolution c.session.outputLabel) ∨
      (field = addressInRange ∧ observed = .address c.session.ipAddress) := by
  cases field
  case activeSessionDistance | travelSpeed | uniqueAddresses | uniqueDevices | sourceBitrate =>
    -- These are calculated, and there may be a fault instead.
    obtain ⟨value, -, rfl⟩ := eq_ok_of_map h
    exact .inl ⟨_, rfl⟩
  case sourceResolution => exact .inr (.inl ⟨rfl, (Except.ok.inj h).symm⟩)
  case outputResolution => exact .inr (.inr (.inl ⟨rfl, (Except.ok.inj h).symm⟩))
  case addressInRange => exact .inr (.inr (.inr ⟨rfl, (Except.ok.inj h).symm⟩))
  all_goals exact .inl ⟨_, (Except.ok.inj h).symm⟩

/-! ### Addresses -/

section Addresses

variable {ip : String}

/-- An address is looked for in a block, or in the blocks of a list. -/
theorem addressMeets_of_ne (hip : ip ≠ "") (block : String) (items : List ExpectedItem) :
    addressMeets ip Operator.eq.name (.text block) = Network.inBlockText ip block ∧
      addressMeets ip Operator.neq.name (.text block) = !Network.inBlockText ip block ∧
      addressMeets ip Operator.isIn.name (.list items) = items.any (inBlockItem ip) ∧
      addressMeets ip Operator.notIn.name (.list items) = !items.any (inBlockItem ip) := by
  simp [addressMeets, hip]

/-- An address is equal to no block where no block is given, and does not differ from it. -/
theorem addressMeets_noBlock {op : Operator} (hop : op ∈ [Operator.eq, .neq])
    {value : ExpectedValue} (hvalue : ∀ block, value ≠ .text block) :
    addressMeets ip op.name value = false := by
  unfold addressMeets
  split
  · rfl
  · rw [Operator.ofName?_name]
    simp only [List.mem_cons, List.not_mem_nil, or_false] at hop
    rcases hop with rfl | rfl
    all_goals
      cases value with
      | text block => exact absurd rfl (hvalue block)
      | _ => rfl

end Addresses

/-! ### Negations of an observation -/

namespace Observation

/-- Is an observation compared with a value for equality?  An address has to be there, and is only
    looked for in a block. -/
def TestsEquality : Observation → ExpectedValue → Prop
  | .address ip, value => ip ≠ "" ∧ ∃ block, value = .text block
  | _, _ => True

/-- Is an observation looked for in lists?  An address has to be there. -/
def TestsMembership : Observation → Prop
  | .address ip => ip ≠ ""
  | _ => True

variable {observed : Observation}

/-- What is compared with a value differs from it or is equal to it. -/
theorem meets_neq {value : ExpectedValue} (h : observed.TestsEquality value)
    (condition : Condition) :
    observed.meets (condition.asking .neq value) =
      !observed.meets (condition.asking .eq value) := by
  cases observed with
  | plain d => rfl
  | resolution label => rfl
  | address ip =>
    obtain ⟨hip, block, rfl⟩ := h
    obtain ⟨heq, hneq, -, -⟩ := addressMeets_of_ne hip block []
    show addressMeets ip Operator.neq.name (.text block) =
      !addressMeets ip Operator.eq.name (.text block)
    rw [hneq, heq]

/-- What is looked for in a list is in it or not in it. -/
theorem meets_notIn (h : observed.TestsMembership) (condition : Condition)
    (items : List ExpectedItem) :
    observed.meets (condition.asking .notIn (.list items)) =
      !observed.meets (condition.asking .isIn (.list items)) := by
  cases observed with
  | plain d => rfl
  | resolution label => rfl
  | address ip =>
    obtain ⟨-, -, hin, hnotIn⟩ := addressMeets_of_ne h "" items
    show addressMeets ip Operator.notIn.name (.list items) =
      !addressMeets ip Operator.isIn.name (.list items)
    rw [hnotIn, hin]

end Observation

/-! ### Negations of a field -/

namespace ConditionField

section Negated

variable {field : ConditionField} {c : SessionContext} {condition : Condition} {hours : Int}
  {observed : Observation}

/-- All fields but the address are compared with every value for equality. -/
theorem testsEquality_of_observe (h : field.observe c hours = .ok observed) {value : ExpectedValue}
    (haddress : field = addressInRange → c.session.ipAddress ≠ "" ∧ ∃ block, value = .text block) :
    observed.TestsEquality value := by
  rcases observe_cases h with ⟨_, rfl⟩ | ⟨rfl, rfl⟩ | ⟨rfl, rfl⟩ | ⟨hfield, rfl⟩
  case inr.inr.inr => exact haddress hfield
  all_goals trivial

/-- All fields but the address are always looked for in lists. -/
theorem testsMembership_of_observe (h : field.observe c hours = .ok observed)
    (haddress : field = addressInRange → c.session.ipAddress ≠ "") : observed.TestsMembership := by
  rcases observe_cases h with ⟨_, rfl⟩ | ⟨rfl, rfl⟩ | ⟨rfl, rfl⟩ | ⟨hfield, rfl⟩
  case inr.inr.inr => exact haddress hfield
  all_goals trivial

/-- If all that a field observes meets the one of two operators or the other, the field answers them
    by opposites, or has the same fault. -/
theorem evaluate_eq_map_not {op negated : Operator} {value : ExpectedValue}
    (hopposite : ∀ observed, field.observe c condition.windowHours = .ok observed →
      observed.meets (condition.asking negated value) =
        !observed.meets (condition.asking op value)) :
    field.evaluate c (condition.asking negated value) =
      (field.evaluate c (condition.asking op value)).map not := by
  show (field.observe c condition.windowHours).map _ =
    ((field.observe c condition.windowHours).map _).map not
  cases hobs : field.observe c condition.windowHours with
  | error fault => rfl
  | ok observed => exact congrArg Except.ok (hopposite observed hobs)

end Negated

/-- **Negations on every field.**  Whether a value differs is the opposite of whether it is equal,
    and whether it is not in a list the opposite of whether it is in it, and where the one has a
    fault so has the other.  The address alone is not always compared: none that is empty meets any
    of the four, and none is equal to what is no block or differs from it. -/
theorem negations (field : ConditionField) (c : SessionContext) (condition : Condition) :
    (∀ value, (field = addressInRange → c.session.ipAddress ≠ "" ∧ ∃ block, value = .text block) →
      field.evaluate c (condition.asking .neq value) =
        (field.evaluate c (condition.asking .eq value)).map not) ∧
    (∀ items, (field = addressInRange → c.session.ipAddress ≠ "") →
      field.evaluate c (condition.asking .notIn (.list items)) =
        (field.evaluate c (condition.asking .isIn (.list items))).map not) ∧
    (field = addressInRange →
      (c.session.ipAddress = "" → ∀ op ∈ [Operator.eq, .neq, .isIn, .notIn], ∀ value,
        field.evaluate c (condition.asking op value) = .ok false) ∧
      ∀ value, (∀ block, value ≠ .text block) → ∀ op ∈ [Operator.eq, .neq],
        field.evaluate c (condition.asking op value) = .ok false) := by
  refine ⟨?_, ?_, ?_⟩
  · intro value hcompared
    apply evaluate_eq_map_not
    intro observed hobs
    exact Observation.meets_neq (testsEquality_of_observe hobs hcompared) condition
  · intro items hcompared
    apply evaluate_eq_map_not
    intro observed hobs
    exact Observation.meets_notIn (testsMembership_of_observe hobs hcompared) condition items
  · rintro rfl
    constructor
    · intro hip op _ value
      show Except.ok (addressMeets c.session.ipAddress op.name value) = .ok false
      rw [hip]
      rfl
    · intro value hvalue op hop
      show Except.ok (addressMeets c.session.ipAddress op.name value) = .ok false
      rw [addressMeets_noBlock hop hvalue]

end ConditionField

end StreamWatch
