import StreamWatch.Proofs.Validation.Scalar
import StreamWatch.Validation.Rule

namespace StreamWatch

open Validation

/-!
# Rules settle

* `ExpectedItem.returns`, `ExpectedValue.returns` — an expected value keeps its kind, and the items
  of a list have one by then;
* `Condition.returns`, `ConditionGroup.returns`, `RuleConditions.returns` — conditions are read
  back, from the settings of one to the groups of a rule;
* `Action.returns`, `Action.returns_ofKind` — actions are read back, whether or not their kind is
  known before;
* `Rule.returns` — hence rules are.
-/

/-! ### Conditions -/

/-- Items of expected values are read back. -/
theorem ExpectedItem.returns :
    Returns ofGiven (fun item => item.toDatum.given) fun _ => True where
  valid _ := trivial
  again {item} _ := by cases item <;> rfl

/-- Expected values are read back. -/
theorem ExpectedValue.returns :
    Returns ofGiven (fun value => value.toDatum.given) fun _ => True where
  valid _ := trivial
  again {value} _ := by
    cases value with
    | list items =>
      have hvalid : ∀ item ∈ items, True := fun _ _ => trivial
      have hitems := ExpectedItem.returns.itemsFrom_written 0 hvalid
      simp only [toDatum, Datum.given_list, List.map_map, ofGiven]
      simp only [Function.comp_def, hitems, Checked.under_accepted]
    | _ => rfl

/-- Does a condition look back for some hours, if it says how far? -/
def ConditionParams.IsValid (p : ConditionParams) : Prop := ∀ hours ∈ p.windowHours, 0 < hours

/-- The settings of a condition are read back. -/
theorem ConditionParams.returns : Returns ofGiven toGiven IsValid where
  valid := valid_of_record fun entries => by
    simp only [Checked.ensures_map]
    exact fun hours hhours => (intAbove_returns 0).of_optional rfl hhours
  again {p} hp := by
    simp [ofGiven, toGiven, ((intAbove_returns 0).nullable rfl).again hp]

/-- Are the settings of a condition valid, if it has any? -/
def Condition.IsValid (c : Condition) : Prop := ∀ params ∈ c.params, params.IsValid

/-- Conditions are read back. -/
theorem Condition.returns : Returns ofGiven toGiven IsValid where
  valid := valid_of_record fun entries => by
    simp only [Checked.ensures_map, Checked.ensures_seq]
    intro field _ operator _ value _ params hparams
    exact ConditionParams.returns.of_optional rfl hparams
  again {c} hc := by
    simp [ofGiven, toGiven, ExpectedValue.returns.again (x := c.value) trivial,
      (ConditionParams.returns.nullable rfl).again hc]

/-- Are the conditions of a group valid? -/
def ConditionGroup.IsValid (g : ConditionGroup) : Prop := ∀ c ∈ g.conditions, c.IsValid

/-- Groups are read back. -/
theorem ConditionGroup.returns : Returns ofGiven toGiven IsValid where
  valid := valid_of_record fun entries => by
    simp only [Checked.ensures_map]
    exact fun conditions hconditions => Condition.returns.of_items hconditions
  again {g} hg := by
    simp [ofGiven, toGiven, Condition.returns.list.again hg]

/-- Are the groups of a rule's conditions valid? -/
def RuleConditions.IsValid (c : RuleConditions) : Prop := ∀ g ∈ c.groups, g.IsValid

/-- The conditions of a rule are read back. -/
theorem RuleConditions.returns : Returns ofGiven toGiven IsValid where
  valid := valid_of_record fun entries => by
    simp only [Checked.ensures_map]
    exact fun groups hgroups => ConditionGroup.returns.of_items hgroups
  again {c} hc := by
    simp [ofGiven, toGiven, ConditionGroup.returns.list.again hc]

/-! ### Actions -/

/-- The names of severities. -/
theorem Severity.oneOf_returns :
    Returns (oneOf .literal name [.low, .warning, .high]) (fun severity => .text severity.name)
      (· ∈ [low, warning, high]) :=
  Validation.oneOf_returns .literal name (by decide)

/-- The names of channels. -/
theorem Channel.oneOf_returns :
    Returns (oneOf .literal name [.push, .discord, .email, .webhook])
      (fun channel => .text channel.name) (· ∈ [push, discord, email, webhook]) :=
  Validation.oneOf_returns .literal name (by decide)

/-- The name of a kind of action. -/
theorem ActionKind.oneOf_returns (kind : ActionKind) :
    Returns (oneOf .literal name [kind]) (fun kind => .text kind.name) (· ∈ [kind]) :=
  Validation.oneOf_returns .literal name fun _ hv _ hw _ =>
    (List.mem_singleton.mp hv).trans (List.mem_singleton.mp hw).symm

/-- Every kind of action is one of a list. -/
theorem ActionKind.mem_all (kind : ActionKind) : kind ∈ all := by cases kind <;> decide

/-- The tags of actions. -/
theorem ActionKind.tag_returns :
    Returns (oneOf .tagInvalid name all) (fun kind => .text kind.name) (· ∈ all) :=
  Validation.oneOf_returns .tagInvalid name (by decide)

namespace Action

/-- The channels of a notice, of which there is one at least. -/
theorem channels_returns :
    Returns (fun d =>
        (list (oneOf .literal Channel.name [.push, .discord, .email, .webhook]) d).andThen
          (Checked.guarded (fun channels => !channels.isEmpty) .tooShort))
      (.ofList fun channel => .text channel.name)
      fun channels => (∀ channel ∈ channels, channel ∈ [.push, .discord, .email, .webhook]) ∧
        (!channels.isEmpty) = true :=
  Channel.oneOf_returns.list.guarded _ .tooShort

/-- Are the parts of an action within their bounds? -/
def IsValid : Action → Prop
  | createViolation _ cooldown => ∀ minutes ∈ cooldown, 0 < minutes
  | logOnly message => ∀ s ∈ message, 0 ≤ s.length ∧ s.length ≤ 500
  | notify channels cooldown => (!channels.isEmpty) = true ∧ ∀ minutes ∈ cooldown, 0 < minutes
  | adjustTrust amount => -100 ≤ amount ∧ amount ≤ 100
  | setTrust value => 0 ≤ value ∧ value ≤ 100
  | resetTrust => True
  | killStream delay _ cooldown =>
    (∀ seconds ∈ delay, 0 ≤ seconds ∧ seconds ≤ 300) ∧ ∀ minutes ∈ cooldown, 0 < minutes
  | messageClient message => 1 ≤ message.length ∧ message.length ≤ 500

/-- Is an action of a kind, with its parts within their bounds? -/
def IsValidOf (kind : ActionKind) (a : Action) : Prop := a.kind = kind ∧ a.IsValid

/-- What is read of the fields of an action of a kind. -/
theorem isValid_of_fieldsOf (kind : ActionKind) (entries : Parts) :
    (fieldsOf kind entries).Ensures (IsValidOf kind) := by
  have hcooldown : ∀ cooldown, cooldownField entries = .accepted cooldown →
      ∀ minutes ∈ cooldown, 0 < minutes := fun _ h => (intAbove_returns 0).of_optional rfl h
  cases kind with
  | createViolation =>
    simp only [fieldsOf, Checked.ensures_map, Checked.ensures_seq]
    exact fun severity _ cooldown h => ⟨rfl, hcooldown cooldown h⟩
  | logOnly =>
    simp only [fieldsOf, Checked.ensures_map]
    exact fun message h => ⟨rfl, (textOfLength_returns 0 500).of_optional rfl h⟩
  | notify =>
    simp only [fieldsOf, Checked.ensures_map, Checked.ensures_seq]
    exact fun channels hchannels cooldown h =>
      ⟨rfl, (channels_returns.of_required hchannels).2, hcooldown cooldown h⟩
  | adjustTrust =>
    simp only [fieldsOf, Checked.ensures_map]
    exact fun amount h => ⟨rfl, (intBetween_returns (-100) 100).of_required h⟩
  | setTrust =>
    simp only [fieldsOf, Checked.ensures_map]
    exact fun value h => ⟨rfl, (intBetween_returns 0 100).of_required h⟩
  | resetTrust => exact fun a h => Checked.accepted.inj h ▸ ⟨rfl, trivial⟩
  | killStream =>
    simp only [fieldsOf, Checked.ensures_map, Checked.ensures_seq]
    exact fun delay hdelay confirmation _ cooldown h =>
      ⟨rfl, (intBetween_returns 0 300).of_optional rfl hdelay, hcooldown cooldown h⟩
  | messageClient =>
    simp only [fieldsOf, Checked.ensures_map]
    exact fun message h => ⟨rfl, (textOfLength_returns 1 500).of_required h⟩

/-- The fields of an action are read back. -/
theorem fieldsOf_written {a : Action} (ha : a.IsValid) (tag : Given) :
    fieldsOf a.kind (("type", tag) :: a.entries) = .accepted a := by
  have hcooldown := fun {minutes} h => ((intAbove_returns 0).nullable rfl).again (x := minutes) h
  cases a with
  | createViolation severity cooldown =>
    simp [fieldsOf, kind, entries, cooldownField, hcooldown ha,
      Severity.oneOf_returns.again (x := severity) (by cases severity <;> decide)]
  | logOnly message =>
    simp [fieldsOf, kind, entries, ((textOfLength_returns 0 500).nullable rfl).again ha]
  | notify channels cooldown =>
    have hchannels : ∀ channel ∈ channels, channel ∈ [Channel.push, .discord, .email, .webhook] :=
      fun channel _ => by cases channel <;> decide
    have hread := channels_returns.again ⟨hchannels, ha.1⟩
    simp [fieldsOf, kind, entries, cooldownField, hcooldown ha.2, hread]
  | adjustTrust amount =>
    simp [fieldsOf, kind, entries, (intBetween_returns (-100) 100).again ha]
  | setTrust value =>
    simp [fieldsOf, kind, entries, (intBetween_returns 0 100).again ha]
  | resetTrust => rfl
  | killStream delay confirmation cooldown =>
    simp [fieldsOf, kind, entries, cooldownField,
      ((intBetween_returns 0 300).nullable rfl).again ha.1, hcooldown ha.2]
  | messageClient message =>
    simp [fieldsOf, kind, entries, (textOfLength_returns 1 500).again ha]

/-- Actions whose kind is known are read back. -/
theorem returns_ofKind (kind : ActionKind) :
    Returns (ofGivenOfKind kind) toGiven (IsValidOf kind) where
  valid := valid_of_record fun entries => by
    simp only [Checked.ensures_map, Checked.ensures_seq]
    exact fun _ _ a ha => isValid_of_fieldsOf kind entries a ha
  again {a} ha := by
    obtain ⟨rfl, ha⟩ := ha
    simp [ofGivenOfKind, toGiven, fieldsOf_written ha,
      (ActionKind.oneOf_returns a.kind).again (List.mem_singleton_self _)]

/-- **Actions are read back.** -/
theorem returns : Returns ofGiven toGiven IsValid where
  valid {d a} hread := by
    cases d with
    | record entries =>
      simp only [ofGiven] at hread
      split at hread
      · cases hread
      · split at hread
        · exact (isValid_of_fieldsOf _ entries a (Checked.under_eq_accepted_iff.mp hread)).2
        · cases hread
    | _ => cases hread
  again {a} ha := by
    have htag : Table.get? "type" (("type", Given.text a.kind.name) :: a.entries) =
        some (.text a.kind.name) := if_pos rfl
    simp [ofGiven, toGiven, htag, fieldsOf_written ha, ActionKind.tag_returns.again a.kind.mem_all]

end Action

/-! ### Rules -/

/-- Are the actions of a rule valid? -/
def RuleActions.IsValid (a : RuleActions) : Prop := ∀ action ∈ a.actions, action.IsValid

/-- The actions of a rule are read back. -/
theorem RuleActions.returns : Returns ofGiven toGiven IsValid where
  valid := valid_of_record fun entries => by
    simp only [Checked.ensures_map]
    exact fun actions hactions => Action.returns.of_items hactions
  again {a} ha := by
    simp [ofGiven, toGiven, Action.returns.list.again ha]

/-- Are the conditions and the actions of a rule valid, if it has any? -/
structure Rule.IsValid (rule : Rule) : Prop where
  conditions : ∀ conditions ∈ rule.conditions, conditions.IsValid
  actions : ∀ actions ∈ rule.actions, actions.IsValid

/-- The settings of a rule in the older form are read back as they are. -/
theorem anything_returns :
    Returns (entriesOf anything) .record fun _ : Parts => True where
  valid _ := trivial
  again {entries} _ := by
    have hanything : Returns anything id fun _ => True := ⟨fun _ => trivial, fun _ => rfl⟩
    have hread := hanything.entriesOf.again (x := entries) fun _ _ => trivial
    rwa [show (entries.map fun entry => (entry.1, id entry.2)) = entries from
      List.map_id entries] at hread

/-- **Rules are read back.** -/
theorem Rule.returns : Returns ofGiven toGiven IsValid where
  valid := valid_of_record fun entries => by
    simp only [Checked.ensures_map, Checked.ensures_seq]
    intro id _ name _ description _ active _ server _ conditions hconditions actions hactions
      type _ params _
    exact ⟨RuleConditions.returns.of_optional rfl hconditions,
      RuleActions.returns.of_optional rfl hactions⟩
  again {rule} hrule := by
    simp [ofGiven, toGiven, (RuleConditions.returns.nullable rfl).again hrule.conditions,
      (RuleActions.returns.nullable rfl).again hrule.actions,
      (anything_returns.nullable rfl).again (x := rule.legacyParams) fun _ _ => trivial]

end StreamWatch
