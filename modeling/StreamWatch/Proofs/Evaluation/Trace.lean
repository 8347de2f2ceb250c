import Mathlib.Data.List.Flatten
import Mathlib.Data.List.Infix
import StreamWatch.Proofs.Evaluation.Meaning

namespace StreamWatch

/-!
# Which conditions are tested, and what is logged

The evaluation of a rule ends as soon as it is decided.  Which conditions it has come to by then can
be read off the rule alone, once it is known which conditions hold:

* `upToFirst` — the items of a list up to and including the first that has a property;
* `EvaluationContext.walkedAtOnce`, `EvaluationContext.walkedInTime` — the conditions that are come
  to where promised answers are not waited for, and where they are;
* `Condition.Untold` — a condition that cannot be told at once;
* `anyAtOnce_steps`, `matchedGroups_steps` — the walks over conditions and over groups;
* `EvaluationContext.probesAtOnce_eq`, `EvaluationContext.probesInTime_eq` — what is tested are
  these conditions, in their order;
* `rule_traced` — hence which evaluators are called, what is logged, and that waiting calls all that
  would be called at once.
-/

/-! ### Up to the first -/

section UpToFirst

variable {α : Type} {p q : α → Prop} [DecidablePred p] [DecidablePred q]

/-- The items of a list up to the first that has a property, and that one with them. -/
def upToFirst (p : α → Prop) [DecidablePred p] (items : List α) : List α :=
  items.takeWhile (fun a => !decide (p a)) ++ (items.find? fun a => decide (p a)).toList

/-- The walk ends at the first item that has the property. -/
theorem upToFirst_cons_of_pos {a : α} (h : p a) (rest : List α) :
    upToFirst p (a :: rest) = [a] := by
  simp [upToFirst, h]

/-- The walk goes on behind an item that does not have the property. -/
theorem upToFirst_cons_of_neg {a : α} (h : ¬ p a) (rest : List α) :
    upToFirst p (a :: rest) = a :: upToFirst p rest := by
  simp [upToFirst, h]

/-- The walk is the same for a property that the same items have. -/
theorem upToFirst_congr {items : List α} (h : ∀ a ∈ items, p a ↔ q a) :
    upToFirst p items = upToFirst q items := by
  induction items with
  | nil => rfl
  | cons a rest ih =>
    have hrest := ih fun b hb => h b (List.mem_cons_of_mem a hb)
    have hfirst := h a List.mem_cons_self
    by_cases hp : p a
    · rw [upToFirst_cons_of_pos hp, upToFirst_cons_of_pos (hfirst.mp hp)]
    · rw [upToFirst_cons_of_neg hp, upToFirst_cons_of_neg (mt hfirst.mpr hp), hrest]

/-- The walk stays within the list. -/
theorem upToFirst_isPrefix (items : List α) : upToFirst p items <+: items := by
  induction items with
  | nil => exact List.prefix_refl []
  | cons a rest ih =>
    by_cases hp : p a
    · rw [upToFirst_cons_of_pos hp]
      exact ⟨rest, rfl⟩
    · rw [upToFirst_cons_of_neg hp]
      exact (List.prefix_cons_inj a).mpr ih

/-- The walk ends earlier where more items have the property. -/
theorem upToFirst_isPrefix_of_imp (h : ∀ a, q a → p a) (items : List α) :
    upToFirst p items <+: upToFirst q items := by
  induction items with
  | nil => exact List.prefix_refl []
  | cons a rest ih =>
    by_cases hq : q a
    · rw [upToFirst_cons_of_pos hq, upToFirst_cons_of_pos (h a hq)]
    · rw [upToFirst_cons_of_neg hq]
      by_cases hp : p a
      · rw [upToFirst_cons_of_pos hp]
        exact ⟨upToFirst q rest, rfl⟩
      · rw [upToFirst_cons_of_neg hp]
        exact (List.prefix_cons_inj a).mpr ih

end UpToFirst

/-! ### Conditions -/

namespace Condition

/-- Does a condition hold as soon as a promised answer is there?  There is an evaluator for its
    field, which answers at once or later with something that counts as true. -/
def HoldsInTime (registry : Registry) (c : EvaluationContext) (condition : Condition) : Prop :=
  ∃ evaluator value, registry condition.field = some evaluator ∧
    (evaluator c condition = .answer value ∨
      ∃ delay, evaluator c condition = .later delay (.ok value)) ∧ value.truthy = true

/-- Can a condition not be told at once?  There is no evaluator for its field, or that one fails or
    only promises an answer. -/
inductive Untold (registry : Registry) (c : EvaluationContext) (condition : Condition) : Prop
  | noEvaluator (hnone : registry condition.field = none)
  | failed {evaluator : Evaluator} {error : String}
      (hfound : registry condition.field = some evaluator)
      (hreply : evaluator c condition = .failure error)
  | promised {evaluator : Evaluator} {delay : Option Number} {outcome : Except String Datum}
      (hfound : registry condition.field = some evaluator)
      (hreply : evaluator c condition = .later delay outcome)

end Condition

namespace Probe

variable {registry : Registry} {c : EvaluationContext}

/-- A condition is found to hold in time exactly if it does. -/
theorem holds_inTime_iff (condition : Condition) :
    (inTime registry c condition).holds = true ↔ condition.HoldsInTime registry c := by
  unfold inTime Condition.HoldsInTime
  cases hfound : registry condition.field with
  | none => exact iff_of_false Bool.false_ne_true nofun
  | some evaluator =>
    simp only [Option.some.injEq, exists_and_left, exists_eq_left']
    cases hreply : evaluator c condition with
    | answer value => simp [ended]
    | failure error => simp [ended]
    | later delay outcome => cases outcome <;> simp [ended]

/-- Testing at once is about the condition, and calls the evaluator of its field if there is one. -/
theorem called_atOnce (registry : Registry) (c : EvaluationContext) (condition : Condition) :
    (atOnce registry c condition).condition = condition ∧
      (atOnce registry c condition).called = (registry condition.field).isSome := by
  unfold atOnce
  cases registry condition.field with
  | none => exact ⟨rfl, rfl⟩
  | some evaluator =>
    dsimp only
    cases evaluator c condition <;> exact ⟨rfl, rfl⟩

/-- Testing in time is about the condition, and calls the evaluator of its field if there is one. -/
theorem called_inTime (registry : Registry) (c : EvaluationContext) (condition : Condition) :
    (inTime registry c condition).condition = condition ∧
      (inTime registry c condition).called = (registry condition.field).isSome := by
  unfold inTime
  cases registry condition.field with
  | none => exact ⟨rfl, rfl⟩
  | some evaluator =>
    dsimp only
    cases evaluator c condition with
    | answer value => exact ⟨rfl, rfl⟩
    | failure error => exact ⟨rfl, rfl⟩
    | later delay outcome => cases outcome <;> exact ⟨rfl, rfl⟩

/-- A condition that cannot be told at once gives one notice, which names its field, and any other
    condition gives none. -/
theorem notices_atOnce_cases (registry : Registry) (c : EvaluationContext) (condition : Condition) :
    (condition.Untold registry c ∧ ∃ notice, (atOnce registry c condition).notices = [notice] ∧
        notice.field = condition.field) ∨
      (¬ condition.Untold registry c ∧ (atOnce registry c condition).notices = []) := by
  unfold atOnce
  cases hfound : registry condition.field with
  | none => exact .inl ⟨.noEvaluator hfound, _, rfl, rfl⟩
  | some evaluator =>
    dsimp only
    cases hreply : evaluator c condition with
    | failure error => exact .inl ⟨.failed hfound hreply, _, rfl, rfl⟩
    | later delay outcome => exact .inl ⟨.promised hfound hreply, _, rfl, rfl⟩
    | answer value =>
      refine .inr ⟨?_, rfl⟩
      -- The evaluator has answered, and so it has neither failed nor promised an answer.
      rintro (hnone | ⟨hother, hother'⟩ | ⟨hother, hother'⟩)
      · cases hnone.symm.trans hfound
      all_goals
        obtain rfl := Option.some.inj (hfound.symm.trans hother)
        cases hreply.symm.trans hother'

/-- A condition cannot be told at once exactly if testing it gives a notice. -/
theorem untold_iff (condition : Condition) :
    condition.Untold registry c ↔ (atOnce registry c condition).notices ≠ [] := by
  obtain ⟨huntold, notice, hnotices, _⟩ | ⟨htold, hnotices⟩ :=
    notices_atOnce_cases registry c condition
  · rw [hnotices]
    exact iff_of_true huntold (List.cons_ne_nil notice [])
  · exact iff_of_false htold (not_not_intro hnotices)

end Probe

instance (registry : Registry) (c : EvaluationContext) (condition : Condition) :
    Decidable (condition.HoldsIn registry c) :=
  decidable_of_iff _ (Probe.holds_atOnce_iff condition)

instance (registry : Registry) (c : EvaluationContext) (condition : Condition) :
    Decidable (condition.HoldsInTime registry c) :=
  decidable_of_iff _ (Probe.holds_inTime_iff condition)

instance (registry : Registry) (c : EvaluationContext) (condition : Condition) :
    Decidable (condition.Untold registry c) :=
  decidable_of_iff' _ (Probe.untold_iff condition)

/-- A condition that holds at once holds in time as well. -/
theorem Condition.HoldsIn.inTime {registry : Registry} {c : EvaluationContext}
    {condition : Condition} (h : condition.HoldsIn registry c) :
    condition.HoldsInTime registry c := by
  obtain ⟨evaluator, value, hfound, hanswer, htruthy⟩ := h
  exact ⟨evaluator, value, hfound, .inl hanswer, htruthy⟩

/-! ### Groups -/

namespace ConditionGroup

/-- Does a group hold as soon as promised answers are there? -/
def HoldsInTime (registry : Registry) (c : EvaluationContext) (group : ConditionGroup) : Prop :=
  group.conditions = [] ∨ ∃ condition ∈ group.conditions, condition.HoldsInTime registry c

/-- A group that holds at once holds in time as well. -/
theorem HoldsIn.inTime {registry : Registry} {c : EvaluationContext} {group : ConditionGroup}
    (h : group.HoldsIn registry c) : group.HoldsInTime registry c := by
  rcases h with hempty | ⟨condition, hmem, hholds⟩
  · exact .inl hempty
  · exact .inr ⟨condition, hmem, hholds.inTime⟩

end ConditionGroup

section Groups

variable {registry : Registry} {c : EvaluationContext}

/-- A group is found to hold in time exactly if it does. -/
theorem holdsInTime_value_iff (group : ConditionGroup) :
    (holdsInTime registry c group).value = true ↔ group.HoldsInTime registry c := by
  rw [holdsInTime_value, Bool.or_eq_true, List.isEmpty_iff, List.any_eq_true]
  simp only [Probe.holds_inTime_iff, ConditionGroup.HoldsInTime]

instance (registry : Registry) (c : EvaluationContext) (group : ConditionGroup) :
    Decidable (group.HoldsInTime registry c) :=
  decidable_of_iff _ (holdsInTime_value_iff group)

/-- Conditions are tested one after the other up to the first that holds. -/
theorem anyAtOnce_steps (conditions : List Condition) :
    (anyAtOnce registry c conditions).steps =
      (upToFirst (fun condition => condition.HoldsIn registry c) conditions).map
        (Probe.atOnce registry c) := by
  induction conditions with
  | nil => rfl
  | cons condition rest ih =>
    rw [anyAtOnce, Recorded.bind_steps]
    have hfound : (Probe.atOnce registry c condition).holds = true ↔
        condition.HoldsIn registry c := Probe.holds_atOnce_iff condition
    by_cases hholds : condition.HoldsIn registry c
    · rw [upToFirst_cons_of_pos hholds]
      simp [Recorded.ofStep, hfound.mpr hholds]
    · rw [upToFirst_cons_of_neg hholds, List.map_cons, ← ih]
      simp [Recorded.ofStep, mt hfound.mp hholds]

/-- A group is tested at once up to its first condition that holds. -/
theorem holdsAtOnce_steps (group : ConditionGroup) :
    (holdsAtOnce registry c group).steps =
      (upToFirst (fun condition => condition.HoldsIn registry c) group.conditions).map
        (Probe.atOnce registry c) := by
  unfold holdsAtOnce
  split
  · rename_i hempty
    rw [List.isEmpty_iff.mp hempty]
    rfl
  · exact anyAtOnce_steps group.conditions

/-- A group is tested in time by all its conditions. -/
theorem holdsInTime_steps (group : ConditionGroup) :
    (holdsInTime registry c group).steps.flatten =
      group.conditions.map (Probe.inTime registry c) := by
  unfold holdsInTime
  split
  · rename_i hempty
    rw [List.isEmpty_iff.mp hempty]
    rfl
  · exact List.append_nil _

/-- Groups are tested one after the other up to the first that does not hold. -/
theorem matchedGroups_steps {ω : Type} (test : ConditionGroup → Recorded ω Bool) (first : Int)
    (groups : List ConditionGroup) :
    (matchedGroups test first groups).steps =
      (upToFirst (fun group => ¬ (test group).value = true) groups).flatMap fun group =>
        (test group).steps := by
  -- The groups are counted on the way, which plays no part in what is tested.
  induction groups generalizing first with
  | nil => rfl
  | cons group rest ih =>
    rw [matchedGroups, Recorded.bind_steps]
    by_cases hholds : (test group).value = true
    · rw [if_pos hholds, upToFirst_cons_of_neg (p := fun group => ¬ (test group).value = true)
        (not_not_intro hholds), List.flatMap_cons, ← ih (first + 1), Recorded.bind_steps,
        Recorded.pure_steps, List.append_nil]
    · rw [if_neg hholds, upToFirst_cons_of_pos (p := fun group => ¬ (test group).value = true)
        hholds, Recorded.pure_steps, List.append_nil, List.flatMap_singleton]

end Groups

/-! ### Rules -/

/-- The groups of a rule.  One without conditions has none. -/
def Rule.groups (rule : Rule) : List ConditionGroup :=
  match rule.conditions with
  | some conditions => conditions.groups
  | none => []

namespace EvaluationContext

/-- The conditions that the rule of a context is walked to at once: its groups up to the first that
    does not hold, and of each of these the conditions up to the first that holds. -/
def walkedAtOnce (registry : Registry) (c : EvaluationContext) : List Condition :=
  (upToFirst (fun group => ¬ group.HoldsIn registry c) c.rule.groups).flatMap fun group =>
    upToFirst (fun condition => condition.HoldsIn registry c) group.conditions

/-- The conditions that the rule of a context is walked to in time: all conditions of its groups up
    to the first that does not hold. -/
def walkedInTime (registry : Registry) (c : EvaluationContext) : List Condition :=
  (upToFirst (fun group => ¬ group.HoldsInTime registry c) c.rule.groups).flatMap
    ConditionGroup.conditions

/-- The tests of conditions while the rule of a context is evaluated at once. -/
def probesAtOnce (registry : Registry) (c : EvaluationContext) : List Probe :=
  (verdict (holdsAtOnce registry) c).steps

/-- The tests of conditions while the rule of a context is evaluated in time. -/
def probesInTime (registry : Registry) (c : EvaluationContext) : List Probe :=
  (verdict (holdsInTime registry) c).steps.flatten

/-- What is logged while the rule of a context is evaluated at once. -/
def loggedAtOnce (registry : Registry) (c : EvaluationContext) : List LogEntry :=
  ((c.probesAtOnce registry).flatMap Probe.notices).map RuleNotice.entry

variable {registry : Registry} {c : EvaluationContext}

/-- The evaluation of a rule tests its groups one after the other, up to the first that does not
    hold. -/
theorem verdict_steps {ω : Type} (test : GroupTest (Recorded ω)) :
    (verdict test c).steps =
      (upToFirst (fun group => ¬ (test c group).value = true) c.rule.groups).flatMap fun group =>
        (test c group).steps := by
  unfold verdict Rule.groups
  cases c.rule.conditions with
  | none => rfl
  | some conditions =>
    dsimp only
    rw [Recorded.bind_steps, matchedGroups_steps, Recorded.pure_steps, List.append_nil]

/-- At once the conditions are tested that are walked to, in their order. -/
theorem probesAtOnce_eq :
    c.probesAtOnce registry = (c.walkedAtOnce registry).map (Probe.atOnce registry c) := by
  have hgroups : upToFirst (fun group => ¬ (holdsAtOnce registry c group).value = true)
      c.rule.groups = upToFirst (fun group => ¬ group.HoldsIn registry c) c.rule.groups :=
    upToFirst_congr fun group _ => not_congr (holdsAtOnce_value_iff group)
  rw [probesAtOnce, verdict_steps, hgroups, walkedAtOnce, List.map_flatMap]
  simp only [holdsAtOnce_steps]

/-- In time the conditions are tested that are walked to, in their order. -/
theorem probesInTime_eq :
    c.probesInTime registry = (c.walkedInTime registry).map (Probe.inTime registry c) := by
  have hgroups : upToFirst (fun group => ¬ (holdsInTime registry c group).value = true)
      c.rule.groups = upToFirst (fun group => ¬ group.HoldsInTime registry c) c.rule.groups :=
    upToFirst_congr fun group _ => not_congr (holdsInTime_value_iff group)
  rw [probesInTime, verdict_steps, hgroups, walkedInTime, List.map_flatMap,
    List.flatten_eq_flatMap, List.flatMap_assoc]
  simp only [← List.flatten_eq_flatMap, holdsInTime_steps]

/-- What is walked to at once is walked to in time as well. -/
theorem walkedAtOnce_sublist : (c.walkedAtOnce registry).Sublist (c.walkedInTime registry) := by
  -- Waiting lets more groups hold, so that it comes to more of them, and to all their conditions.
  have hgroups := upToFirst_isPrefix_of_imp (p := fun group => ¬ group.HoldsIn registry c)
    (q := fun group => ¬ group.HoldsInTime registry c)
    (fun group => mt ConditionGroup.HoldsIn.inTime) c.rule.groups
  refine (hgroups.sublist.flatMap _).trans (List.Sublist.flatMap_right _ fun group _ => ?_)
  exact (upToFirst_isPrefix group.conditions).sublist

end EvaluationContext

/-- The evaluators that are called for some conditions at once are those of the known fields. -/
theorem calledConditions_map {test : Condition → Probe} {known : Condition → Bool}
    (h : ∀ condition, (test condition).condition = condition ∧
      (test condition).called = known condition) (conditions : List Condition) :
    calledConditions (conditions.map test) = conditions.filter known := by
  unfold calledConditions
  induction conditions with
  | nil => rfl
  | cons condition rest ih =>
    obtain ⟨hsame, hcalled⟩ := h condition
    rw [List.map_cons, List.filter_cons, List.filter_cons, hcalled]
    split
    · rw [List.map_cons, hsame, ih]
    · exact ih

/-- What is logged of some conditions names the fields of those that cannot be told. -/
theorem logged_map (registry : Registry) (c : EvaluationContext) (conditions : List Condition) :
    (((conditions.map (Probe.atOnce registry c)).flatMap Probe.notices).map fun notice =>
        notice.entry.fields.get? "field") =
      (conditions.filter fun condition => decide (condition.Untold registry c)).map
        fun condition => some (.text condition.field) := by
  have hnamed (notice : RuleNotice) :
      notice.entry.fields.get? "field" = some (.text notice.field) := by
    cases notice <;> rfl
  induction conditions with
  | nil => rfl
  | cons condition rest ih =>
    rw [List.map_cons, List.flatMap_cons, List.map_append, ih]
    rcases Probe.notices_atOnce_cases registry c condition with
      ⟨huntold, notice, hnotices, hfield⟩ | ⟨htold, hnotices⟩
    · have hentry := hnamed notice
      rw [hfield] at hentry
      rw [hnotices, List.filter_cons, if_pos (decide_eq_true huntold), List.map_cons,
        List.map_cons, List.map_nil, hentry]
      rfl
    · rw [hnotices, List.filter_cons, if_neg (mt of_decide_eq_true htold)]
      rfl

/-- **What is evaluated and what is logged.**  Let the rule of a context be evaluated.

    * At once the evaluators of the conditions are called that are walked to, in their order, as far
      as there is one: in the groups up to the first that does not hold, the conditions up to the
      first that holds.
    * One entry is logged, in this order, for each of these conditions that cannot be told at once,
      and names its field.  None is logged for the others.
    * In time the evaluators of all conditions are called, in their order, of the groups up to the
      first that does not hold then.
    * All evaluators that are called at once are called in time as well, in the same order. -/
theorem rule_traced (registry : Registry) (c : EvaluationContext) :
    calledConditions (c.probesAtOnce registry) =
        (c.walkedAtOnce registry).filter (fun condition => (registry condition.field).isSome) ∧
      (c.loggedAtOnce registry).map (fun entry => entry.fields.get? "field") =
        ((c.walkedAtOnce registry).filter fun condition =>
            decide (condition.Untold registry c)).map
          (fun condition => some (.text condition.field)) ∧
      calledConditions (c.probesInTime registry) =
        (c.walkedInTime registry).filter (fun condition => (registry condition.field).isSome) ∧
      (calledConditions (c.probesAtOnce registry)).Sublist
        (calledConditions (c.probesInTime registry)) := by
  have hatOnce := calledConditions_map (Probe.called_atOnce registry c) (c.walkedAtOnce registry)
  have hinTime := calledConditions_map (Probe.called_inTime registry c) (c.walkedInTime registry)
  rw [← EvaluationContext.probesAtOnce_eq] at hatOnce
  rw [← EvaluationContext.probesInTime_eq] at hinTime
  refine ⟨hatOnce, ?_, hinTime, ?_⟩
  · rw [EvaluationContext.loggedAtOnce, List.map_map, EvaluationContext.probesAtOnce_eq]
    exact logged_map registry c (c.walkedAtOnce registry)
  · rw [hatOnce, hinTime]
    exact EvaluationContext.walkedAtOnce_sublist.filter _

/-- Where the third field only promises an answer, its evaluator is called all the same, and what
    is logged names the field. -/
example : fieldRules.map (fun rule =>
      let probes := EvaluationContext.probesAtOnce (.replying (.later none (.ok (.int 1))))
        { quietContext with rule := rule }
      ((calledConditions probes).map Condition.field,
        (probes.flatMap Probe.notices).map RuleNotice.field)) =
    [(["broken", "known"], ["broken"]), (["known", "asked"], ["missing", "asked"]),
      ([], ["missing"])] := by decide +kernel

end StreamWatch
