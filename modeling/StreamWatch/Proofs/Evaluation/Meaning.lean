import StreamWatch.Proofs.Evaluation.Agreement

namespace StreamWatch

/-!
# What a list of rules means

Rules are evaluated by walks that end early: over the conditions of a group until one holds, and
over the groups of a rule until one does not.  What they come to can be said without them:

* `Condition.HoldsIn`, `ConditionGroup.HoldsIn`, `Rule.Matches` — a rule is a conjunction of
  alternatives, and a condition that cannot be told at once does not hold;
* `Probe.holds_atOnce_iff`, `holdsAtOnce_value_iff`, `matchedGroups_value` — the walks find out just
  that;
* `verdicts_value` — the verdicts are those on the rules that match, in their order;
* `verdicts_mean` — hence a test that fails could as well deny, and rules do not depend on each
  other.
-/

/-! ### Meaning -/

/-- Does a condition hold?  There is an evaluator for its field, which answers at once with
    something that counts as true. -/
def Condition.HoldsIn (registry : Registry) (c : EvaluationContext) (condition : Condition) :
    Prop :=
  ∃ evaluator value, registry condition.field = some evaluator ∧
    evaluator c condition = .answer value ∧ value.truthy = true

/-- Does a group hold?  It has no conditions, or one of them holds. -/
def ConditionGroup.HoldsIn (registry : Registry) (c : EvaluationContext) (group : ConditionGroup) :
    Prop :=
  group.conditions = [] ∨ ∃ condition ∈ group.conditions, condition.HoldsIn registry c

namespace Rule

/-- Does a rule match?  It is active, it names the server of the context or none, and it has
    conditions, of which all groups hold. -/
structure Matches (registry : Registry) (c : SessionContext) (rule : Rule) : Prop where
  active : rule.isActive = true
  server : rule.serverId = none ∨ rule.serverId = some c.server.id
  groups : ∃ conditions, rule.conditions = some conditions ∧
    ∀ group ∈ conditions.groups, group.HoldsIn registry { c with rule := rule }

/-- How many groups a rule has. -/
def groupCount (rule : Rule) : Nat :=
  match rule.conditions with
  | some conditions => conditions.groups.length
  | none => 0

/-- The verdict on a rule that matches: all its groups do, and it asks for all its actions. -/
def matchVerdict (rule : Rule) : Verdict where
  ruleId := rule.id
  ruleName := rule.name
  matched := true
  matchedGroups := (List.range rule.groupCount).map Int.ofNat
  actions := rule.declaredActions

end Rule

/-! ### What the walks find out -/

variable {registry : Registry} {c : EvaluationContext}

/-- A condition is found to hold exactly if it does. -/
theorem Probe.holds_atOnce_iff (condition : Condition) :
    (Probe.atOnce registry c condition).holds = true ↔ condition.HoldsIn registry c := by
  unfold Probe.atOnce Condition.HoldsIn
  cases hfound : registry condition.field with
  | none => exact iff_of_false Bool.false_ne_true nofun
  | some evaluator =>
    simp only [Option.some.injEq, exists_and_left, exists_eq_left']
    cases hreply : evaluator c condition with
    | answer value => simp only [Probe.ended, Reply.answer.injEq, exists_eq_left']
    | failure error => exact iff_of_false Bool.false_ne_true nofun
    | later delay outcome => exact iff_of_false Bool.false_ne_true nofun

/-- A group is found to hold exactly if it does. -/
theorem holdsAtOnce_value_iff (group : ConditionGroup) :
    (holdsAtOnce registry c group).value = true ↔ group.HoldsIn registry c := by
  rw [holdsAtOnce_value, Bool.or_eq_true, List.isEmpty_iff, List.any_eq_true]
  simp only [Probe.holds_atOnce_iff, ConditionGroup.HoldsIn]

instance (registry : Registry) (c : EvaluationContext) (group : ConditionGroup) :
    Decidable (group.HoldsIn registry c) :=
  decidable_of_iff _ (holdsAtOnce_value_iff group)

/-- The groups that match are all of them, counted from the first, if a test lets them hold. -/
theorem matchedGroups_value {ω : Type} (test : ConditionGroup → Recorded ω Bool) (first : Int)
    (groups : List ConditionGroup) :
    (matchedGroups test first groups).value =
      if ∀ group ∈ groups, (test group).value = true then
        some ((List.range groups.length).map fun n : Nat => first + n)
      else none := by
  induction groups generalizing first with
  | nil => rfl
  | cons group rest ih =>
    rw [matchedGroups_cons_value, ih]
    by_cases hholds : (test group).value = true
    · simp only [hholds, if_true, List.forall_mem_cons, true_and]
      split
      · -- The numbers behind the first are those of the rest, one greater.
        rw [Option.map_some, List.length_cons, List.range_succ_eq_map, List.map_cons, List.map_map]
        congr 2
        · exact (Int.add_zero first).symm
        · refine List.map_congr_left fun n _ => ?_
          show first + 1 + (n : Int) = first + ((n + 1 : Nat) : Int)
          omega
      · rfl
    · rw [if_neg hholds, if_neg fun h => hholds (h group List.mem_cons_self)]

/-- The verdict on a rule that is evaluated in a context.  It matches if it has conditions whose
    groups all hold. -/
theorem verdict_value (registry : Registry) (c : SessionContext) (rule : Rule) :
    let holds := ∃ conditions, rule.conditions = some conditions ∧
      ∀ group ∈ conditions.groups, group.HoldsIn registry { c with rule := rule }
    let verdict := (EvaluationContext.verdict (holdsAtOnce registry) { c with rule := rule }).value
    holds ∧ verdict = rule.matchVerdict ∨ ¬ holds ∧ verdict.matched = false := by
  simp only [EvaluationContext.verdict]
  cases hconditions : rule.conditions with
  | none => exact .inr ⟨nofun, rfl⟩
  | some conditions =>
    simp only [Recorded.bind_value, Recorded.pure_value, matchedGroups_value,
      holdsAtOnce_value_iff, Option.some.injEq, exists_eq_left']
    by_cases hholds : ∀ group ∈ conditions.groups,
        group.HoldsIn registry { c with rule := rule }
    · refine .inl ⟨hholds, ?_⟩
      simp only [if_pos hholds, Rule.verdictOf, Option.isSome_some, if_true, Option.getD_some,
        Rule.matchVerdict, Rule.groupCount, hconditions, Int.zero_add]
      rfl
    · rw [if_neg hholds]
      exact .inr ⟨hholds, rfl⟩

/-- A rule applies to a server if it is active and names that server or none. -/
theorem Rule.appliesTo_iff (rule : Rule) (serverId : String) :
    rule.appliesTo serverId = true ↔
      rule.isActive = true ∧ (rule.serverId = none ∨ rule.serverId = some serverId) := by
  unfold Rule.appliesTo
  rw [Bool.and_eq_true, Bool.or_eq_true, Option.isNone_iff_eq_none, beq_iff_eq]

/-- A rule matches exactly if it applies to the server and is found to match. -/
theorem Rule.matches_iff (registry : Registry) (c : SessionContext) (rule : Rule) :
    rule.Matches registry c ↔ rule.appliesTo c.server.id = true ∧
      (EvaluationContext.verdict (holdsAtOnce registry)
        { c with rule := rule }).value.matched = true := by
  rw [rule.appliesTo_iff]
  obtain ⟨hholds, hverdict⟩ | ⟨hfails, hunmatched⟩ := verdict_value registry c rule
  · rw [hverdict]
    exact ⟨fun h => ⟨⟨h.active, h.server⟩, rfl⟩, fun h => ⟨h.1.1, h.1.2, hholds⟩⟩
  · rw [hunmatched]
    exact iff_of_false (fun h => hfails h.groups) fun h => Bool.false_ne_true h.2

instance (registry : Registry) (c : SessionContext) (rule : Rule) :
    Decidable (rule.Matches registry c) :=
  decidable_of_iff _ (rule.matches_iff registry c).symm

/-- **The verdicts are those on the rules that match**, in the order of the rules. -/
theorem verdicts_value (c : SessionContext) (rules : List Rule) :
    (verdicts (holdsAtOnce registry) c rules).value =
      (rules.filter fun rule => decide (rule.Matches registry c)).map Rule.matchVerdict := by
  unfold verdicts applicableRules
  induction rules with
  | nil => rfl
  | cons rule rest ih =>
    have hmatches := rule.matches_iff registry c
    by_cases happlies : rule.appliesTo c.server.id = true
    · rw [List.filter_cons, if_pos happlies, verdictsOf_cons_value]
      simp only [ih]
      obtain ⟨_, hverdict⟩ | ⟨_, hunmatched⟩ := verdict_value registry c rule
      · have hmatched : rule.Matches registry c := hmatches.mpr ⟨happlies, by rw [hverdict]; rfl⟩
        rw [List.filter_cons, if_pos (decide_eq_true hmatched), List.map_cons, hverdict]
        exact if_pos rfl
      · have hmatched : ¬ rule.Matches registry c := fun h => by
          rw [hunmatched] at hmatches
          exact Bool.false_ne_true (hmatches.mp h).2
        rw [List.filter_cons, if_neg (mt of_decide_eq_true hmatched), hunmatched]
        exact if_neg Bool.false_ne_true
    · have hmatched : ¬ rule.Matches registry c := fun h => happlies (hmatches.mp h).1
      rw [List.filter_cons, if_neg happlies, List.filter_cons,
        if_neg (mt of_decide_eq_true hmatched), ih]

/-! ### Tests that fail -/

/-- A registry in which the test of a field always denies. -/
def Registry.denying (registry : Registry) (field : String) : Registry := fun name =>
  if name = field then some fun _ _ => .answer (.bool false) else registry name

/-- A rule matches in two registries alike if its conditions hold in them alike. -/
theorem Rule.Matches.congr {other : Registry} {c : SessionContext} {rule : Rule}
    (h : ∀ conditions, rule.conditions = some conditions → ∀ group ∈ conditions.groups,
      ∀ condition ∈ group.conditions,
        condition.HoldsIn registry { c with rule := rule } ↔
          condition.HoldsIn other { c with rule := rule }) :
    rule.Matches registry c ↔ rule.Matches other c := by
  have hgroups : (∃ conditions, rule.conditions = some conditions ∧
        ∀ group ∈ conditions.groups, group.HoldsIn registry { c with rule := rule }) ↔
      ∃ conditions, rule.conditions = some conditions ∧
        ∀ group ∈ conditions.groups, group.HoldsIn other { c with rule := rule } := by
    refine exists_congr fun conditions => and_congr_right fun hconditions =>
      forall₂_congr fun group hgroup => or_congr_right ?_
    exact exists_congr fun condition => and_congr_right
      (h conditions hconditions group hgroup condition)
  exact ⟨fun hm => ⟨hm.active, hm.server, hgroups.mp hm.groups⟩,
    fun hm => ⟨hm.active, hm.server, hgroups.mpr hm.groups⟩⟩

/-- Does no condition of some rules on a field get an answer?  There is no evaluator for the field,
    or it fails at each of them. -/
def Unanswered (registry : Registry) (c : SessionContext) (rules : List Rule) (field : String) :
    Prop :=
  ∀ rule ∈ rules, ∀ conditions, rule.conditions = some conditions →
    ∀ group ∈ conditions.groups, ∀ condition ∈ group.conditions, condition.field = field →
      ∀ evaluator, registry field = some evaluator →
        ∃ error, evaluator { c with rule := rule } condition = .failure error

/-- A test that denies makes no condition hold. -/
theorem not_holdsIn_denying {condition : Condition} :
    ¬ condition.HoldsIn (registry.denying condition.field) c := by
  rintro ⟨evaluator, value, hfound, hanswer, htruthy⟩
  unfold Registry.denying at hfound
  rw [if_pos rfl] at hfound
  obtain rfl := Option.some.inj hfound
  obtain rfl := Reply.answer.inj hanswer
  cases htruthy

/-- Where a field is not asked for, it does not matter what its test says. -/
theorem holdsIn_denying_of_ne {condition : Condition} {field : String}
    (h : condition.field ≠ field) :
    condition.HoldsIn (registry.denying field) c ↔ condition.HoldsIn registry c := by
  unfold Condition.HoldsIn Registry.denying
  rw [if_neg h]

/-- **The meaning of a list of rules.**

    * The verdicts are those on the rules that match, in the order of the rules: one on each, by all
      its groups and with all its actions.
    * A condition is found to hold exactly if an evaluator of its field answers at once with
      something that counts as true.
    * Where a field has no evaluator, or one that fails, one that denies changes no verdict.
    * The verdicts on some rules do not depend on the rules before and behind them. -/
theorem verdicts_mean (registry : Registry) (c : SessionContext) (rules : List Rule) :
    (verdicts (holdsAtOnce registry) c rules).value =
      (rules.filter fun rule => decide (rule.Matches registry c)).map Rule.matchVerdict ∧
    (∀ (context : EvaluationContext) (condition : Condition),
      (Probe.atOnce registry context condition).holds = true ↔
        condition.HoldsIn registry context) ∧
    (∀ field, Unanswered registry c rules field →
      (verdicts (holdsAtOnce (registry.denying field)) c rules).value =
        (verdicts (holdsAtOnce registry) c rules).value) ∧
    ∀ before after : List Rule,
      (verdicts (holdsAtOnce registry) c (before ++ rules ++ after)).value =
      (verdicts (holdsAtOnce registry) c before).value ++
        (verdicts (holdsAtOnce registry) c rules).value ++
        (verdicts (holdsAtOnce registry) c after).value := by
  refine ⟨verdicts_value c rules, fun context condition => Probe.holds_atOnce_iff condition,
    fun field hunanswered => ?_, fun before after => ?_⟩
  · rw [verdicts_value, verdicts_value]
    congr 1
    refine List.filter_congr fun rule hrule => decide_eq_decide.mpr (Rule.Matches.congr ?_)
    intro conditions hconditions group hgroup condition hcondition
    -- A condition on the field holds in neither of the registries.
    by_cases hfield : condition.field = field
    · subst hfield
      refine iff_of_false not_holdsIn_denying ?_
      rintro ⟨evaluator, value, hfound, hanswer, _⟩
      obtain ⟨error, hfailure⟩ := hunanswered rule hrule conditions hconditions group hgroup
        condition hcondition rfl evaluator hfound
      exact nomatch hanswer.symm.trans hfailure
    · exact holdsIn_denying_of_ne hfield
  · simp only [verdicts_value, List.filter_append, List.map_append]

/-- Of the rules over three fields two match, by all their groups.  One has an alternative that
    fails, which could as well deny. -/
theorem verdicts_mean_replying :
    let registry := Registry.replying (.answer (.int 1))
    Unanswered registry quietContext fieldRules "broken" ∧
    (verdicts (holdsAtOnce (registry.denying "broken")) quietContext fieldRules).value =
      (verdicts (holdsAtOnce registry) quietContext fieldRules).value ∧
    (verdicts (holdsAtOnce registry) quietContext fieldRules).value.map
      (fun verdict => (verdict.ruleId, verdict.matchedGroups)) =
        [("first", [0, 1]), ("second", [0, 1])] := by
  intro registry
  have hunanswered : Unanswered registry quietContext fieldRules "broken" := by
    intro rule _ conditions _ group _ condition _ _ evaluator hfound
    obtain rfl := Option.some.inj hfound
    exact ⟨"no answer", rfl⟩
  obtain ⟨_, _, hdenying, _⟩ := verdicts_mean registry quietContext fieldRules
  exact ⟨hunanswered, hdenying "broken" hunanswered, by decide +kernel⟩

end StreamWatch
