import Mathlib.Data.List.Basic
import StreamWatch.Evaluation.Ruleset

namespace StreamWatch

/-!
# Waiting finds all that is found at once, and maybe more

Rules can be evaluated at once, where a promised answer is no answer, or in time, where it is
waited for.  What can be told at once does not change by waiting:

* `Probe.holds_inTime_of_atOnce` — a condition that holds at once holds in time as well, and
  `Probe.inTime_eq_atOnce`, by which there is no difference where nothing is promised;
* `anyAtOnce_value` — testing conditions until one holds finds out whether any of them does;
* `Weaker`, `Weaker.verdicts_sublist` — a test of groups that lets more of them hold finds the
  same verdicts and maybe more, in the same order.
-/

/-! ### Conditions -/

/-- Do the evaluators of a registry never promise an answer for later? -/
def Registry.NeverPromises (registry : Registry) : Prop :=
  ∀ field evaluator, registry field = some evaluator →
    ∀ c condition delay outcome, evaluator c condition ≠ .later delay outcome

namespace Probe

variable {registry : Registry} {c : EvaluationContext} {condition : Condition}

/-- A condition that holds at once holds in time as well. -/
theorem holds_inTime_of_atOnce (h : (atOnce registry c condition).holds = true) :
    (inTime registry c condition).holds = true := by
  unfold atOnce at h
  unfold inTime
  cases hfound : registry condition.field with
  | none =>
    simp only [hfound, uncalled, Bool.false_eq_true] at h
  | some evaluator =>
    simp only [hfound] at h ⊢
    cases hreply : evaluator c condition with
    | answer value => simpa only [hreply] using h
    | failure error => simpa only [hreply] using h
    | later delay outcome => simp only [hreply, Bool.false_eq_true] at h

/-- Where nothing is promised a condition is tested at once as it is in time. -/
theorem inTime_eq_atOnce (h : registry.NeverPromises) :
    inTime registry c condition = atOnce registry c condition := by
  unfold inTime atOnce
  cases hfound : registry condition.field with
  | none => rfl
  | some evaluator =>
    cases hreply : evaluator c condition with
    | answer value => simp only [hreply]
    | failure error => simp only [hreply]
    | later delay outcome => exact absurd hreply (h _ evaluator hfound c condition delay outcome)

end Probe

/-! ### Groups -/

/-- Testing conditions one after the other until one holds finds out whether any holds. -/
theorem anyAtOnce_value (registry : Registry) (c : EvaluationContext)
    (conditions : List Condition) :
    (anyAtOnce registry c conditions).value =
      conditions.any fun condition => (Probe.atOnce registry c condition).holds := by
  induction conditions with
  | nil => rfl
  | cons condition rest ih =>
    rw [anyAtOnce, List.any_cons, ← ih]
    simp only [Recorded.bind_value, Recorded.ofStep]
    -- The rest is only tested where the first condition does not hold.
    cases (Probe.atOnce registry c condition).holds <;> rfl

/-- A group holds at once if it has no condition or one of them holds at once. -/
theorem holdsAtOnce_value (registry : Registry) (c : EvaluationContext) (group : ConditionGroup) :
    (holdsAtOnce registry c group).value = (group.conditions.isEmpty ||
      group.conditions.any fun condition => (Probe.atOnce registry c condition).holds) := by
  unfold holdsAtOnce
  split
  · simp only [*, Recorded.pure_value, Bool.true_or]
  · simp only [*, anyAtOnce_value, Bool.false_or]

/-- A group holds in time if it has no condition or one of them holds in time. -/
theorem holdsInTime_value (registry : Registry) (c : EvaluationContext) (group : ConditionGroup) :
    (holdsInTime registry c group).value = (group.conditions.isEmpty ||
      group.conditions.any fun condition => (Probe.inTime registry c condition).holds) := by
  unfold holdsInTime
  split
  · simp only [*, Recorded.pure_value, Bool.true_or]
  · simp only [*, Recorded.ofStep, List.any_map, Function.comp_def, Bool.false_or]

/-! ### Rules -/

section
variable {ω ω' : Type}

/-- The groups that match are the first one and those behind it, if it holds. -/
theorem matchedGroups_cons_value (test : ConditionGroup → Recorded ω Bool) (first : Int)
    (group : ConditionGroup) (rest : List ConditionGroup) :
    (matchedGroups test first (group :: rest)).value =
      if (test group).value then
        (matchedGroups test (first + 1) rest).value.map (first :: ·)
      else none := by
  rw [matchedGroups, Recorded.bind_value]
  split <;> rfl

/-- The verdicts that are kept of some rules are that on the first rule, if it matches, and
    those on the others. -/
theorem verdictsOf_cons_value (test : GroupTest (Recorded ω)) (c : SessionContext) (rule : Rule)
    (rest : List Rule) :
    let verdict := (EvaluationContext.verdict test { c with rule := rule }).value
    let others := (verdictsOf test c rest).value
    (verdictsOf test c (rule :: rest)).value =
      if verdict.matched then verdict :: others else others := by
  rfl

/-- Does a test let every group hold that another one lets hold? -/
def Weaker (lax : GroupTest (Recorded ω')) (strict : GroupTest (Recorded ω)) : Prop :=
  ∀ c group, (strict c group).value = true → (lax c group).value = true

namespace Weaker

variable {lax : GroupTest (Recorded ω')} {strict : GroupTest (Recorded ω)}

/-- Groups that all match are the same groups for a weaker test. -/
theorem matchedGroups (h : Weaker lax strict) (c : EvaluationContext)
    (groups : List ConditionGroup) {first : Int} {matched : List Int}
    (hmatched : (StreamWatch.matchedGroups (strict c) first groups).value = some matched) :
    (StreamWatch.matchedGroups (lax c) first groups).value = some matched := by
  induction groups generalizing first matched with
  | nil => exact hmatched
  | cons group rest ih =>
    rw [matchedGroups_cons_value] at hmatched ⊢
    by_cases hholds : (strict c group).value = true
    · rw [if_pos hholds, Option.map_eq_some_iff] at hmatched
      obtain ⟨others, hothers, rfl⟩ := hmatched
      rw [if_pos (h c group hholds), ih hothers, Option.map_some]
    · rw [if_neg hholds] at hmatched
      cases hmatched

/-- A rule that matches has the same verdict from a weaker test. -/
theorem verdict_eq (h : Weaker lax strict) (c : EvaluationContext)
    (hmatched : (EvaluationContext.verdict strict c).value.matched = true) :
    (EvaluationContext.verdict lax c).value = (EvaluationContext.verdict strict c).value := by
  unfold EvaluationContext.verdict at hmatched ⊢
  cases hconditions : c.rule.conditions with
  | none => rfl
  | some conditions =>
    simp only [hconditions, Recorded.bind_value, Recorded.pure_value, Rule.verdictOf] at hmatched
    obtain ⟨matched, hmatched⟩ := Option.isSome_iff_exists.mp hmatched
    simp only [Recorded.bind_value, Recorded.pure_value, h.matchedGroups c _ hmatched, hmatched]

/-- **A weaker test finds the same verdicts**, and maybe more between them. -/
theorem verdicts_sublist (h : Weaker lax strict) (c : SessionContext) (rules : List Rule) :
    (verdicts strict c rules).value.Sublist (verdicts lax c rules).value := by
  unfold verdicts
  induction applicableRules c.server.id rules with
  | nil => exact .refl _
  | cons rule rest ih =>
    simp only [verdictsOf_cons_value]
    -- Both tests keep the same verdict on a rule that matches; on another one only the weaker
    -- test may have a verdict to keep.
    by_cases hmatched :
        (EvaluationContext.verdict strict { c with rule := rule }).value.matched = true
    · rw [if_pos hmatched, h.verdict_eq _ hmatched, if_pos hmatched]
      exact ih.cons_cons _
    · rw [if_neg hmatched]
      split
      · exact ih.cons _
      · exact ih

end Weaker

end

/-! ### Agreement -/

/-- What holds at once holds in time. -/
theorem weaker_inTime (registry : Registry) :
    Weaker (holdsInTime registry) (holdsAtOnce registry) := by
  intro c group h
  rw [holdsAtOnce_value, Bool.or_eq_true, List.any_eq_true] at h
  rw [holdsInTime_value, Bool.or_eq_true, List.any_eq_true]
  obtain hempty | ⟨condition, hmember, hholds⟩ := h
  · exact .inl hempty
  · exact .inr ⟨condition, hmember, Probe.holds_inTime_of_atOnce hholds⟩

/-- Where nothing is promised, what holds in time holds at once. -/
theorem weaker_atOnce {registry : Registry} (h : registry.NeverPromises) :
    Weaker (holdsAtOnce registry) (holdsInTime registry) := by
  intro c group hholds
  simpa only [holdsAtOnce_value, holdsInTime_value, Probe.inTime_eq_atOnce h] using hholds

/-- **Waiting finds all that is found at once.**  Whatever the evaluators answer, fail with or
    promise, the verdicts that are found at once are among those that are found by waiting, the
    same and in the same order.  If nothing is promised they are all of them. -/
theorem atOnce_sublist_inTime (registry : Registry) (c : SessionContext) (rules : List Rule) :
    (verdicts (holdsAtOnce registry) c rules).value.Sublist
      (verdicts (holdsInTime registry) c rules).value ∧
    (registry.NeverPromises →
      (verdicts (holdsAtOnce registry) c rules).value =
        (verdicts (holdsInTime registry) c rules).value) := by
  have hsublist := (weaker_inTime registry).verdicts_sublist c rules
  exact ⟨hsublist, fun h => hsublist.antisymm ((weaker_atOnce h).verdicts_sublist c rules)⟩

/-- A registry of three fields: one answers, one fails, and one gives the reply that is said. -/
def Registry.replying (reply : Reply) : Registry := fun field =>
  match field with
  | "known" => some fun _ _ => .answer (.bool true)
  | "broken" => some fun _ _ => .failure "no answer"
  | "asked" => some fun _ _ => reply
  | _ => none

/-- Rules over these fields, and over one that is not there. -/
def fieldRules : List Rule :=
  let group fields : ConditionGroup := ⟨fields.map fun field => ⟨field, "eq", .bool true, none⟩⟩
  let rule id groups : Rule := ⟨id, id, none, true, none, some ⟨groups⟩, none, none, none⟩
  [rule "first" [group ["broken", "known"], group []],
    rule "second" [group ["known"], group ["missing", "asked"]], rule "third" [group ["missing"]]]

/-- A session at the start of the year 1, with nothing around it. -/
def quietContext : SessionContext where
  session := Session.starting "film" "ann" "server" (.universal 0)
  user := ⟨"ann", none, 50, .universal 0, none⟩
  server := ⟨"server", "Home", none⟩
  activeSessions := []
  recentSessions := []
  now := .universal 0

/-- Where the third field answers, two rules match, at once as in time. -/
theorem atOnce_eq_inTime_replying :
    (Registry.replying (.answer (.int 1))).NeverPromises ∧
      (verdicts (holdsAtOnce (.replying (.answer (.int 1)))) quietContext fieldRules).value =
        (verdicts (holdsInTime (.replying (.answer (.int 1)))) quietContext fieldRules).value ∧
      (verdicts (holdsInTime (.replying (.answer (.int 1)))) quietContext fieldRules).value.map
        Verdict.ruleId = ["first", "second"] := by
  have hprompt : (Registry.replying (.answer (.int 1))).NeverPromises := by
    intro field evaluator hfound c condition delay outcome hreply
    unfold Registry.replying at hfound
    split at hfound <;> cases hfound <;> cases hreply
  exact ⟨hprompt, (atOnce_sublist_inTime _ quietContext fieldRules).2 hprompt, by decide +kernel⟩

/-- Where it only promises an answer, the rule that needs it does not match at once. -/
example : (verdicts (holdsAtOnce (.replying (.later none (.ok (.int 1))))) quietContext
    fieldRules).value.map Verdict.ruleId = ["first"] := by decide +kernel

end StreamWatch
