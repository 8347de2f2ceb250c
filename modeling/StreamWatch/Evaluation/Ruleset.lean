import StreamWatch.Evaluation.Probe
import StreamWatch.Evaluation.Recorded

namespace StreamWatch

/-! # Evaluating rules

The conditions of a group are alternatives, and the groups of a rule have to hold together.
How a group is tested is left open, so that the walk over groups and rules is written once:

* `matchedGroups`: the groups of a rule, if all of them hold;
* `Rule.verdict`, `verdicts`: what the evaluation of a rule and of a ruleset says;
* `holdsAtOnce`: tests the conditions of a group one after the other until one holds;
* `holdsInTime`: tests all conditions of a group side by side, and waits for all;
* `SessionContext.ruleless`, `needNoRule`: testing conditions where there is no rule, which goes
  well as long as no notice has to name it.
-/

variable {m : Type → Type} [Monad m]

/-- The numbers of the groups, counted from `first`, if all of them hold. The first that does
    not ends the walk. -/
def matchedGroups (holds : ConditionGroup → m Bool) (first : Int) :
    List ConditionGroup → m (Option (List Int))
  | [] => pure (some [])
  | group :: rest => do
    if ← holds group then
      return (← matchedGroups holds (first + 1) rest).map (first :: ·)
    else return none

/-- The verdict on a rule whose groups matched, or did not. -/
def Rule.verdictOf (rule : Rule) (matched : Option (List Int)) : Verdict where
  ruleId := rule.id
  ruleName := rule.name
  matched := matched.isSome
  matchedGroups := matched.getD []
  actions := if matched.isSome then rule.declaredActions else []

/-- Tests a group in a context. -/
abbrev GroupTest (m : Type → Type) := EvaluationContext → ConditionGroup → m Bool

/-- Evaluates the rule of a context. A rule without conditions never matches. -/
def EvaluationContext.verdict (holds : GroupTest m) (c : EvaluationContext) : m Verdict :=
  match c.rule.conditions with
  | none => pure (c.rule.verdictOf none)
  | some conditions => do
    return c.rule.verdictOf (← matchedGroups (holds c) 0 conditions.groups)

/-- The rules of a list that apply to a server. -/
def applicableRules (serverId : String) (rules : List Rule) : List Rule :=
  rules.filter fun rule => rule.appliesTo serverId

/-- Evaluates rules one after the other and keeps the verdicts on those that match. -/
def verdictsOf (holds : GroupTest m) (c : SessionContext) : List Rule → m (List Verdict)
  | [] => pure []
  | rule :: rest => do
    let verdict ← EvaluationContext.verdict holds { c with rule := rule }
    let others ← verdictsOf holds c rest
    return if verdict.matched then verdict :: others else others

/-- Evaluates the rules that apply to the server of a context. -/
def verdicts (holds : GroupTest m) (c : SessionContext) (rules : List Rule) : m (List Verdict) :=
  verdictsOf holds c (applicableRules c.server.id rules)

/-! ### Testing a group -/

/-- Tests conditions one after the other until one holds. -/
def anyAtOnce (registry : Registry) (c : EvaluationContext) :
    List Condition → Recorded Probe Bool
  | [] => pure false
  | condition :: rest => do
    let probe := Probe.atOnce registry c condition
    if ← Recorded.ofStep probe.holds probe then return true
    else anyAtOnce registry c rest

/-- Tests a group without waiting. A group without conditions holds. -/
def holdsAtOnce (registry : Registry) : GroupTest (Recorded Probe) := fun c group =>
  if group.conditions.isEmpty then pure true else anyAtOnce registry c group.conditions

/-- Tests a group by probing all its conditions side by side. A group without conditions holds
    without being probed. -/
def holdsInTime (registry : Registry) : GroupTest (Recorded (List Probe)) := fun c group =>
  if group.conditions.isEmpty then pure true
  else
    let probes := group.conditions.map (Probe.inTime registry c)
    Recorded.ofStep (probes.any Probe.holds) probes

/-! ### Without a rule -/

/-- A context in which no rule is being evaluated: its rule says nothing. -/
def SessionContext.ruleless (c : SessionContext) : EvaluationContext :=
  { c with rule := ⟨"", "", none, true, none, none, none, none, none⟩ }

/-- There is no rule, and it is asked for. -/
def Fault.noRule : Fault := .misuse (.noAttribute "SessionContext" "rule")

/-- A value that was found without a rule. It is none if a notice has to name the rule. -/
def needNoRule {α : Type} (notices : List RuleNotice) (value : α) : Except Fault α :=
  if notices.any RuleNotice.namesRule then .error .noRule else .ok value

end StreamWatch
