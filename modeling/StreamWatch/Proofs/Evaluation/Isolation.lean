import StreamWatch.Proofs.Evaluation.Inquiry

namespace StreamWatch

/-!
# What other users do is no concern of the rules

A context shows the sessions of everybody, and some fields walk over them.  But no field looks
at a session of another user:

* `SessionContext.SameForUser` — two contexts that differ at most in the sessions of other users;
* `SameForUser.observe_eq`, `SameForUser.evaluate_eq` — every field observes the same in both, or
  has the same fault;
* `verdicts_congr` — an evaluation of rules depends on its context by the tests of groups only;
* `SameForUser.verdicts_eq` — the evaluations of any rules agree, step by step;
* `Inquiry.withOwn`, `Inquiry.verdicts_withOwn` — an evaluation that can be interrupted asks the
  same questions in contexts without the sessions of other users, and
  `Inquiry.answerNext_withOwn`, by which it gets the same answers.
-/

namespace SessionContext

/-- Do two contexts differ at most in the sessions of other users? -/
structure SameForUser (c c' : SessionContext) : Prop where
  session : c'.session = c.session
  user : c'.user = c.user
  server : c'.server = c.server
  now : c'.now = c.now
  ownActive : c'.ownActive = c.ownActive
  ownRecent : c'.ownRecent = c.ownRecent

namespace SameForUser

variable {c c' : SessionContext}

/-! ### Observations -/

/-- The greatest distance is one to a session of the user. -/
theorem greatestDistance_eq (h : c.SameForUser c') : c'.greatestDistance = c.greatestDistance := by
  unfold greatestDistance
  rw [h.session, h.ownActive]

/-- The session before is one of the user. -/
theorem travelSpeed_eq (h : c.SameForUser c') : c'.travelSpeed = c.travelSpeed := by
  have hprevious : c'.previousSession? = c.previousSession? := by
    unfold previousSession?
    rw [h.session, h.ownRecent]
  unfold travelSpeed
  rw [h.session, hprevious]

/-- What is counted in a window is of the user. -/
theorem countInWindow_eq (h : c.SameForUser c') (hours : Int) (label : Session → String) :
    c'.countInWindow hours label = c.countInWindow hours label := by
  have hwithin : c'.recentWithin hours = c.recentWithin hours := by
    unfold recentWithin
    rw [h.session, h.ownRecent]
  unfold countInWindow
  rw [h.session, hwithin]

/-- Every field observes the same, or has the same fault. -/
theorem observe_eq (h : c.SameForUser c') (field : ConditionField) (hours : Int) :
    field.observe c' hours = field.observe c hours := by
  -- One case for each field that walks over sessions; the others look at the session, at the
  -- user, at the server and at the time.
  cases field with
  | concurrentStreams => simp only [ConditionField.observe, h.ownActive]
  | activeSessionDistance => simp only [ConditionField.observe, h.greatestDistance_eq]
  | travelSpeed => simp only [ConditionField.observe, h.travelSpeed_eq]
  | uniqueAddresses => simp only [ConditionField.observe, h.countInWindow_eq]
  | uniqueDevices => simp only [ConditionField.observe, h.countInWindow_eq]
  | _ => simp only [ConditionField.observe, daysSince, h.session, h.user, h.server, h.now]

/-- A condition on any field holds in both contexts, or in none, or has the same fault. -/
theorem evaluate_eq (h : c.SameForUser c') (field : ConditionField) (condition : Condition) :
    field.evaluate c' condition = field.evaluate c condition := by
  unfold ConditionField.evaluate
  rw [h.observe_eq]

/-! ### Tests of conditions and of groups -/

/-- The standard evaluators give the same replies. -/
theorem reply_eq (h : c.SameForUser c') (rule : Rule) {name : String} {evaluator : Evaluator}
    (hfound : Registry.standard name = some evaluator) (condition : Condition) :
    evaluator { c' with rule := rule } condition = evaluator { c with rule := rule } condition := by
  obtain ⟨field, -, rfl⟩ := Option.map_eq_some_iff.mp hfound
  unfold ConditionField.evaluator
  rw [h.evaluate_eq]

/-- A condition is tested at once with the same end and the same notices. -/
theorem atOnce_eq (h : c.SameForUser c') (rule : Rule) (condition : Condition) :
    Probe.atOnce .standard { c' with rule := rule } condition =
      Probe.atOnce .standard { c with rule := rule } condition := by
  unfold Probe.atOnce
  cases hfound : Registry.standard condition.field with
  | none => rfl
  | some evaluator =>
    simp only [h.reply_eq rule hfound, Probe.ended, Probe.failureNotice, h.session]

/-- A condition is tested in time with the same end and the same notices. -/
theorem inTime_eq (h : c.SameForUser c') (rule : Rule) (condition : Condition) :
    Probe.inTime .standard { c' with rule := rule } condition =
      Probe.inTime .standard { c with rule := rule } condition := by
  unfold Probe.inTime
  cases hfound : Registry.standard condition.field with
  | none => rfl
  | some evaluator =>
    simp only [h.reply_eq rule hfound, Probe.ended, Probe.failureNotice, h.session]

/-- Groups are tested at once by the same steps. -/
theorem holdsAtOnce_eq (h : c.SameForUser c') (rule : Rule) :
    holdsAtOnce .standard { c' with rule := rule } =
      holdsAtOnce .standard { c with rule := rule } := by
  have hany (conditions : List Condition) :
      anyAtOnce .standard { c' with rule := rule } conditions =
        anyAtOnce .standard { c with rule := rule } conditions := by
    induction conditions with
    | nil => rfl
    | cons condition rest ih => simp only [anyAtOnce, h.atOnce_eq, ih]
  funext group
  unfold holdsAtOnce
  rw [hany]

/-- Groups are tested in time by the same steps. -/
theorem holdsInTime_eq (h : c.SameForUser c') (rule : Rule) :
    holdsInTime .standard { c' with rule := rule } =
      holdsInTime .standard { c with rule := rule } := by
  funext group
  unfold holdsInTime
  simp only [funext (h.inTime_eq rule)]

end SameForUser

end SessionContext

/-- A context in which only the sessions of the user are active. -/
def SessionContext.withOwn (c : SessionContext) : SessionContext :=
  { c with activeSessions := c.ownActive }

/-- Only sessions of other users are missing there. -/
theorem SessionContext.sameForUser_withOwn (c : SessionContext) : c.SameForUser c.withOwn := by
  refine ⟨rfl, rfl, rfl, rfl, ?_, rfl⟩
  show (c.ownActive).filter (fun s => s.userId == c.user.id) = c.ownActive
  unfold ownActive
  rw [List.filter_filter]
  simp only [Bool.and_self]

/-! ### Rules -/

/-- An evaluation of rules depends on its context by the server and by the tests of groups
    only. -/
theorem verdicts_congr {m : Type → Type} [Monad m] {holds : GroupTest m} {c c' : SessionContext}
    (hserver : c'.server = c.server)
    (hholds : ∀ rule, holds { c' with rule := rule } = holds { c with rule := rule })
    (rules : List Rule) : verdicts holds c' rules = verdicts holds c rules := by
  unfold verdicts
  rw [hserver]
  induction applicableRules c.server.id rules with
  | nil => rfl
  | cons rule rest ih =>
    have hverdict : EvaluationContext.verdict holds { c' with rule := rule } =
        EvaluationContext.verdict holds { c with rule := rule } := by
      unfold EvaluationContext.verdict
      rw [hholds rule]
    rw [verdictsOf, verdictsOf, hverdict, ih]

/-- What is logged while rules are evaluated at once. -/
def loggedAtOnce (registry : Registry) (c : SessionContext) (rules : List Rule) : List LogEntry :=
  ((verdicts (holdsAtOnce registry) c rules).steps.flatMap Probe.notices).map RuleNotice.entry

/-- What is logged while rules are evaluated in time. -/
def loggedInTime (registry : Registry) (c : SessionContext) (rules : List Rule) : List LogEntry :=
  ((verdicts (holdsInTime registry) c rules).steps.flatMap noticesInTime).map RuleNotice.entry

/-- **The sessions of other users change nothing for a user.**  In two contexts that differ at
    most in them, any rules have the same verdicts from the standard evaluators, and the same is
    logged, at once as in time. -/
theorem SessionContext.SameForUser.verdicts_eq {c c' : SessionContext} (h : c.SameForUser c')
    (rules : List Rule) :
    ((verdicts (holdsAtOnce .standard) c' rules).value =
        (verdicts (holdsAtOnce .standard) c rules).value ∧
      loggedAtOnce .standard c' rules = loggedAtOnce .standard c rules) ∧
    ((verdicts (holdsInTime .standard) c' rules).value =
        (verdicts (holdsInTime .standard) c rules).value ∧
      loggedInTime .standard c' rules = loggedInTime .standard c rules) := by
  have hatOnce := verdicts_congr h.server h.holdsAtOnce_eq rules
  have hinTime := verdicts_congr h.server h.holdsInTime_eq rules
  unfold loggedAtOnce loggedInTime
  rw [hatOnce, hinTime]
  exact ⟨⟨rfl, rfl⟩, ⟨rfl, rfl⟩⟩

/-- A session of carl, at a place that is none, in a year that is far off. -/
def streamOfCarl : Session :=
  { Session.starting "trip" "carl" "server" (.universal (twoPow 58)) with
    latitude := some positiveInfinity, longitude := some positiveInfinity }

/-- Two sessions of ann, and what else is active and recent. -/
def eveningWith (others : List Session) : SessionContext :=
  { quietContext with
    activeSessions :=
      [quietContext.session] ++ others ++ [{ quietContext.session with id := "song" }]
    recentSessions := others }

/-- Rules over the sessions of a user. No window reaches back beyond the year 1. -/
def sessionRules : List Rule :=
  let rule id field operator : Rule :=
    ⟨id, id, none, true, none, some ⟨[⟨[⟨field, operator, .int 2, none⟩]⟩]⟩, none, none, none⟩
  [rule "two" "concurrent_streams" "eq", rule "far" "active_session_distance_km" "lt",
    rule "fast" "travel_speed_kmh" "lt", rule "moved" "unique_ips_in_window" "gte"]

/-- Carl changes nothing for ann: she has two sessions, and the rule that looks back is logged. -/
theorem verdicts_eq_carlAbroad :
    (eveningWith []).SameForUser (eveningWith [streamOfCarl, streamOfCarl]) ∧
      (verdicts (holdsAtOnce .standard) (eveningWith [streamOfCarl, streamOfCarl])
          sessionRules).value =
        (verdicts (holdsAtOnce .standard) (eveningWith []) sessionRules).value ∧
      loggedAtOnce .standard (eveningWith [streamOfCarl, streamOfCarl]) sessionRules =
        loggedAtOnce .standard (eveningWith []) sessionRules ∧
      (verdicts (holdsAtOnce .standard) (eveningWith []) (sessionRules.take 1)).value.map
        Verdict.ruleId = ["two"] ∧
      (loggedAtOnce .standard (eveningWith []) (sessionRules.drop 2)).map LogEntry.event =
        ["Error evaluating condition"] := by
  have hsame : (eveningWith []).SameForUser (eveningWith [streamOfCarl, streamOfCarl]) :=
    ⟨rfl, rfl, rfl, rfl, rfl, rfl⟩
  obtain ⟨⟨hvalue, hlogged⟩, -⟩ := hsame.verdicts_eq sessionRules
  exact ⟨hsame, hvalue, hlogged, by decide +kernel, by decide +kernel⟩

/-! ### Inquiries -/

/-- An evaluation context in which only the sessions of the user are active. -/
def EvaluationContext.withOwn (c : EvaluationContext) : EvaluationContext :=
  { c with toSessionContext := c.toSessionContext.withOwn }

namespace Inquiry

variable {α β : Type}

/-- An inquiry that asks its questions where only the sessions of the user are active. -/
def withOwn : Inquiry α → Inquiry α
  | done result => done result
  | ask c condition next => ask c.withOwn condition fun holds => (next holds).withOwn

/-- What is done already is done. -/
@[simp] theorem withOwn_pure (a : α) : (pure a : Inquiry α).withOwn = pure a := rfl

/-- An inquiry in two parts. -/
@[simp] theorem withOwn_bind (inquiry : Inquiry α) (f : α → Inquiry β) :
    (inquiry >>= f).withOwn = inquiry.withOwn >>= fun a => (f a).withOwn := by
  induction inquiry with
  | done result => rfl
  | ask c condition next ih =>
    exact congrArg (ask c.withOwn condition) (funext fun holds => ih holds)

/-- The next question has the same answer there. -/
theorem answerNext_withOwn (inquiry : Inquiry α) :
    inquiry.withOwn.answerNext .standard = (inquiry.answerNext .standard).withOwn := by
  cases inquiry with
  | done result => rfl
  | ask c condition next =>
    have hsame : Probe.inTime .standard c.withOwn condition = Probe.inTime .standard c condition :=
      c.toSessionContext.sameForUser_withOwn.inTime_eq c.rule condition
    simp only [withOwn, answerNext, hsame]

/-- Groups are tested there by the same questions. -/
theorem asking_withOwn (c : EvaluationContext) (group : ConditionGroup) :
    asking c.withOwn group = (asking c group).withOwn := by
  have hall (conditions : List Condition) :
      askAll c.withOwn conditions = (askAll c conditions).withOwn := by
    induction conditions with
    | nil => rfl
    | cons condition rest ih => simp only [askAll, withOwn, withOwn_bind, withOwn_pure, ih]
  unfold asking
  split
  · rfl
  · exact hall group.conditions

/-- The groups of a rule are found there by the same questions. -/
theorem matchedGroups_withOwn (c : EvaluationContext) (first : Int)
    (groups : List ConditionGroup) :
    matchedGroups (asking c.withOwn) first groups =
      (matchedGroups (asking c) first groups).withOwn := by
  induction groups generalizing first with
  | nil => rfl
  | cons group rest ih =>
    rw [matchedGroups, matchedGroups, withOwn_bind, asking_withOwn]
    refine congrArg _ (funext fun holds => ?_)
    split
    · rw [withOwn_bind, ih]
      rfl
    · rfl

/-- The verdict on a rule is found there by the same questions. -/
theorem verdict_withOwn (c : EvaluationContext) :
    EvaluationContext.verdict asking c.withOwn = (EvaluationContext.verdict asking c).withOwn := by
  have hrule : c.withOwn.rule = c.rule := rfl
  unfold EvaluationContext.verdict
  rw [hrule]
  cases c.rule.conditions with
  | none => rfl
  | some conditions => simp only [matchedGroups_withOwn, withOwn_bind, withOwn_pure]

/-- **The verdicts on rules are found by the same questions** where only the sessions of the user
    are active. -/
theorem verdicts_withOwn (c : SessionContext) (rules : List Rule) :
    verdicts asking c.withOwn rules = (verdicts asking c rules).withOwn := by
  have hserver : c.withOwn.server = c.server := rfl
  unfold verdicts
  rw [hserver]
  induction applicableRules c.server.id rules with
  | nil => rfl
  | cons rule rest ih =>
    have hverdict : EvaluationContext.verdict asking { c.withOwn with rule := rule } =
        (EvaluationContext.verdict asking { c with rule := rule }).withOwn :=
      verdict_withOwn { c with rule := rule }
    simp only [verdictsOf, hverdict, ih, withOwn_bind, withOwn_pure]

end Inquiry

end StreamWatch
