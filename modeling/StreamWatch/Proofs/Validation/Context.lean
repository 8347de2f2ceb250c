import StreamWatch.Proofs.Validation.Rule
import StreamWatch.Proofs.Validation.Session
import StreamWatch.Validation.Context
import StreamWatch.Validation.Lifecycle

namespace StreamWatch

open Validation

variable {stamp : Moment → Given}

/-!
# Contexts, results and settings settle

* `SessionContext.returns`, `EvaluationContext.returns`, `Verdict.returns` — what rules are
  evaluated on, and what comes of it;
* `PauseRecord.returns`, `StopDuration.returns`, `StopResult.returns` — the results of a session's
  life;
* `SessionLimits.returns`, `MonitorConfig.returns` — settings, whose own values are within their
  bounds.
-/

/-! ### Contexts and verdicts -/

namespace SessionContext

/-- Are the parts of a context valid? -/
structure IsValid (c : SessionContext) : Prop where
  session : c.session.IsValid
  user : c.user.IsValid
  activeSessions : ∀ s ∈ c.activeSessions, s.IsValid
  recentSessions : ∀ s ∈ c.recentSessions, s.IsValid
  now : c.now.InCalendar

variable {clock : Moment}

/-- What is read of the fields of a context. -/
theorem isValid_of_fieldsOf (hclock : clock.InCalendar) (entries : Parts) :
    (fieldsOf clock entries).Ensures IsValid := by
  have htimes := moment_returns asText_stamps
  have hsessions := Session.returns asText_stamps
  simp only [fieldsOf, Checked.ensures_map, Checked.ensures_seq]
  intro session hsession user huser server _ active hactive recent hrecent now hnow
  exact ⟨hsessions.of_required hsession, (User.returns asText_stamps).of_required huser,
    hsessions.of_items hactive, hsessions.of_items hrecent, htimes.of_defaulted hclock hnow⟩

/-- The fields of a context are read back, whatever the time of reading is. -/
theorem fieldsOf_written (clock : Moment) (hstamp : Stamps stamp) {c : SessionContext}
    (hc : c.IsValid) (more : Parts) :
    fieldsOf clock (c.entries stamp ++ more) = .accepted c := by
  have hsessions := Session.returns hstamp
  simp [fieldsOf, entries, hsessions.again hc.session, (User.returns hstamp).again hc.user,
    Server.returns.again (x := c.server) trivial, hsessions.list.again hc.activeSessions,
    hsessions.list.again hc.recentSessions, (moment_returns hstamp).again hc.now]

/-- **Contexts are read back.** -/
theorem returns (hstamp : Stamps stamp) (hclock : clock.InCalendar) :
    Returns (ofGiven clock) (toGiven stamp) IsValid where
  valid := valid_of_record (isValid_of_fieldsOf hclock)
  again {c} hc := by
    have hfields := fieldsOf_written clock hstamp hc []
    rwa [List.append_nil] at hfields

end SessionContext

namespace EvaluationContext

/-- Are the context and the rule that is evaluated in it valid? -/
structure IsValid (c : EvaluationContext) : Prop where
  context : c.toSessionContext.IsValid
  rule : c.rule.IsValid

variable {clock : Moment}

/-- **Contexts with a rule are read back.** -/
theorem returns (hstamp : Stamps stamp) (hclock : clock.InCalendar) :
    Returns (ofGiven clock) (toGiven stamp) IsValid where
  valid := valid_of_record fun entries => by
    simp only [Checked.ensures_map, Checked.ensures_seq]
    exact fun context hcontext rule hrule =>
      ⟨SessionContext.isValid_of_fieldsOf hclock entries context hcontext,
        Rule.returns.of_required hrule⟩
  again {c} hc := by
    have hfields := SessionContext.fieldsOf_written clock hstamp hc.context
      [("rule", c.rule.toGiven)]
    have hrule : required "rule" Rule.ofGiven
        (c.toSessionContext.entries stamp ++ [("rule", c.rule.toGiven)]) = .accepted c.rule := by
      simp [SessionContext.entries, Rule.returns.again hc.rule]
    simp [ofGiven, toGiven, hfields, hrule]

end EvaluationContext

/-- Are the actions of a verdict valid? -/
def Verdict.IsValid (v : Verdict) : Prop := ∀ action ∈ v.actions, action.IsValid

/-- **Verdicts are read back.** -/
theorem Verdict.returns : Returns ofGiven toGiven IsValid where
  valid := valid_of_record fun entries => by
    simp only [Checked.ensures_map, Checked.ensures_seq]
    exact fun id _ name _ matched _ groups _ actions hactions => Action.returns.of_items hactions
  again {v} hv := by
    simp [ofGiven, toGiven, int_returns.list.again (x := v.matchedGroups) fun _ _ => trivial,
      Action.returns.list.again hv]

/-! ### Results of a session's life -/

/-- Is the start of the open pause a timestamp of the calendar? -/
def PauseRecord.IsValid (pauses : PauseRecord) : Prop := ∀ t ∈ pauses.lastPausedAt, t.InCalendar

/-- **The bookkeeping of pauses is read back.** -/
theorem PauseRecord.returns (hstamp : Stamps stamp) :
    Returns ofGiven (toGiven stamp) IsValid where
  valid := valid_of_record fun entries => by
    simp only [Checked.ensures_map, Checked.ensures_seq]
    exact fun paused hpaused duration _ =>
      (moment_returns hstamp).of_optional rfl hpaused
  again {pauses} hpauses := by
    simp [ofGiven, toGiven, ((moment_returns hstamp).nullable rfl).again hpauses]

/-- **The lengths of a stopped session are read back.** -/
theorem StopDuration.returns : Returns ofGiven toGiven fun _ => True where
  valid _ := trivial
  again _ := by simp [ofGiven, toGiven]

/-- Is the session of a stop valid? -/
def StopResult.IsValid (result : StopResult) : Prop := result.session.IsValid

/-- **The result of a stop is read back.** -/
theorem StopResult.returns (hstamp : Stamps stamp) :
    Returns ofGiven (toGiven stamp) IsValid where
  valid := valid_of_record fun entries => by
    simp only [Checked.ensures_map, Checked.ensures_seq]
    exact fun session hsession duration _ watched _ short _ =>
      (Session.returns hstamp).of_required hsession
  again {result} hresult := by
    simp [ofGiven, toGiven, (Session.returns hstamp).again hresult]

/-! ### Settings -/

/-- Is the part of an item that has to be played a part? -/
def SessionLimits.IsValid (limits : SessionLimits) : Prop := IsPart limits.watchCompletionThreshold

/-- The thresholds where nothing else is set are within their bounds. -/
theorem SessionLimits.standard_isValid : standard.IsValid := by
  constructor <;> decide +kernel

/-- **The thresholds of the session lifecycle are read back.** -/
theorem SessionLimits.returns : Returns ofGiven toGiven IsValid where
  valid := valid_of_record fun entries => by
    simp only [Checked.ensures_map, Checked.ensures_seq]
    exact fun timeout _ playTime _ threshold hthreshold continued _ gap _ =>
      unitFloat_returns.of_defaulted standard_isValid hthreshold
  again {limits} hlimits := by
    simp [ofGiven, toGiven, unitFloat_returns.again hlimits]

/-- Are the thresholds of the session lifecycle valid? -/
def MonitorConfig.IsValid (config : MonitorConfig) : Prop := config.limits.IsValid

/-- **The settings of a monitor are read back.** -/
theorem MonitorConfig.returns : Returns ofGiven toGiven IsValid where
  valid := valid_of_record fun entries => by
    simp only [Checked.ensures_map, Checked.ensures_seq]
    exact fun limits hlimits thresholds _ interval _ hours _ most _ failures _ cooldown _ =>
      SessionLimits.returns.of_defaulted SessionLimits.standard_isValid hlimits
  again {config} hconfig := by
    simp [ofGiven, toGiven, SessionLimits.returns.again hconfig,
      float_returns.entriesOf.again (x := config.watchThresholds) fun _ _ => trivial]

end StreamWatch
