import StreamWatch.Proofs.Validation.Retelling
import StreamWatch.Proofs.Validation.Rule
import StreamWatch.Validation.Context

namespace StreamWatch

open Validation

/-!
# Records with their times told in another way

Sessions, users and contexts are read of what is given, whose timestamps may be told in one way or
in another:

* `Session.tells`, `User.tells`, `SessionContext.tells` — what is read is the same in universal
  time, or refused for the same reasons;
* `Rule.tells` — a rule is taken or not, since it has no timestamps but where it takes anything;
* `EvaluationContext.tells` — hence a context with a rule is the same in universal time, too.
-/

/-! ### Sessions, users and contexts -/

namespace Session

/-- A session in universal time has the same place in its item. -/
theorem clamped_inUniversal (s : Session) : s.clamped.inUniversal = s.inUniversal.clamped := by
  have hposition : s.inUniversal.progress = s.progress := rfl
  unfold clamped
  rw [hposition]
  cases s.progress <;> rfl

/-- The fields of a session. -/
theorem fieldsOf_agree {parts parts' : Parts} (h : RetoldParts parts parts') :
    (fieldsOf parts).Agree (fun s s' => s.inUniversal = s'.inUniversal) (fieldsOf parts') := by
  have htimes := moment_tells
  have hsometimes := htimes.nullable
  unfold fieldsOf
  -- Only the four times are read of what may be told in another way.
  simp only [optional_eq, h.required_eq, h.defaulted_eq, blind_text, blind_int, blind_float,
    blind_bool, blind_intFrom, blind_oneOf, Blind.nullable]
  repeat refine .ap_same ?_
  refine .ap ?_ (h.defaulted_agree "last_paused_at" hsometimes rfl)
  repeat refine .ap_same ?_
  refine .ap ?_ (h.defaulted_agree "last_seen_at" hsometimes rfl)
  refine .ap ?_ (h.defaulted_agree "stopped_at" hsometimes rfl)
  refine .ap ?_ (h.required_agree "started_at" htimes)
  repeat refine .ap_same ?_
  refine .accepted ?_
  intro _ _ _ _ _ _ _ _ _ hstarted _ _ hstopped _ _ hseen _ _ _ _ _ hpaused
  intros
  simp only [inUniversal, hstarted, hstopped, hseen, hpaused]

/-- **Sessions** are read that are the same in universal time. -/
theorem tells : Tells ofGiven inUniversal :=
  record_tells fun h => (fieldsOf_agree h).map fun s s' hsame => by
    rw [clamped_inUniversal, clamped_inUniversal, hsame]

end Session

/-- A user with all times in universal time. -/
def User.inUniversal (u : User) : User :=
  { u with
    createdAt := u.createdAt.inUniversal
    lastActivityAt := u.lastActivityAt.map (·.inUniversal) }

/-- **Users** are read that are the same in universal time. -/
theorem User.tells : Tells ofGiven inUniversal := record_tells fun h => by
  have htimes := moment_tells
  simp only [optional_eq, h.required_eq, h.defaulted_eq, blind_text, blind_intBetween,
    Blind.nullable]
  refine .ap ?_ (h.defaulted_agree "last_activity_at" htimes.nullable rfl)
  refine .ap ?_ (h.required_agree "created_at" htimes)
  repeat refine .ap_same ?_
  refine .accepted ?_
  intro _ _ _ _ _ hcreated _ _ hactive
  simp only [inUniversal, hcreated, hactive]

/-- **Servers** are read the same. -/
@[simp] theorem Server.blind : Blind ofGiven := record_blind fun h => by
  simp only [optional_eq, h.required_eq, h.defaulted_eq, blind_text, Blind.nullable]

namespace SessionContext

/-- A context with all times in universal time. -/
def inUniversal (c : SessionContext) : SessionContext :=
  { c with
    session := c.session.inUniversal
    user := c.user.inUniversal
    activeSessions := c.activeSessions.map Session.inUniversal
    recentSessions := c.recentSessions.map Session.inUniversal
    now := c.now.inUniversal }

/-- The fields of a context. -/
theorem fieldsOf_agree (clock : Moment) {parts parts' : Parts} (h : RetoldParts parts parts') :
    (fieldsOf clock parts).Agree (fun c c' => c.inUniversal = c'.inUniversal)
      (fieldsOf clock parts') := by
  unfold fieldsOf
  simp only [h.required_eq, Server.blind]
  refine .ap ?_ (h.defaulted_agree "now" moment_tells rfl)
  refine .ap ?_ (h.defaulted_agree "recent_sessions" Session.tells.list rfl)
  refine .ap ?_ (h.defaulted_agree "active_sessions" Session.tells.list rfl)
  refine .ap_same ?_
  refine .ap ?_ (h.required_agree "server_user" User.tells)
  refine (h.required_agree "session" Session.tells).map ?_
  intro _ _ hsession _ _ huser _ _ _ hactive _ _ hrecent _ _ hnow
  simp only [inUniversal, hsession, huser, hactive, hrecent, hnow]

/-- **Contexts** are read that are the same in universal time. -/
theorem tells (clock : Moment) : Tells (ofGiven clock) inUniversal :=
  record_tells (fieldsOf_agree clock)

end SessionContext

/-! ### Rules -/

@[simp] theorem ExpectedItem.blind : Blind ofGiven := fun _ _ h => by cases h <;> rfl

@[simp] theorem ExpectedValue.blind : Blind ofGiven := by
  intro g g' h
  cases h with
  | list h => simp only [ofGiven, ExpectedItem.blind.itemsFrom h 0]
  | same | time | record => rfl

@[simp] theorem ConditionParams.blind : Blind ofGiven := record_blind fun h => by
  simp only [optional_eq, h.defaulted_eq, blind_intAbove, Blind.nullable]

@[simp] theorem Condition.blind : Blind ofGiven := record_blind fun h => by
  simp only [optional_eq, h.required_eq, h.defaulted_eq, blind_text, ExpectedValue.blind,
    ConditionParams.blind, Blind.nullable]

@[simp] theorem ConditionGroup.blind : Blind ofGiven := record_blind fun h => by
  simp only [h.defaulted_eq, Condition.blind, Blind.list]

@[simp] theorem RuleConditions.blind : Blind ofGiven := record_blind fun h => by
  simp only [h.defaulted_eq, ConditionGroup.blind, Blind.list]

namespace Action

/-- The fields of an action. -/
theorem fieldsOf_eq (kind : ActionKind) {parts parts' : Parts} (h : RetoldParts parts parts') :
    fieldsOf kind parts = fieldsOf kind parts' := by
  have hcooldown : cooldownField parts = cooldownField parts' :=
    h.defaulted_eq _ _ (blind_intAbove 0).nullable
  cases kind with
  | notify =>
    have hchannels := h.required_eq "channels" ((blind_oneOf .literal Channel.name
      [.push, .discord, .email, .webhook]).list.andThen
        (Checked.guarded (fun channels => !channels.isEmpty) .tooShort))
    rw [fieldsOf, fieldsOf, hcooldown, hchannels]
  | _ =>
    simp only [fieldsOf, hcooldown, optional_eq, h.required_eq, h.defaulted_eq, blind_bool,
      blind_intBetween, blind_textOfLength, blind_oneOf, Blind.nullable]

@[simp] theorem blind : Blind ofGiven := by
  intro g g' h
  cases h with
  | same | time | list => rfl
  | record hkeys hvalues =>
    have hparts : RetoldParts _ _ := ⟨hkeys, hvalues⟩
    simp only [ofGiven]
    rcases hparts.get?_cases "type" with ⟨hnone, hnone'⟩ | ⟨tag, tag', hsome, hsome', htag⟩
    · rw [hnone, hnone']
    · simp only [hsome, hsome', blind_oneOf _ _ _ htag, fieldsOf_eq _ hparts]

end Action

@[simp] theorem RuleActions.blind : Blind ofGiven := record_blind fun h => by
  simp only [h.defaulted_eq, Action.blind, Blind.list]

/-- Whatever is given is taken as it is. -/
theorem anything_tells : Tells (entriesOf anything) fun _ => () := by
  intro g g' h
  cases h with
  | same => exact .self _ _
  | record _ _ =>
    rw [anything_returns.again trivial, anything_returns.again trivial]
    exact .accepted rfl
  | time | list => exact .refused _

/-- **Rules** are read from both or from neither. -/
theorem Rule.tells : Tells ofGiven fun _ => () := record_tells fun h => by
  simp only [optional_eq, h.required_eq, h.defaulted_eq, blind_text, blind_bool,
    RuleConditions.blind, RuleActions.blind, Blind.nullable]
  refine .ap ?_ (h.defaulted_agree "params" anything_tells.nullable rfl)
  repeat refine .ap_same ?_
  refine .accepted ?_
  intros
  trivial

/-- **Contexts with a rule** are read that are the same in universal time. -/
theorem EvaluationContext.tells (clock : Moment) :
    Tells (ofGiven clock) fun c => c.toSessionContext.inUniversal := record_tells fun h => by
  refine .ap ?_ (h.required_agree "rule" Rule.tells)
  exact (SessionContext.fieldsOf_agree clock h).map fun c c' hc _ _ _ => hc

end StreamWatch
