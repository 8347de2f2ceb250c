import StreamWatch.Proofs.Validation.Scalar

namespace StreamWatch

open Validation

variable {stamp : Moment → Given}

/-!
# Sessions, users and servers settle

What reading makes sure of, and that everything of which it is sure is read once more:

* `Session.IsValid`, `User.IsValid` — what is known of a session and of a user that were read;
* `Session.returns`, `User.returns`, `Server.returns` — they are read back from what is written,
  whatever the form of the timestamps is, as long as it `Stamps` them.
-/

namespace PlaybackState

/-- Every state is one of a list. -/
theorem mem_all (state : PlaybackState) : state ∈ all := by cases state <;> decide

/-- The names of states. -/
theorem oneOf_returns :
    Returns (oneOf .choice name all) (fun state => .text state.name) (· ∈ all) :=
  Validation.oneOf_returns .choice name (by decide)

end PlaybackState

namespace Session

/-- Does a session satisfy what reading makes sure of?  Its times are timestamps of the calendar,
    its position is an integer inside the item if there is one, no pauses of a negative length are
    recorded, and the stop was forced or not. -/
structure IsValid (s : Session) : Prop where
  startedAt : s.startedAt.InCalendar
  stoppedAt : ∀ t ∈ s.stoppedAt, t.InCalendar
  lastSeenAt : ∀ t ∈ s.lastSeenAt, t.InCalendar
  lastPausedAt : ∀ t ∈ s.lastPausedAt, t.InCalendar
  position : ∃ position : Option Int, s.progress = .ofOption .int position
  clamped : s.clamped = s
  pausedDuration : 0 ≤ s.pausedDuration
  forceStopped : ∃ forced, s.forceStopped = .bool forced

/-- A position inside the item stays there. -/
theorem clampPosition_idem (total : Option Int) (position : Int) :
    clampPosition total (clampPosition total position) = clampPosition total position := by
  unfold clampPosition
  cases total with
  | none => rfl
  | some length =>
    simp only
    split
    · rfl
    · omega

/-- An integer that is a position is moved inside the item. -/
theorem clamped_of_position {s : Session} {position : Option Int}
    (h : s.progress = .ofOption .int position) :
    s.clamped = { s with
      progress := .ofOption .int (position.map (clampPosition s.totalDuration)) } := by
  cases position with
  | none =>
    unfold clamped
    rw [h]
    exact congrArg (fun progress => { s with progress := progress }) h
  | some position =>
    unfold clamped
    rw [h]
    rfl

/-- What is read of the fields of a session. -/
theorem isValid_of_fieldsOf (entries : Parts) :
    (clamped <$> fieldsOf entries).Ensures IsValid := by
  have htimes := moment_returns asText_stamps
  simp only [fieldsOf, Checked.ensures_map, Checked.ensures_seq]
  simp only [Checked.Ensures]
  intro _ _ _ _ _ _ _ _ _ _ _ _ _ _ startedAt hstartedAt stoppedAt hstoppedAt lastSeenAt
    hlastSeenAt position _ total _ _ _ lastPausedAt hlastPausedAt paused hpaused _ _ _ _ _ _ forced
  intros
  rw [clamped_of_position rfl]
  refine ⟨htimes.of_required hstartedAt, htimes.of_optional rfl hstoppedAt,
    htimes.of_optional rfl hlastSeenAt, htimes.of_optional rfl hlastPausedAt, ⟨_, rfl⟩, ?_,
    (intFrom_returns 0).of_defaulted (Int.le_refl 0) hpaused, ⟨forced, rfl⟩⟩
  rw [clamped_of_position rfl]
  cases position with
  | none => rfl
  | some position => simp only [Option.map_some, clampPosition_idem]

/-- **Sessions are read back.** -/
theorem returns (hstamp : Stamps stamp) : Returns ofGiven (toGiven stamp) IsValid where
  valid := valid_of_record isValid_of_fieldsOf
  again {s} hs := by
    have htimes := moment_returns hstamp
    have hsometimes := htimes.nullable rfl
    -- These two fields may hold anything while a session is watched, but not when it was read.
    obtain ⟨position, hposition⟩ := hs.position
    obtain ⟨forced, hforced⟩ := hs.forceStopped
    calc ofGiven (s.toGiven stamp)
        = clamped <$> .accepted { s with
            progress := .ofOption .int position, forceStopped := .bool forced } := by
          simp [ofGiven, toGiven, fieldsOf, hposition, hforced, Datum.given,
            htimes.again hs.startedAt, hsometimes.again hs.stoppedAt,
            hsometimes.again hs.lastSeenAt, hsometimes.again hs.lastPausedAt,
            (intFrom_returns 0).again hs.pausedDuration,
            PlaybackState.oneOf_returns.again s.state.mem_all]
      _ = .accepted s := by
          rw [← hposition, ← hforced]
          exact congrArg Checked.accepted hs.clamped

end Session

namespace User

/-- Does a user satisfy what reading makes sure of? -/
structure IsValid (u : User) : Prop where
  trustScore : 0 ≤ u.trustScore ∧ u.trustScore ≤ 100
  createdAt : u.createdAt.InCalendar
  lastActivityAt : ∀ t ∈ u.lastActivityAt, t.InCalendar

/-- **Users are read back.** -/
theorem returns (hstamp : Stamps stamp) : Returns ofGiven (toGiven stamp) IsValid where
  valid := valid_of_record fun entries => by
    have htimes := moment_returns hstamp
    simp only [Checked.ensures_map, Checked.ensures_seq]
    intro id _ name _ trust htrust createdAt hcreatedAt lastActivityAt hlastActivityAt
    exact ⟨(intBetween_returns 0 100).of_defaulted (by decide) htrust,
      htimes.of_required hcreatedAt, htimes.of_optional rfl hlastActivityAt⟩
  again {u} hu := by
    have htimes := moment_returns hstamp
    simp [ofGiven, toGiven, (intBetween_returns 0 100).again hu.trustScore,
      htimes.again hu.createdAt, (htimes.nullable rfl).again hu.lastActivityAt]

end User

namespace Server

/-- **Servers are read back.** -/
theorem returns : Returns ofGiven toGiven fun _ => True where
  valid _ := trivial
  again _ := by
    simp [ofGiven, toGiven]

end Server

end StreamWatch
