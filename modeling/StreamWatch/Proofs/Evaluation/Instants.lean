import StreamWatch.Field.Observe
import StreamWatch.Proofs.Lifecycle.Offsets
import StreamWatch.Proofs.Validation.RetoldRecords

namespace StreamWatch

open Validation

/-!
# The fields of conditions by instants

Some fields look at times: at those of the session, of other sessions of the user, of the user, and
at the time of the evaluation.  They look at the instants alone:

* `SessionContext.inUniversal` — a context with all times in universal time;
* `SessionContext.previousSession?_inUniversal`, `SessionContext.travelSpeed_inUniversal`,
  `SessionContext.greatestDistance_inUniversal` — walks over sessions, told in universal time;
* `SessionContext.countInWindow_agree` — a window of hours before a session, whose start is a time
  that is shifted;
* `ConditionField.observe_agree` — every field observes the same in two contexts that are the same
  in universal time, unless a window starts outside the calendar;
* `ConditionField.unmixed_observe` — no field relates a time with an offset to one without;
* `only_instants_count` — the same for all that happens to a session, and no time with an offset
  meets one without.
-/

namespace SessionContext

/-! ### Walks over sessions -/

/-- The active sessions of the user are the same in universal time. -/
theorem ownActive_inUniversal (c : SessionContext) :
    c.inUniversal.ownActive = c.ownActive.map Session.inUniversal := List.filter_map ..

/-- The recent sessions of the user are the same in universal time. -/
theorem ownRecent_inUniversal (c : SessionContext) :
    c.inUniversal.ownRecent = c.ownRecent.map Session.inUniversal := List.filter_map ..

/-- The later of two sessions is the same in universal time. -/
theorem laterOf_inUniversal (a b : Session) :
    laterOf a.inUniversal b.inUniversal = (laterOf a b).inUniversal := by
  unfold laterOf
  rw [apply_ite Session.inUniversal]
  rfl

/-- The session before is the same in universal time. -/
theorem previousSession?_inUniversal (c : SessionContext) :
    c.inUniversal.previousSession? = c.previousSession?.map Session.inUniversal := by
  have hothers : (c.inUniversal.ownRecent.filter fun s => s.id != c.inUniversal.session.id) =
      (c.ownRecent.filter fun s => s.id != c.session.id).map Session.inUniversal := by
    rw [ownRecent_inUniversal, List.filter_map]
    rfl
  unfold previousSession?
  rw [hothers]
  cases c.ownRecent.filter fun s => s.id != c.session.id with
  | nil => rfl
  | cons first rest =>
    simp only [List.map_cons, Option.map_some, List.foldl_map]
    -- The walk goes on from the later session, whichever that is.
    induction rest generalizing first with
    | nil => rfl
    | cons second rest ih => rw [List.foldl_cons, List.foldl_cons, laterOf_inUniversal, ih]

/-- The greatest distance to another session is the same in universal time. -/
theorem greatestDistance_inUniversal (c : SessionContext) :
    c.inUniversal.greatestDistance = c.greatestDistance := by
  unfold greatestDistance
  rw [ownActive_inUniversal, List.filter_map, List.foldlM_map]
  rfl

/-- The speed of the way from the session before is the same in universal time. -/
theorem travelSpeed_inUniversal (c : SessionContext) :
    c.inUniversal.travelSpeed = c.travelSpeed := by
  unfold travelSpeed
  rw [previousSession?_inUniversal]
  cases c.previousSession? with
  | none => rfl
  | some previous => rfl

/-! ### Windows of time -/

variable {c c' : SessionContext}

/-- The sessions since a time have the same labels in universal time. -/
theorem labels_inUniversal (c : SessionContext) {label : Session → String}
    (hlabel : ∀ s : Session, label s.inUniversal = label s) (cutoff : Moment) :
    (c.inUniversal.ownRecent.filter fun s => !s.startedAt.isBefore cutoff.inUniversal).map label =
      (c.ownRecent.filter fun s => !s.startedAt.isBefore cutoff).map label := by
  rw [ownRecent_inUniversal, List.filter_map, List.map_map]
  exact List.map_congr_left fun s _ => hlabel s

/-- What is counted in a window, step by step: the window has to have a length and a start. -/
theorem countInWindow_eq_bind (c : SessionContext) (hours : Int) (label : Session → String) :
    c.countInWindow hours label = (Duration.ofHours hours).bind fun window =>
      (c.session.startedAt.shift (-window)).bind fun cutoff => .ok (countDistinct
        (label c.session ::
          (c.ownRecent.filter fun s => !s.startedAt.isBefore cutoff).map label)) := by
  unfold countInWindow recentWithin
  cases Duration.ofHours hours with
  | error fault => rfl
  | ok window =>
    show ((c.session.startedAt.shift (-window)).bind _).map _ =
      (c.session.startedAt.shift (-window)).bind _
    cases c.session.startedAt.shift (-window) with
    | error fault => rfl
    | ok cutoff => rfl

/-- What is counted in a window goes by the instants, as long as the windows start in the
    calendar. -/
theorem countInWindow_agree (h : c.inUniversal = c'.inUniversal) (hours : Int)
    {label : Session → String} (hlabel : ∀ s : Session, label s.inUniversal = label s) :
    AgreeInRange (c.countInWindow hours label) (c'.countInWindow hours label) := by
  have hstarted : c.session.startedAt.instant = c'.session.startedAt.instant := by
    show c.inUniversal.session.startedAt.instant = c'.inUniversal.session.startedAt.instant
    rw [h]
  have hown : label c.session = label c'.session := by
    rw [← hlabel c.session, ← hlabel c'.session]
    show label c.inUniversal.session = label c'.inUniversal.session
    rw [h]
  rw [countInWindow_eq_bind, countInWindow_eq_bind]
  apply AgreeInRange.bind
  intro window
  apply AgreeInRange.shift hstarted
  intro cutoff cutoff' hcutoff
  have hsame := Timestamp.inUniversal_eq_iff.mpr hcutoff
  rw [hown, ← labels_inUniversal c hlabel, ← labels_inUniversal c' hlabel, h, hsame]
  exact .of_eq rfl

end SessionContext

/-! ### Observations -/

namespace ConditionField
open SessionContext

variable {c c' : SessionContext}

/-- Does a field look back a number of hours? -/
def LooksBack (field : ConditionField) : Prop := field = uniqueAddresses ∨ field = uniqueDevices

/-- A field that does not look back a number of hours observes the same in universal time. -/
theorem observe_inUniversal (c : SessionContext) {field : ConditionField}
    (h : ¬ field.LooksBack) (hours : Int) :
    field.observe c.inUniversal hours = field.observe c hours := by
  -- One case for each field that walks over sessions or looks at times.
  cases field with
  | uniqueAddresses => exact absurd (.inl rfl) h
  | uniqueDevices => exact absurd (.inr rfl) h
  | concurrentStreams => simp only [observe, ownActive_inUniversal, List.length_map]
  | activeSessionDistance => simp only [observe, greatestDistance_inUniversal]
  | travelSpeed => simp only [observe, travelSpeed_inUniversal]
  | inactiveDays =>
    have hmoment : c.inUniversal.user.lastActivityAt.getD c.inUniversal.user.createdAt =
        (c.user.lastActivityAt.getD c.user.createdAt).inUniversal := Option.getD_map ..
    simp only [observe, hmoment]
    rfl
  | _ => rfl

/-- **Every field** observes the same in two contexts that are the same in universal time, unless
    it looks back for hours and out of the calendar. -/
theorem observe_agree (h : c.inUniversal = c'.inUniversal) (field : ConditionField) (hours : Int) :
    AgreeInRange (field.observe c hours) (field.observe c' hours) := by
  by_cases hfield : field.LooksBack
  · rcases hfield with rfl | rfl
    · exact (countInWindow_agree h hours fun _ => rfl).map _
    · exact (countInWindow_agree h hours fun _ => rfl).map _
  · apply AgreeInRange.of_eq
    rw [← observe_inUniversal c hfield, h, observe_inUniversal c' hfield]

/-- A condition on any field holds in both contexts or in none, with the same exception. -/
theorem evaluate_agree (h : c.inUniversal = c'.inUniversal) (field : ConditionField)
    (condition : Condition) :
    AgreeInRange (field.evaluate c condition) (field.evaluate c' condition) :=
  (observe_agree h field condition.windowHours).map _

end ConditionField

/-! ### Offsets -/

/-- A walk over a list has no fault of mixed offsets, if no step has one. -/
theorem Unmixed.foldlM {α β : Type} {f : β → α → Except Fault β} (h : ∀ b a, Unmixed (f b a))
    (items : List α) (b : β) : Unmixed (items.foldlM f b) := by
  induction items generalizing b with
  | nil => exact .ok b
  | cons a rest ih =>
    rw [List.foldlM_cons]
    exact (h b a).bind ih

namespace Geo

theorem unmixed_difference (a b : Number) : Unmixed (difference a b) := by
  unfold difference
  split
  · exact Number.unmixed_double _
  · exact (Number.unmixed_double _).bind fun _ => (Number.unmixed_double _).bind fun _ => .ok _

theorem unmixed_trigonometric (f : Float → Float) (x : Float) : Unmixed (trigonometric f x) := by
  unfold trigonometric
  split
  · nofun
  · exact .ok _

theorem unmixed_squareRoot (x : Float) : Unmixed (squareRoot x) := by
  unfold squareRoot
  split
  · nofun
  · exact .ok _

/-- Distances have nothing to do with times. -/
theorem unmixed_greatCircle (a b : Place) : Unmixed (greatCircle a b) := by
  have hsquare : ∀ angle, Unmixed (halfSineSquared angle) := fun _ =>
    (unmixed_trigonometric _ _).map _
  unfold greatCircle
  refine (unmixed_difference _ _).bind fun north => (unmixed_difference _ _).bind fun east => ?_
  refine (hsquare _).bind fun northPart => ?_
  refine (Number.unmixed_double _).bind fun _ => (unmixed_trigonometric _ _).bind fun cosA => ?_
  refine (Number.unmixed_double _).bind fun _ => (unmixed_trigonometric _ _).bind fun cosB => ?_
  refine (hsquare _).bind fun eastPart => ?_
  exact (unmixed_squareRoot _).bind fun _ => (unmixed_squareRoot _).bind fun _ => .ok _

/-- Nor do distances between places that may not be known. -/
theorem unmixed_distance? (a b : Option Place) : Unmixed (distance? a b) := by
  unfold distance?
  split
  · exact (unmixed_greatCircle _ _).map _
  · exact .ok _

end Geo

namespace ConditionField

open SessionContext

/-- No field has a fault of mixed offsets. -/
theorem unmixed_observe (field : ConditionField) (c : SessionContext) (hours : Int) :
    Unmixed (field.observe c hours) := by
  have hcount : ∀ label, Unmixed (c.countInWindow hours label) := by
    intro label
    rw [countInWindow_eq_bind]
    exact (Duration.unmixed_checked _).bind fun _ => (Moment.unmixed_shift _ _).bind fun _ => .ok _
  cases field with
  | activeSessionDistance =>
    exact (Unmixed.foldlM (fun _ _ => (Geo.unmixed_distance? _ _).map _) _ _).map _
  | travelSpeed =>
    apply Unmixed.map
    unfold SessionContext.travelSpeed
    split
    · exact .ok _
    · exact (Geo.unmixed_distance? _ _).map _
  | uniqueAddresses => exact (hcount _).map _
  | uniqueDevices => exact (hcount _).map _
  | sourceBitrate =>
    apply Unmixed.map
    unfold Session.sourceMegabits
    split
    · exact .ok _
    · nofun
  | _ => exact .ok _

end ConditionField

/-! ### All results -/

/-- **Timestamps count as instants only.**  Let everything be given twice, with times that are the
    same in universal time, some of which may have no offset.

    * What is read of sessions and contexts is the same in universal time, or is refused for the
      same reasons.
    * Pauses, times watched, reports and stops have the same results in universal time.
    * A session is stale in both cases or in none.
    * A session is resumed by the same one, every field observes the same and every condition holds
      in both contexts or in none, unless there is a date outside the calendar in one of the two.
    * Nowhere does a time with an offset meet one without. -/
theorem only_instants_count {pauses pauses' : PauseData} {s s' : Session} {c c' : SessionContext}
    {time time' : Option Timestamp} {now now' : Timestamp}
    (hpauses : pauses.inUniversal = pauses'.inUniversal) (hs : s.inUniversal = s'.inUniversal)
    (hc : c.inUniversal = c'.inUniversal) (htime : toldInUniversal time = toldInUniversal time')
    (hnow : now.inUniversal = now'.inUniversal) :
    (Tells Session.ofGiven Session.inUniversal ∧
      (∀ clock, Tells (SessionContext.ofGiven clock) SessionContext.inUniversal) ∧
      ∀ clock, Tells (EvaluationContext.ofGiven clock) fun c => c.toSessionContext.inUniversal) ∧
    (∀ previous new, (pauses.advanceAt previous new time).map PauseRecord.inUniversal =
      (pauses'.advanceAt previous new time').map PauseRecord.inUniversal) ∧
    s.stopDurationAt time = s'.stopDurationAt time' ∧
    (∀ name position, (s.advanceNamed name time position).map Session.inUniversal =
      (s'.advanceNamed name time' position).map Session.inUniversal) ∧
    (∀ mode, (s.stopAt time mode).map StopResult.inUniversal =
      (s'.stopAt time' mode).map StopResult.inUniversal) ∧
    (∀ timeout, isStaleOf time timeout now = isStaleOf time' timeout now') ∧
    (∀ position threshold limits, AgreeInRange (s.resumeLink position threshold now limits)
      (s'.resumeLink position threshold now' limits)) ∧
    (∀ field : ConditionField,
      (∀ hours, AgreeInRange (field.observe c hours) (field.observe c' hours)) ∧
      ∀ condition, AgreeInRange (field.evaluate c condition) (field.evaluate c' condition)) ∧
    (∀ previous new, Unmixed (pauses.advanceAt previous new time)) ∧
    Unmixed (s.stopDurationAt time) ∧
    (∀ name position, Unmixed (s.advanceNamed name time position)) ∧
    (∀ mode, Unmixed (s.stopAt time mode)) ∧
    (∀ timeout, Unmixed (isStaleOf time timeout now)) ∧
    (∀ position threshold limits, Unmixed (s.resumeLink position threshold now limits)) ∧
    ∀ (field : ConditionField) (hours : Int), Unmixed (field.observe c hours) := by
  refine ⟨⟨Session.tells, SessionContext.tells, EvaluationContext.tells⟩,
    fun previous new => ?_, ?_, fun name position => ?_, fun mode => ?_, fun timeout => ?_,
    fun position threshold limits => ?_,
    fun field => ⟨fun hours => ?_, fun condition => ?_⟩, (pauses.unmixed_advanceAt · · time),
    s.unmixed_stopDurationAt time, (s.unmixed_advanceNamed · time ·), s.unmixed_stopAt time,
    (unmixed_isStaleOf time · now), (s.unmixed_resumeLink · · now ·), (·.unmixed_observe c)⟩
  · rw [← PauseData.advanceAt_inUniversal, hpauses, htime, PauseData.advanceAt_inUniversal]
  · rw [← Session.stopDurationAt_inUniversal, hs, htime, Session.stopDurationAt_inUniversal]
  · rw [← Session.advanceNamed_inUniversal, hs, htime, Session.advanceNamed_inUniversal]
  · rw [← Session.stopAt_inUniversal, hs, htime, Session.stopAt_inUniversal]
  · rw [← isStaleOf_inUniversal, htime, hnow, isStaleOf_inUniversal]
  · exact Session.resumeLink_agree hs hnow position threshold limits
  · exact ConditionField.observe_agree hc field hours
  · exact ConditionField.evaluate_agree hc field condition

/-- An evening of a user with two films from two addresses, as it is given with times told in some
    way.  The second film, on which a rule looks, is paused. -/
def givenEvening (told : Int → Timestamp) : Given :=
  let film (id address : String) (hours : Int) : Parts := [
    ("id", .text id), ("server_user_id", .text "ann"), ("server_id", .text "home"),
    ("ip_address", .text address), ("started_at", .time (told hours))]
  let second : Given := .record (film "second" "192.0.2.7" 60 ++ [
    ("state", .text "paused"), ("last_paused_at", .time (told 61))])
  .record [
    ("session", second),
    ("server_user", .record [("id", .text "ann"), ("created_at", .time (told 24))]),
    ("server", .record [("id", .text "home")]),
    ("active_sessions", .list [second]),
    ("recent_sessions", .list [
      .record (film "first" "192.0.2.8" 58), second, .record (film "old" "192.0.2.9" 30)]),
    ("now", .time (told 62))]

/-- So many hours after the start of the year 1, by a clock in the east. -/
def easternHour (hours : Int) : Timestamp := ⟨hours * Duration.hour, some 330⟩

/-- The same by a clock that does not say where it is. -/
def unplacedHour (hours : Int) : Timestamp := ⟨hours * Duration.hour, none⟩

/-- The evening is told in two ways. -/
theorem givenEvening_retold : (givenEvening easternHour).Retold (givenEvening unplacedHour) := by
  unfold givenEvening
  repeat'
    first
      | exact .same _
      | exact .time (by decide) (by decide) rfl
      | exact .nil
      | refine .cons ?_ ?_
      | refine .list ?_
      | refine .record rfl ?_

/-- The evening is read in both ways.  The film was paused for an hour of two, by the clock that
    shows when it stops, and a window of a day holds two addresses. -/
theorem only_instants_count_evening :
    let clock := (easternHour 70).assumeUniversal
    let counted : Except Fault Observation := .ok (.plain (.int 2))
    ∃ c c', SessionContext.ofGiven clock (givenEvening easternHour) = .accepted c ∧
      SessionContext.ofGiven clock (givenEvening unplacedHour) = .accepted c' ∧ c.now ≠ c'.now ∧
      c.session.stopDurationAt (some (easternHour 62)) = .ok ⟨3600000, 3600000⟩ ∧
      c'.session.stopDurationAt (some (unplacedHour 62)) = .ok ⟨3600000, 3600000⟩ ∧
      ConditionField.uniqueAddresses.observe c 24 = counted ∧
      ConditionField.uniqueAddresses.observe c' 24 = counted := by
  intro clock counted
  obtain ⟨c, hc⟩ : ∃ c, SessionContext.ofGiven clock (givenEvening easternHour) = .accepted c :=
    ⟨_, rfl⟩
  obtain ⟨c', hc', hsame⟩ :=
    (SessionContext.tells clock givenEvening_retold).exists_accepted hc
  have hnow : c.now = (easternHour 62).assumeUniversal := by
    rw [← Checked.accepted.inj hc]
  have hnow' : c'.now = (unplacedHour 62).assumeUniversal := by
    rw [← Checked.accepted.inj hc']
  have hstopped : c.session.stopDurationAt (some (easternHour 62)) = .ok ⟨3600000, 3600000⟩ := by
    rw [← Checked.accepted.inj hc]
    rfl
  have hcounted : ConditionField.uniqueAddresses.observe c 24 = counted := by
    rw [← Checked.accepted.inj hc]
    rfl
  have hinRange : ConditionField.uniqueAddresses.observe c 24 ≠ .error .dateOutOfRange := by
    rw [hcounted]
    nofun
  have hinRange' : ConditionField.uniqueAddresses.observe c' 24 ≠ .error .dateOutOfRange := by
    rw [← Checked.accepted.inj hc']
    nofun
  have hsession : c.session.inUniversal = c'.session.inUniversal :=
    congrArg SessionContext.session hsame
  have hpauses : c.session.pauses.data.inUniversal = c'.session.pauses.data.inUniversal := by
    rw [PauseRecord.data_inUniversal, PauseRecord.data_inUniversal]
    exact congrArg Session.pauses hsession
  obtain ⟨_, _, hduration, _, _, _, _, hfields, _⟩ :=
    @only_instants_count c.session.pauses.data c'.session.pauses.data c.session c'.session c c'
      (some (easternHour 62)) (some (unplacedHour 62)) (easternHour 62) (unplacedHour 62) hpauses
      hsession hsame rfl rfl
  have hobserved := (hfields .uniqueAddresses).1 24 hinRange hinRange'
  refine ⟨c, c', hc, hc', ?_, hstopped, hduration.symm.trans hstopped, hcounted,
    hobserved.symm.trans hcounted⟩
  rw [hnow, hnow']
  decide

end StreamWatch
