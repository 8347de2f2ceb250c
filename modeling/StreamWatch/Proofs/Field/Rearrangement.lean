import Mathlib.Data.List.Nodup
import StreamWatch.Proofs.Field.Window

namespace StreamWatch

/-!
# The order of the sessions

Some fields walk over the sessions of a context.  It does not matter in which order these stand,
unless the walk looks for the session that started last, and two started at once:

* `SessionContext.Rearranges` — two contexts that differ at most in the order of the sessions;
* `SessionContext.countDistinct_perm` — texts in another order have as many different ones;
* `SessionContext.previousSession?_eq_some_iff` — the session before is the one that started last,
  if no two started at once;
* `SessionContext.Rearranges.answers_alike` — hence fields answer alike in both contexts, or have
  the same fault.
-/

namespace SessionContext

/-- Do two contexts differ at most in the order of the sessions? -/
structure Rearranges (c c' : SessionContext) : Prop where
  session : c'.session = c.session
  user : c'.user = c.user
  server : c'.server = c.server
  now : c'.now = c.now
  active : c'.activeSessions.Perm c.activeSessions
  recent : c'.recentSessions.Perm c.recentSessions

/-! ### Counts -/

/-- Texts in another order have as many different ones. -/
theorem countDistinct_perm {texts texts' : List String} (h : texts'.Perm texts) :
    countDistinct texts' = countDistinct texts := by
  apply le_antisymm
  · exact countDistinct_mono h.subset
  · exact countDistinct_mono h.symm.subset

/-! ### The session that started last -/

/-- Is a session one of a list, of which none started later? -/
def IsLatest (s : Session) (sessions : List Session) : Prop :=
  s ∈ sessions ∧ ∀ t ∈ sessions, t.startedAt.instant ≤ s.startedAt.instant

/-- The later of two sessions is one of them, and neither started later. -/
theorem isLatest_laterOf (a b : Session) : IsLatest (laterOf a b) [a, b] := by
  unfold laterOf Moment.isBefore IsLatest
  simp only [decide_eq_true_iff, List.mem_cons, List.not_mem_nil, or_false]
  split
  · refine ⟨.inr rfl, ?_⟩
    rintro t (rfl | rfl) <;> omega
  · refine ⟨.inl rfl, ?_⟩
    rintro t (rfl | rfl) <;> omega

/-- A walk over sessions that goes on from the later one ends at one that started last. -/
theorem isLatest_foldl (first : Session) (rest : List Session) :
    IsLatest (rest.foldl laterOf first) (first :: rest) := by
  induction rest generalizing first with
  | nil =>
    refine ⟨List.mem_singleton_self first, ?_⟩
    intro t ht
    rw [List.mem_singleton] at ht
    rw [ht]
    rfl
  | cons second rest ih =>
    obtain ⟨hmem, hlatest⟩ := ih (laterOf first second)
    obtain ⟨hlater, hboth⟩ := isLatest_laterOf first second
    rw [List.foldl_cons]
    constructor
    · rcases List.mem_cons.mp hmem with hend | hrest
      · rw [hend]
        exact List.mem_append_left rest hlater
      · exact List.mem_cons_of_mem first (List.mem_cons_of_mem second hrest)
    · intro t ht
      rcases List.mem_append.mp (show t ∈ [first, second] ++ rest from ht) with htwo | hrest
      · exact (hboth t htwo).trans (hlatest _ List.mem_cons_self)
      · exact hlatest t (List.mem_cons_of_mem _ hrest)

/-- The recent sessions of the user without this one. -/
def otherRecent (c : SessionContext) : List Session :=
  c.ownRecent.filter fun s => s.id != c.session.id

/-- Did the other recent sessions of the user all start at different instants? -/
def StartsApart (c : SessionContext) : Prop :=
  (c.otherRecent.map fun s => s.startedAt.instant).Nodup

variable {c c' : SessionContext}

/-- The session before is the one that started last, if no two started at once. -/
theorem previousSession?_eq_some_iff (h : c.StartsApart) {s : Session} :
    c.previousSession? = some s ↔ IsLatest s c.otherRecent := by
  unfold StartsApart at h
  unfold previousSession?
  rw [← otherRecent]
  cases hother : c.otherRecent with
  | nil =>
    refine iff_of_false nofun ?_
    rintro ⟨hmem, -⟩
    cases hmem
  | cons first rest =>
    rw [hother] at h
    obtain ⟨hmem, hlatest⟩ := isLatest_foldl first rest
    rw [Option.some.injEq]
    constructor
    · rintro rfl
      exact ⟨hmem, hlatest⟩
    · rintro ⟨hs, hnone⟩
      -- Two that both started last started at once, and so they are the same.
      apply List.inj_on_of_nodup_map h hmem hs
      exact le_antisymm (hnone _ hmem) (hlatest s hs)

namespace Rearranges

variable (h : c.Rearranges c')
include h

/-! ### What is observed -/

/-- The active sessions of the user in another order. -/
theorem ownActive_perm : c'.ownActive.Perm c.ownActive := by
  unfold ownActive
  rw [h.user]
  exact h.active.filter _

/-- The recent sessions of the user in another order. -/
theorem ownRecent_perm : c'.ownRecent.Perm c.ownRecent := by
  unfold ownRecent
  rw [h.user]
  exact h.recent.filter _

/-- The other recent sessions of the user in another order. -/
theorem otherRecent_perm : c'.otherRecent.Perm c.otherRecent := by
  unfold otherRecent
  rw [h.session]
  exact h.ownRecent_perm.filter _

/-- As much is counted in every window, or there is the same fault. -/
theorem countInWindow_eq (hours : Int) (label : Session → String) :
    c'.countInWindow hours label = c.countInWindow hours label := by
  rw [countInWindow_eq_bind, countInWindow_eq_bind, h.session]
  congr 1
  funext window
  congr 1
  funext cutoff
  rw [countDistinct_perm]
  exact ((h.ownRecent_perm.filter _).map label).cons _

/-- The session before is the same, if no two started at once. -/
theorem previousSession?_eq (hapart : c.StartsApart) :
    c'.previousSession? = c.previousSession? := by
  have hapart' : c'.StartsApart := (h.otherRecent_perm.map _).nodup_iff.mpr hapart
  ext s
  rw [previousSession?_eq_some_iff hapart, previousSession?_eq_some_iff hapart']
  unfold IsLatest
  simp only [h.otherRecent_perm.mem_iff]

/-- The speed of the way from the session before is the same, if no two started at once. -/
theorem travelSpeed_eq (hapart : c.StartsApart) : c'.travelSpeed = c.travelSpeed := by
  unfold travelSpeed
  rw [h.previousSession?_eq hapart, h.session]

/-- **The order of the sessions does not matter.**  In two contexts that differ at most in it, every
    condition on a field has the same answer or the same fault, unless the field looks for distances
    among the active sessions.  The speed of the way from the session before needs the recent
    sessions of the user to have started at different instants, this one left out. -/
theorem answers_alike {field : ConditionField} (hfield : field ≠ .activeSessionDistance)
    (hapart : field = .travelSpeed → c.StartsApart) (condition : Condition) :
    field.evaluate c' condition = field.evaluate c condition := by
  have hobserve : ∀ hours, field.observe c' hours = field.observe c hours := by
    intro hours
    -- One case for each field that walks over sessions.
    cases field with
    | concurrentStreams => simp only [ConditionField.observe, h.ownActive_perm.length_eq]
    | activeSessionDistance => exact absurd rfl hfield
    | travelSpeed => simp only [ConditionField.observe, h.travelSpeed_eq (hapart rfl)]
    | uniqueAddresses => simp only [ConditionField.observe, h.countInWindow_eq]
    | uniqueDevices => simp only [ConditionField.observe, h.countInWindow_eq]
    | _ => simp only [ConditionField.observe, daysSince, h.session, h.user, h.server, h.now]
  unfold ConditionField.evaluate
  rw [hobserve]

end Rearranges

/-- The recent sessions in the opposite order. -/
def backwards (c : SessionContext) : SessionContext :=
  { c with recentSessions := c.recentSessions.reverse }

/-- Only the order is another one there. -/
theorem rearranges_backwards (c : SessionContext) : c.Rearranges c.backwards :=
  ⟨rfl, rfl, rfl, rfl, .refl _, List.reverse_perm _⟩

/-- From the song of the same morning the way to the film is as fast in the opposite order, and two
    addresses are still found in a day. -/
theorem answers_alike_noon :
    let slow : Condition := ⟨"travel_speed_kmh", "lt", .int 900, none⟩
    let moved := ConditionField.uniqueAddresses.atLeast (.int 2) 24
    noonContext.Rearranges noonContext.backwards ∧ noonContext.StartsApart ∧
      noonContext.backwards.recentSessions.map Session.id = ["news", "song"] ∧
      noonContext.previousSession?.map Session.id = some "song" ∧
      ConditionField.travelSpeed.evaluate noonContext.backwards slow =
        ConditionField.travelSpeed.evaluate noonContext slow ∧
      ConditionField.uniqueAddresses.evaluate noonContext.backwards moved = .ok true := by
  intro slow moved
  have hsame := noonContext.rearranges_backwards
  have hapart : noonContext.StartsApart := by
    unfold StartsApart
    decide +kernel
  have hspeed : ConditionField.travelSpeed.evaluate noonContext.backwards slow =
      ConditionField.travelSpeed.evaluate noonContext slow :=
    hsame.answers_alike (by decide) (fun _ => hapart) slow
  have hmoved : ConditionField.uniqueAddresses.evaluate noonContext.backwards moved =
      ConditionField.uniqueAddresses.evaluate noonContext moved :=
    hsame.answers_alike (by decide) (fun hfield => by cases hfield) moved
  have hfound : ConditionField.uniqueAddresses.evaluate noonContext moved = .ok true := by
    decide +kernel
  exact ⟨hsame, hapart, rfl, rfl, hspeed, hmoved.trans hfound⟩

/-- Of two sessions that started at once the first one counts as the session before. -/
example :
    let c : SessionContext :=
      { quietContext with recentSessions := ["song", "news"].map fun id =>
          Session.starting id "ann" "server" (.universal 0) }
    c.previousSession?.map Session.id = some "song" ∧
      c.backwards.previousSession?.map Session.id = some "news" := by
  decide +kernel

end SessionContext

end StreamWatch
