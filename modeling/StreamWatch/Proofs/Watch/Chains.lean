import StreamWatch.Proofs.Watch.Resumption
import StreamWatch.Proofs.Watch.Turnover

namespace StreamWatch

/-!
# Chains are one level deep

A session that resumes another one joins its chain, and takes the first session of that chain for
its reference, not the one that it resumes.  So a reference never leads to a session that has a
reference itself.  The first session may be gone by then: it is known by what the resumed session
says of it.

* `Session.Continues` — is a session a later snapshot of one that was registered?
* `Session.Rooted` — does a session name the first one of its chain, among earlier ones?
* `Chained` — the invariant: every session of a monitor continues one that was registered, and
  each of those is rooted among those before it;
* `Chained.run` — every run keeps it, in which no session comes with a reference.
-/

/-! ### Snapshots and roots -/

/-- Is a session a later snapshot of a registered one, as far as chains are concerned? -/
structure Session.Continues (s registered : Session) : Prop where
  id : s.id = registered.id
  userId : s.userId = registered.userId
  ratingKey : s.ratingKey = registered.ratingKey
  referenceId : s.referenceId = registered.referenceId

/-- Has a session no reference, or that of an earlier one of the same user and item which has
    none? -/
def Session.Rooted (s : Session) (earlier : List Session) : Prop :=
  s.referenceId = none ∨ ∃ root ∈ earlier, s.referenceId = some root.id ∧
    root.userId = s.userId ∧ root.ratingKey = s.ratingKey ∧ root.referenceId = none

namespace Session

variable {s s' registered : Session}

/-- A session continues itself. -/
theorem Continues.refl (s : Session) : s.Continues s := ⟨rfl, rfl, rfl, rfl⟩

/-- What continues a session continues what it continues. -/
theorem Continues.trans (h : s'.Continues s) (h' : s.Continues registered) :
    s'.Continues registered :=
  ⟨h.id.trans h'.id, h.userId.trans h'.userId, h.ratingKey.trans h'.ratingKey,
    h.referenceId.trans h'.referenceId⟩

/-- A session goes on after a report. -/
theorem continues_of_advance {state : PlaybackState} {now : Timestamp} {position : Datum}
    (h : s.advance state now position = .ok s') : s'.Continues s := by
  rw [advance_eq] at h
  obtain ⟨p, rfl⟩ := movedTo_eq_ok h
  exact ⟨rfl, rfl, rfl, rfl⟩

/-- A session that is stopped is the same one still. -/
theorem continues_of_stop {stoppedAt : Timestamp} {mode : StopMode} {result : StopResult}
    (h : s.stop stoppedAt mode = .ok result) : result.session.Continues s := by
  obtain ⟨watched, shortSession, hsession⟩ := stop_session_eq h
  rw [hsession]
  exact ⟨rfl, rfl, rfl, rfl⟩

/-- A resumed session gives the first session of its chain.  That is a session among the earlier
    ones and itself, of the same user and item, without a reference. -/
theorem chainRoot_of_rooted {earlier : List Session} (hrooted : registered.Rooted earlier)
    (hnamed : ∀ r ∈ earlier, r.id ≠ "") (hs : s.Continues registered) :
    ∃ root ∈ registered :: earlier, s.chainRoot = root.id ∧ root.userId = s.userId ∧
      root.ratingKey = s.ratingKey ∧ root.referenceId = none := by
  unfold chainRoot
  rw [hs.referenceId]
  obtain hfirst | ⟨root, hroot, hreference, huser, hitem, hfirst⟩ := hrooted
  · rw [hfirst]
    exact ⟨registered, List.mem_cons_self, hs.id, hs.userId.symm, hs.ratingKey.symm, hfirst⟩
  · -- An empty reference would count as none, but no session has an empty id.
    have hsome : root.id.isEmpty = false := by
      rw [← Bool.not_eq_true, String.isEmpty_iff]
      exact hnamed root hroot
    rw [hreference]
    simp only [hsome, Bool.false_eq_true, if_false]
    exact ⟨root, List.mem_cons_of_mem _ hroot, rfl, huser.trans hs.userId.symm,
      hitem.trans hs.ratingKey.symm, hfirst⟩

/-- A session that is resumed gives the first session of its chain, if it gives any. -/
theorem eq_chainRoot_of_resumeLink {newProgress : Datum} {threshold : Option Datum}
    {now : Timestamp} {limits : SessionLimits} {link : String}
    (h : s.resumeLink newProgress threshold now limits = .ok (some link)) :
    link = s.chainRoot := by
  rw [resumeLink_eq] at h
  cases hstopped : s.stoppedAt with
  | none => simp only [hstopped, Except.ok.injEq, reduceCtorEq] at h
  | some stoppedAt =>
    simp only [hstopped, bind, Except.bind] at h
    -- Every other way through ends with a fault or without a chain.
    split at h
    · cases h
    · split at h
      · cases h
      · split at h
        · cases h
        · split at h
          · cases h
          · split at h
            · exact (Option.some.inj (Except.ok.inj h)).symm
            · cases h

end Session

namespace Monitor

variable {τ : Type} {m : Monitor τ}

/-- A session that resumes another one takes the first session of its chain for its reference,
    and plays the same item. -/
theorem resumeLink_eq_some {session : Session} {now : Moment} {link : String}
    (h : m.resumeLink session now = .ok (some link)) :
    ∃ previous ∈ m.historyOf session.userId, previous.ratingKey = session.ratingKey ∧
      link = previous.chainRoot := by
  unfold resumeLink at h
  cases hitem : session.ratingKey with
  | none => simp only [hitem, Except.ok.injEq, reduceCtorEq] at h
  | some item =>
    simp only [hitem] at h
    cases hlast : (m.historyOf session.userId).reverse.find? fun p => p.ratingKey == some item with
    | none => simp only [hlast, Except.ok.injEq, reduceCtorEq] at h
    | some previous =>
      simp only [hlast] at h
      have hsame := List.find?_some hlast
      exact ⟨previous, List.mem_reverse.mp (List.mem_of_find?_eq_some hlast), eq_of_beq hsame,
        Session.eq_chainRoot_of_resumeLink h⟩

/-! ### The invariant -/

/-- The session that a move registers, if its call has no fault. -/
def registeredBy (m : Monitor τ) : Move τ → List Session
  | .start session user now =>
    match (m.register session user now).result with
    | .ok context => [context.session]
    | .error _ => []
  | _ => []

/-- What a move registers is what a start without a fault does. -/
theorem registeredBy_cases (m : Monitor τ) (move : Move τ) :
    m.registeredBy move = [] ∨ ∃ session user now context, move = .start session user now ∧
      (m.register session user now).result = .ok context ∧
      m.registeredBy move = [context.session] := by
  unfold registeredBy
  split
  · rename_i session user now
    split
    · rename_i context hcontext
      exact .inr ⟨session, user, now, context, rfl, hcontext, rfl⟩
    · exact .inl rfl
  · exact .inl rfl

/-- Does every session of a monitor continue one that was registered, and is each of those rooted
    among those before it? -/
structure Chained (m : Monitor τ) (registered : List Session) : Prop where
  filed : m.Filed
  named : ∀ r ∈ registered, r.id ≠ ""
  active : ∀ s ∈ m.activeSessions, ∃ r ∈ registered, s.Continues r
  history : ∀ userId, ∀ s ∈ m.historyOf userId, ∃ r ∈ registered, s.Continues r
  rooted : ∀ (i : Nat) (s : Session), registered[i]? = some s → s.Rooted (registered.take i)

namespace Chained

variable {m' : Monitor τ} {registered : List Session}

/-- A monitor that has not seen anything yet has no chains. -/
theorem fresh (server : Server) (config : MonitorConfig) (rules : List Rule)
    (hasReceiver : Bool) (cooldown : τ) :
    Chained (.fresh server config rules hasReceiver cooldown) [] where
  filed := .fresh server config rules hasReceiver cooldown
  named _ h := absurd h List.not_mem_nil
  active _ h := absurd h List.not_mem_nil
  history _ _ h := absurd h List.not_mem_nil
  rooted _ _ h := absurd h (Option.some_ne_none _).symm

/-- A session that comes without a reference is registered with that of an earlier one, or with
    none. -/
theorem rooted_of_register (h : m.Chained registered) {session : Session} {user : User}
    {now : Timestamp} {context : SessionContext} (hreference : session.referenceId = none)
    (hcontext : (m.register session user now).result = .ok context) :
    context.session.Rooted registered := by
  obtain ⟨link, hregistered, hlink⟩ := admits_of_admitted (register_cases hcontext).1
  rw [hregistered, hreference, Option.none_or]
  cases link with
  | none => exact .inl rfl
  | some root =>
    obtain ⟨previous, hprevious, hitem, rfl⟩ := resumeLink_eq_some (hlink hreference)
    -- What is resumed continues a registered session, and so its chain begins with one.
    obtain ⟨r, hr, hcontinues⟩ := h.history _ previous hprevious
    obtain ⟨i, hi⟩ := List.getElem?_of_mem hr
    have hearlier : registered.take i ⊆ registered := (List.take_sublist i registered).subset
    obtain ⟨root, hroot, heq, huser, hsame, hfirst⟩ := Session.chainRoot_of_rooted
      (h.rooted i r hi) (fun other hother => h.named other (hearlier hother)) hcontinues
    refine .inr ⟨root, ?_, congrArg some heq, ?_, hsame.trans hitem, hfirst⟩
    · exact List.cons_subset.mpr ⟨hr, hearlier⟩ hroot
    · exact huser.trans (h.filed.owner _ previous hprevious)

/-- A registered session stays rooted when another one is registered that is rooted. -/
theorem rooted_concat (h : m.Chained registered) {s : Session} (hs : s.Rooted registered)
    (i : Nat) (r : Session) (hr : (registered ++ [s])[i]? = some r) :
    r.Rooted ((registered ++ [s]).take i) := by
  obtain hlt | hle := Nat.lt_or_ge i registered.length
  · rw [List.getElem?_append_left hlt] at hr
    rw [List.take_append_of_le_length (Nat.le_of_lt hlt)]
    exact h.rooted i r hr
  · rw [List.getElem?_append_right hle, List.getElem?_singleton] at hr
    split at hr
    · rename_i hlast
      obtain rfl := Option.some.inj hr
      have hall : i = registered.length := Nat.le_antisymm (Nat.sub_eq_zero_iff_le.mp hlast) hle
      rw [hall, List.take_left]
      exact hs
    · cases hr

/-- A session that continues a registered one does so when more are registered. -/
theorem continues_append {s : Session} (h : ∃ r ∈ registered, s.Continues r)
    (more : List Session) : ∃ r ∈ registered ++ more, s.Continues r :=
  h.imp fun _ => And.imp_left (List.mem_append_left more)

/-- **A move keeps the chains**, if it starts no session with a reference or an empty id. -/
theorem turnover (h : m.Chained registered) (hfiled : m'.Filed) {move : Move τ}
    (hturnover : m.Turnover m' move) (hcomes : ∀ session user now,
      move = .start session user now → session.referenceId = none ∧ session.id ≠ "") :
    m'.Chained (registered ++ m.registeredBy move) := by
  refine ⟨hfiled, ?_, fun s hs => ?_, fun userId s hs => ?_, ?_⟩
  · intro r hr
    obtain hr | hr := List.mem_append.mp hr
    · exact h.named r hr
    · -- A registration gives a session a reference, and leaves its id.
      obtain hnone | ⟨session, user, now, context, hmove, hcontext, hone⟩ :=
        m.registeredBy_cases move
      · exact absurd (hnone ▸ hr) List.not_mem_nil
      · obtain rfl := List.mem_singleton.mp (hone ▸ hr)
        obtain ⟨link, hregistered, _⟩ := admits_of_admitted (register_cases hcontext).1
        rw [hregistered]
        exact (hcomes session user now hmove).2
  · obtain hbefore | ⟨session, user, now, context, rfl, hcontext, rfl⟩ |
      ⟨id, stateName, position, now, live, state, rfl, hlive, hadvance⟩ :=
        hturnover.active_origin hs
    · exact continues_append (h.active s hbefore) _
    · refine ⟨context.session, List.mem_append_right _ ?_, .refl _⟩
      simp only [registeredBy, hcontext, List.mem_singleton]
    · obtain ⟨r, hr, hcontinues⟩ := h.active live hlive
      exact continues_append ⟨r, hr, (Session.continues_of_advance hadvance).trans hcontinues⟩ _
  · obtain hbefore | ⟨live, last, stoppedAt, mode, result, hlive, hlast, hstop, rfl⟩ :=
      hturnover.history_origin h.filed hs
    · exact continues_append (h.history userId s hbefore) _
    · -- It has ended, maybe in a report, which does not change whom it continues.
      obtain ⟨r, hr, hcontinues⟩ := h.active live hlive
      have hlast' : last.Continues live := by
        obtain rfl | ⟨now, position, hadvance⟩ := hlast
        · exact .refl last
        · exact Session.continues_of_advance hadvance
      exact continues_append
        ⟨r, hr, (Session.continues_of_stop hstop).trans (hlast'.trans hcontinues)⟩ _
  · obtain hnone | ⟨session, user, now, context, hmove, hcontext, hone⟩ :=
      m.registeredBy_cases move
    · rw [hnone, List.append_nil]
      exact h.rooted
    · rw [hone]
      exact h.rooted_concat (h.rooted_of_register (hcomes session user now hmove).1 hcontext)

end Chained

end Monitor

/-! ### Runs -/

namespace Watch

variable {τ : Type} [Sub τ] [LE τ] [DecidableLE τ]

/-- The sessions that a run registers, as they are registered, the first one in front. -/
def registered (registry : Registry) (w : Watch τ) : List (Move τ) → List Session
  | [] => []
  | move :: rest => w.monitor.registeredBy move ++ (w.after registry move).registered registry rest

/-- A run keeps the chains, if no session comes with a reference or an empty id. -/
theorem chained_run (registry : Registry) {w : Watch τ} {earlier : List Session}
    (h : w.monitor.Chained earlier) {moves : List (Move τ)} (hcomes : ∀ session user now,
      .start session user now ∈ moves → session.referenceId = none ∧ session.id ≠ "") :
    (w.run registry moves).monitor.Chained (earlier ++ w.registered registry moves) := by
  induction moves generalizing w earlier with
  | nil =>
    rw [registered, List.append_nil]
    exact h
  | cons move rest ih =>
    rw [registered, ← List.append_assoc, run]
    refine ih ?_ fun session user now hmem => hcomes session user now (List.mem_cons_of_mem _ hmem)
    refine h.turnover (h.filed.aftermath (after_aftermath registry w move))
      (after_turnover registry w move) fun session user now hmove => ?_
    exact hcomes session user now (hmove ▸ List.mem_cons_self)

/-- **Chains are one level deep.**  A monitor is used in any way, with or without faults, and no
    session comes with a reference or with an empty id.  Then every session that is registered
    has no reference, or that of a session registered earlier, of the same user and the same item,
    which itself has none, even if nothing is left of that one in the histories.  Every session
    of the monitor has the id, the user, the item and the reference of the registered one that it
    continues. -/
theorem chains_one_level_deep (registry : Registry) (server : Server) (config : MonitorConfig)
    (rules : List Rule) (hasReceiver : Bool) (cooldown : τ) (moves : List (Move τ))
    (h : ∀ session user now, .start session user now ∈ moves →
      session.referenceId = none ∧ session.id ≠ "") :
    let begun := fresh (.fresh server config rules hasReceiver cooldown)
    let all := begun.registered registry moves
    let m := (begun.run registry moves).monitor
    (∀ (i : Nat) (s : Session), all[i]? = some s → s.referenceId = none ∨
      ∃ root ∈ all.take i, s.referenceId = some root.id ∧ root.userId = s.userId ∧
        root.ratingKey = s.ratingKey ∧ root.referenceId = none) ∧
    (∀ s ∈ m.activeSessions, ∃ r ∈ all, s.Continues r) ∧
    ∀ userId, ∀ s ∈ m.historyOf userId, ∃ r ∈ all, s.Continues r := by
  intro begun all m
  have hchained : m.Chained ([] ++ all) :=
    chained_run registry (.fresh server config rules hasReceiver cooldown) h
  rw [List.nil_append] at hchained
  exact ⟨hchained.rooted, hchained.active, hchained.history⟩

/-- Settings with which only one session of each user is kept in a history. -/
def oneKept : MonitorConfig := { MonitorConfig.standard with maxRecentSessions := 1 }

/-- The film is tried a second time, then the first try is dropped from the history, and then it
    is tried a third time. -/
def thirdTry : List (Move Nat) :=
  secondTry ++ [.sweep (atSecond 401), .sweepOn 0,
    .start (filmOfAnn "third" 430) ann (atSecond 430)]

/-- The third try has the first one for its reference, of which the monitor has nothing left. -/
theorem chains_one_level_deep_thirdTry :
    let begun := fresh (.fresh ⟨"server", "Home", none⟩ oneKept [] true 60)
    let all := begun.registered .standard thirdTry
    let m := (begun.run .standard thirdTry).monitor
    (∀ session user now, .start session user now ∈ thirdTry →
      session.referenceId = none ∧ session.id ≠ "") ∧
    all.map (fun s => (s.id, s.referenceId)) =
      [("first", none), ("second", some "first"), ("third", some "first")] ∧
    (m.activeSessions ++ m.historyOf "ann").map Session.id = ["third", "second"] ∧
    ∀ (i : Nat) (s : Session), all[i]? = some s → s.Rooted (all.take i) := by
  intro begun all m
  have hcomes : ∀ session user now, .start session user now ∈ thirdTry →
      session.referenceId = none ∧ session.id ≠ "" := by
    intro session user now hmem
    simp only [thirdTry, secondTry, List.cons_append, List.nil_append, List.mem_cons,
      Move.start.injEq, reduceCtorEq, List.not_mem_nil, or_false, false_or] at hmem
    obtain ⟨rfl, _⟩ | ⟨rfl, _⟩ | ⟨rfl, _⟩ := hmem <;> exact ⟨rfl, by decide⟩
  have hall : all.map (fun s => (s.id, s.referenceId)) =
      [("first", none), ("second", some "first"), ("third", some "first")] := by decide +kernel
  have hleft : (m.activeSessions ++ m.historyOf "ann").map Session.id = ["third", "second"] := by
    decide +kernel
  have hchains := chains_one_level_deep .standard ⟨"server", "Home", none⟩ oneKept [] true 60
    thirdTry hcomes
  exact ⟨hcomes, hall, hleft, hchains.1⟩

end Watch

end StreamWatch
