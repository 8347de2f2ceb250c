import Mathlib.Data.List.TakeWhile
import StreamWatch.Proofs.Watch.Retention

namespace StreamWatch

/-!
# What pruning never drops

Pruning drops sessions from the front of each history, first those that ended before its window
and then those that are too many.  The sessions of a history need not stand in the order in which
they ended.  Whatever their order, nothing is dropped that ended within the window and is not too
far from the end of its history:

* `Monitor.suffix_kept` — an entry that is kept, with everything behind it;
* `Monitor.kept_eq_nil_iff` — when nothing is kept of a history;
* `Monitor.KeepsRecent` — what pruning keeps, and for which users nothing is left;
* `Monitor.prune_keepsRecent` — pruning without a fault keeps that.
-/

/-- What a list ends with it still ends with if entries are dropped from its front until there are
    no more than `most`, unless it has more entries itself. -/
theorem suffix_drop_length_sub {α : Type} {xs ys : List α} {most : Nat} (h : ys <:+ xs)
    (hlength : ys.length ≤ most) : ys <:+ xs.drop (xs.length - most) := by
  have hdrop : xs.drop (xs.length - ys.length) <:+ xs.drop (xs.length - most) :=
    List.drop_suffix_drop_left xs (Nat.sub_le_sub_left hlength _)
  rwa [← List.suffix_iff_eq_drop.mp h] at hdrop

namespace Monitor

/-- A session that did not end before the cutoff is kept if it is among the last ones, and so is
    everything behind it. -/
theorem suffix_kept {cutoff : Moment} {most : Nat} {sessions later : List Session} {s : Session}
    (h : s :: later <:+ sessions) (hlater : later.length < most)
    (hrecent : s.endedAt.isBefore cutoff = false) : s :: later <:+ kept cutoff most sessions := by
  obtain ⟨front, rfl⟩ := h
  -- The first session that is not dropped is this one, or stands in front of it.
  obtain ⟨left, hleft⟩ : ∃ left, (front ++ s :: later).dropWhile
      (fun t => t.endedAt.isBefore cutoff) = left ++ s :: later :=
    exists_dropWhile_eq_iff.mpr
      ⟨front, rfl, s, List.mem_append_right front List.mem_cons_self, hrecent⟩
  exact suffix_drop_length_sub ⟨left, hleft.symm⟩ hlater

/-- Nothing is kept of a history exactly if nothing may be, or if every session of it ended before
    the cutoff. -/
theorem kept_eq_nil_iff {cutoff : Moment} {most : Nat} {sessions : List Session} :
    kept cutoff most sessions = [] ↔
      most = 0 ∨ ∀ s ∈ sessions, s.endedAt.isBefore cutoff = true := by
  unfold kept
  rw [← List.dropWhile_eq_nil_iff, ← List.length_eq_zero_iff (l := List.dropWhile _ _)]
  simp only [List.drop_eq_nil_iff]
  omega

variable {τ : Type}

/-- What is `left` of the histories that were `found`, by a pruning whose window begins at `start`
    and that leaves `most` sessions of each. -/
structure KeepsRecent (found left : Monitor τ) (start most : Int) : Prop where
  /-- Nothing changes but the histories. -/
  onlyHistories : left = { found with history := left.history }
  /-- Nobody comes to those who have a history, and they stay in their order. -/
  users : left.history.keys.Sublist found.history.keys
  /-- What is left of a history is its end. -/
  ends : ∀ userId, left.historyOf userId <:+ found.historyOf userId
  /-- A session that ended within the window and is among the last `most` is left, and so is
      everything behind it. -/
  recent : ∀ userId s later, s :: later <:+ found.historyOf userId →
    (later.length : Int) < most → start ≤ s.endedAt.instant →
    s :: later <:+ left.historyOf userId
  /-- Nobody is left with an empty history. -/
  noneEmpty : ∀ userId, left.history.get? userId ≠ some []
  /-- A user has no history any more exactly if no session may be left, or if all of the user's
      sessions ended before the window. -/
  gone_iff : ∀ userId, userId ∉ left.history.keys ↔
    most = 0 ∨ ∀ s ∈ found.historyOf userId, s.endedAt.instant < start

/-- **Pruning never drops what it should keep**, whatever the order in which the sessions of a
    history ended.  What it leaves of a history is its end, with every session that ended within
    the window and is among the last ones.  The users of whom nothing is left disappear, and
    nobody else does. -/
theorem prune_keepsRecent {m : Monitor τ} (hdistinct : m.history.keys.Nodup)
    (hmost : 0 ≤ m.config.maxRecentSessions) {now : Moment}
    (h : (m.prune now).result = .ok ()) :
    m.KeepsRecent (m.prune now).monitor (m.config.windowStart now) m.config.maxRecentSessions := by
  obtain ⟨cutoff, hcutoff, hmonitor⟩ := prune_eq_ok h
  have hbefore : ∀ s : Session, s.endedAt.isBefore cutoff = true ↔
      s.endedAt.instant < m.config.windowStart now := fun s => by
    rw [Moment.isBefore, decide_eq_true_iff, cutoff_instant hcutoff]
  have hkept : ∀ userId, (m.prune now).monitor.historyOf userId =
      kept cutoff m.config.maxRecentSessions.toNat (m.historyOf userId) := fun userId => by
    rw [hmonitor]
    exact getD_pruneHistories cutoff hmost hdistinct userId
  have hfound : ∀ userId, (m.prune now).monitor.history.get? userId =
      ((m.history.get? userId).map (kept cutoff m.config.maxRecentSessions.toNat)).filter
        (!·.isEmpty) := fun userId => by
    rw [hmonitor]
    exact get?_pruneHistories cutoff hmost hdistinct userId
  have hnoneEmpty : ∀ userId, (m.prune now).monitor.history.get? userId ≠ some [] := by
    intro userId hempty
    rw [hfound, Option.filter_eq_some_iff] at hempty
    cases hempty.2
  refine ⟨by rw [hmonitor], ?_, fun userId => ?_, fun userId s later hs hlater hrecent => ?_,
    hnoneEmpty, fun userId => ?_⟩
  · rw [hmonitor]
    exact keys_pruneHistories cutoff _ m.history
  · rw [hkept]
    exact kept_suffix cutoff _ _
  · rw [hkept]
    refine suffix_kept hs (by omega) (eq_false_of_ne_true fun hold => ?_)
    have hold := (hbefore s).mp hold
    omega
  · -- As nobody has an empty history, those who are gone are those of whom nothing is kept.
    have hgone : userId ∉ (m.prune now).monitor.history.keys ↔
        (m.prune now).monitor.historyOf userId = [] := by
      rw [← Table.get?_eq_none_iff, historyOf]
      cases hleft : (m.prune now).monitor.history.get? userId with
      | none => exact iff_of_true rfl rfl
      | some sessions =>
        refine iff_of_false (Option.some_ne_none _) fun hempty => hnoneEmpty userId ?_
        rw [hleft, ← hempty, Option.getD_some]
    rw [hgone, hkept, kept_eq_nil_iff]
    simp only [hbefore]
    exact or_congr_left (by omega)

/-- A session of a user that stopped so many hours after the second day of the year 1. -/
def stoppedAfter (id userId : String) (hours : Int) : Session :=
  { Session.starting id userId "server" (Watch.hourly 0) with
    state := .stopped
    stoppedAt := some (Watch.hourly hours) }

/-- Histories of up to three sessions, that of ann in no order and that of cal empty. -/
def unsorted : Monitor Nat :=
  { Watch.home with
    config := { MonitorConfig.standard with maxRecentSessions := 3 }
    history :=
      [("ann", [stoppedAfter "news" "ann" 1, stoppedAfter "film" "ann" 29,
          stoppedAfter "song" "ann" 30, stoppedAfter "show" "ann" 2,
          stoppedAfter "match" "ann" 31]),
        ("bob", [stoppedAfter "opera" "bob" 5]), ("cal", [])] }

/-- Pruning leaves ann the last three sessions, of which the second one ended long ago, and leaves
    nothing to the others. -/
theorem prune_keepsRecent_unsorted :
    unsorted.history.keys.Nodup ∧ 0 ≤ unsorted.config.maxRecentSessions ∧
      (unsorted.prune (Watch.hourly 40)).result = .ok () ∧
      ((unsorted.prune (Watch.hourly 40)).monitor.history.map fun entry =>
        (entry.1, entry.2.map Session.id)) = [("ann", ["song", "show", "match"])] ∧
      unsorted.KeepsRecent (unsorted.prune (Watch.hourly 40)).monitor
        (unsorted.config.windowStart (Watch.hourly 40)) 3 := by
  have hdistinct : unsorted.history.keys.Nodup := by decide
  have hmost : 0 ≤ unsorted.config.maxRecentSessions := by decide
  have hpruned : (unsorted.prune (Watch.hourly 40)).result = .ok () := rfl
  exact ⟨hdistinct, hmost, hpruned, rfl, prune_keepsRecent hdistinct hmost hpruned⟩

end Monitor

end StreamWatch
