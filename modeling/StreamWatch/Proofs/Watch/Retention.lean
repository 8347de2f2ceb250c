import StreamWatch.Proofs.Time.Duration
import StreamWatch.Proofs.Watch.Records

namespace StreamWatch

/-!
# What a sweep leaves of the histories

A sweep looks at a history from the front only: it drops sessions that stopped before its window
until it meets one that did not, and then those that are too many.  So a session that stopped
before the window is left where one that stopped within it stands in front of it.  That happens
because a history has its sessions in the order in which they ended, and a session may end with
a time that is long past: that when it was last heard of, or that which a caller gives.

* `Monitor.mem_kept_iff` — what is kept of a history;
* `Monitor.Retains` — nothing that stopped before the window is left, and not too much;
* `Monitor.Hides` — a session that stopped before the window stands behind one that did not;
* `Monitor.Filed.not_hides_of_inOrder` — histories in the order of stops hide nothing;
* `Monitor.pruned_of_prune` — no history is too long after pruning, and nothing that stopped
  before the window is left exactly if nothing of it was hidden.
-/

/-! ### What is kept of a history -/

/-- What is among the last ones of a list. -/
theorem mem_drop_length_sub_iff {α : Type} {a : α} {xs : List α} {most : Nat} :
    a ∈ xs.drop (xs.length - most) ↔
      ∃ front rest, xs = front ++ a :: rest ∧ rest.length < most := by
  constructor
  · intro h
    obtain ⟨front, rest, hdrop⟩ := List.append_of_mem h
    have hlength := congrArg List.length hdrop
    rw [List.length_drop, List.length_append, List.length_cons] at hlength
    refine ⟨xs.take (xs.length - most) ++ front, rest, ?_, by omega⟩
    rw [List.append_assoc, ← hdrop, List.take_append_drop]
  · rintro ⟨front, rest, rfl, hrest⟩
    have hfront : (front ++ a :: rest).length - most ≤ front.length := by
      rw [List.length_append, List.length_cons]
      omega
    rw [List.drop_append_of_le_length hfront]
    exact List.mem_append_right _ List.mem_cons_self

/-- A list whose first entries are dropped while they fulfil `p` ends with `a :: rest` if it did
    so before, and not everything down to this `a` fulfils `p`. -/
theorem exists_dropWhile_eq_iff {α : Type} {p : α → Bool} {a : α} {rest xs : List α} :
    (∃ left, xs.dropWhile p = left ++ a :: rest) ↔
      ∃ front, xs = front ++ a :: rest ∧ ∃ b ∈ front ++ [a], p b = false := by
  induction xs with
  | nil => simp
  | cons x xs ih =>
    by_cases hx : p x = true
    · rw [List.dropWhile_cons_of_pos hx, ih]
      constructor
      · rintro ⟨front, rfl, b, hb, hpb⟩
        exact ⟨x :: front, rfl, b, List.mem_cons_of_mem x hb, hpb⟩
      · rintro ⟨front, hfront, b, hb, hpb⟩
        have hne : b ≠ x := fun e => absurd (e ▸ hx) (ne_true_of_eq_false hpb)
        obtain ⟨rfl, hxs⟩ | ⟨left, rfl, rfl⟩ := List.cons_eq_append_iff.mp hfront
        · exact absurd ((List.mem_singleton.mp hb).trans (List.cons.inj hxs).1) hne
        · exact ⟨left, rfl, b, (List.mem_cons.mp hb).resolve_left hne, hpb⟩
    · rw [List.dropWhile_cons_of_neg hx]
      -- Nothing is dropped, because of the first entry, which is not behind this `a`.
      refine exists_congr fun front => ⟨fun hfront => ⟨hfront, x, ?_, eq_false_of_ne_true hx⟩,
        And.left⟩
      obtain ⟨rfl, hxs⟩ | ⟨left, rfl, _⟩ := List.cons_eq_append_iff.mp hfront
      · rw [(List.cons.inj hxs).1]
        exact List.mem_cons_self
      · exact List.mem_cons_self

/-- A session is kept if it is among the last ones, and it or one in front of it did not end
    before the cutoff. -/
theorem Monitor.mem_kept_iff {cutoff : Moment} {most : Nat} {sessions : List Session}
    {s : Session} : s ∈ kept cutoff most sessions ↔
      ∃ front rest, sessions = front ++ s :: rest ∧ rest.length < most ∧
        ∃ t ∈ front ++ [s], t.endedAt.isBefore cutoff = false := by
  unfold kept
  simp only
  rw [mem_drop_length_sub_iff]
  constructor
  · rintro ⟨left, rest, hleft, hrest⟩
    obtain ⟨front, hfront, hbar⟩ := exists_dropWhile_eq_iff.mp ⟨left, hleft⟩
    exact ⟨front, rest, hfront, hrest, hbar⟩
  · rintro ⟨front, rest, hfront, hrest, hbar⟩
    obtain ⟨left, hleft⟩ := exists_dropWhile_eq_iff.mpr ⟨front, hfront, hbar⟩
    exact ⟨left, rest, hleft, hrest⟩

/-- No more of a history is kept than is allowed. -/
theorem Monitor.length_kept_le (cutoff : Moment) (most : Nat) (sessions : List Session) :
    (kept cutoff most sessions).length ≤ most := by
  unfold kept
  simp only [List.length_drop]
  omega

/-! ### The window -/

/-- The instant at which the window of a sweep begins. -/
def MonitorConfig.windowStart (config : MonitorConfig) (now : Timestamp) : Int :=
  now.instant - config.recentHistoryHours * Duration.hour

/-- Has a session stopped before an instant? -/
def Session.StoppedBefore (s : Session) (instant : Int) : Prop :=
  ∃ t, s.stoppedAt = some t ∧ t.instant < instant

namespace Monitor

variable {τ : Type}

/-- Do the histories hold nothing that stopped before an instant, and no more than `most`
    sessions each? -/
structure Retains (m : Monitor τ) (start most : Int) : Prop where
  recent : ∀ userId, ∀ s ∈ m.historyOf userId, ¬ s.StoppedBefore start
  bounded : ∀ userId, ((m.historyOf userId).length : Int) ≤ most

/-- Is there a session that stopped before an instant, among the last `most` of a history, and
    behind one that did not? -/
def Hides (m : Monitor τ) (start most : Int) : Prop :=
  ∃ userId front s rest, m.historyOf userId = front ++ s :: rest ∧ (rest.length : Int) < most ∧
    s.StoppedBefore start ∧ ∃ t ∈ front, ¬ t.StoppedBefore start

/-- The window of a sweep begins at its cutoff. -/
theorem cutoff_instant {m : Monitor τ} {now cutoff : Moment} (h : m.cutoff now = .ok cutoff) :
    cutoff.instant = m.config.windowStart now := by
  unfold Monitor.cutoff at h
  cases hlength : Duration.ofHours m.config.recentHistoryHours with
  | error fault => simp only [hlength, bind, Except.bind, reduceCtorEq] at h
  | ok length =>
    simp only [hlength, bind, Except.bind] at h
    rw [Moment.shift_eq_ok h, Duration.ofHours_eq_ok hlength]
    rfl

/-- What is in a history ended before the cutoff if it stopped before the window. -/
theorem Filed.isBefore_cutoff_iff {m : Monitor τ} (h : m.Filed) {userId : String} {s : Session}
    (hs : s ∈ m.historyOf userId) {now cutoff : Moment} (hcutoff : m.cutoff now = .ok cutoff) :
    s.endedAt.isBefore cutoff = true ↔ s.StoppedBefore (m.config.windowStart now) := by
  unfold Moment.isBefore Session.StoppedBefore
  rw [decide_eq_true_iff, cutoff_instant hcutoff, h.stopped userId s hs]
  refine ⟨fun hbefore => ⟨_, rfl, hbefore⟩, ?_⟩
  rintro ⟨t, ht, hbefore⟩
  obtain rfl := Option.some.inj ht
  exact hbefore

/-- A history in which the sessions stand in the order of their stops hides nothing. -/
theorem Filed.not_hides_of_inOrder {m : Monitor τ} (h : m.Filed)
    (horder : ∀ sessions ∈ m.history.values,
      sessions.Pairwise fun s t => s.endedAt.instant ≤ t.endedAt.instant) (start most : Int) :
    ¬ m.Hides start most := by
  rintro ⟨userId, front, s, rest, hfound, _, ⟨t, hstopped, hbefore⟩, u, hu, hnew⟩
  have hmem : ∀ x ∈ front ++ s :: rest, x.stoppedAt = some x.endedAt := fun x hx =>
    h.stopped userId x (hfound ▸ hx)
  have hu' := hmem u (List.mem_append_left _ hu)
  have hs := hmem s (List.mem_append_right _ List.mem_cons_self)
  obtain rfl := Option.some.inj (hs.symm.trans hstopped)
  have hpairs : (m.historyOf userId).Pairwise fun s t => s.endedAt.instant ≤ t.endedAt.instant := by
    unfold historyOf
    cases hhistory : m.history.get? userId with
    | none => exact .nil
    | some sessions => exact horder sessions (Table.mem_values_of_get? hhistory)
  rw [hfound] at hpairs
  have hle := (List.pairwise_append.mp hpairs).2.2 u hu s List.mem_cons_self
  exact hnew ⟨u.endedAt, hu', by omega⟩

/-! ### Pruning -/

/-- Pruning without a fault drops what is not kept from the histories, and does nothing else. -/
theorem prune_eq_ok {m : Monitor τ} {now : Moment} (h : (m.prune now).result = .ok ()) :
    ∃ cutoff, m.cutoff now = .ok cutoff ∧ (m.prune now).monitor =
      { m with history := (pruneHistories cutoff m.config.maxRecentSessions m.history).1 } := by
  unfold prune at h ⊢
  cases hcutoff : m.cutoff now with
  | error fault => simp only [hcutoff, reduceCtorEq] at h
  | ok cutoff => exact ⟨cutoff, rfl, rfl⟩

/-- What pruning without a fault keeps of each history. -/
theorem prune_cases {m : Monitor τ} (hdistinct : m.history.keys.Nodup)
    (hmost : 0 ≤ m.config.maxRecentSessions) {now : Moment}
    (h : (m.prune now).result = .ok ()) :
    ∃ cutoff, m.cutoff now = .ok cutoff ∧
      ∀ userId, (m.prune now).monitor.historyOf userId =
        kept cutoff m.config.maxRecentSessions.toNat (m.historyOf userId) := by
  obtain ⟨cutoff, hcutoff, hmonitor⟩ := prune_eq_ok h
  rw [hmonitor]
  exact ⟨cutoff, hcutoff, fun userId => getD_pruneHistories cutoff hmost hdistinct userId⟩

/-- What is `left` of the histories that were `found`: none of them is too long, and nothing that
    stopped before an instant is left exactly if nothing of it was hidden. -/
structure Pruned (found left : Monitor τ) (start most : Int) : Prop where
  bounded : ∀ userId, ((left.historyOf userId).length : Int) ≤ most
  retains_iff : left.Retains start most ↔ ¬ found.Hides start most

/-- **Pruning without a fault leaves what was hidden**, and nothing else that stopped before the
    window. -/
theorem pruned_of_prune {m : Monitor τ} (hfiled : m.Filed)
    (hmost : 0 ≤ m.config.maxRecentSessions) {now : Moment}
    (h : (m.prune now).result = .ok ()) :
    m.Pruned (m.prune now).monitor (m.config.windowStart now) m.config.maxRecentSessions := by
  obtain ⟨cutoff, hcutoff, hkept⟩ := prune_cases hfiled.distinct hmost h
  have hbounded : ∀ userId, (((m.prune now).monitor.historyOf userId).length : Int) ≤
      m.config.maxRecentSessions := fun userId => by
    have := length_kept_le cutoff m.config.maxRecentSessions.toNat (m.historyOf userId)
    rw [hkept]
    omega
  refine ⟨hbounded, ?_, ?_⟩
  · -- What was hidden is kept for the sake of the session in front of it.
    rintro ⟨hrecent, _⟩ ⟨userId, front, s, rest, hfound, hrest, hold, t, ht, hnew⟩
    have hmem : t ∈ m.historyOf userId := hfound ▸ List.mem_append_left _ ht
    have hbar : t.endedAt.isBefore cutoff = false :=
      eq_false_of_ne_true fun hbefore => hnew ((hfiled.isBefore_cutoff_iff hmem hcutoff).mp hbefore)
    refine hrecent userId s ?_ hold
    rw [hkept, mem_kept_iff]
    exact ⟨front, rest, hfound, by omega, t, List.mem_append_left _ ht, hbar⟩
  · intro hshown
    refine ⟨fun userId s hs hold => hshown ?_, hbounded⟩
    rw [hkept, mem_kept_iff] at hs
    obtain ⟨front, rest, hfound, hrest, t, ht, hbar⟩ := hs
    have hs : s ∈ m.historyOf userId := hfound ▸ List.mem_append_right _ List.mem_cons_self
    obtain ht | ht := List.mem_append.mp ht
    · have hmem : t ∈ m.historyOf userId := hfound ▸ List.mem_append_left _ ht
      refine ⟨userId, front, s, rest, hfound, by omega, hold, t, ht, fun hnew => ?_⟩
      rw [(hfiled.isBefore_cutoff_iff hmem hcutoff).mpr hnew] at hbar
      cases hbar
    · -- It was kept for its own sake, and so it did not stop before the window.
      obtain rfl := List.mem_singleton.mp ht
      rw [(hfiled.isBefore_cutoff_iff hs hcutoff).mpr hold] at hbar
      cases hbar

/-! ### Sweeps -/

/-- What an operation leaves true, a sweep over some sessions leaves true. -/
theorem sweepSessions_keeps {P : Monitor τ → Prop}
    (hkeeps : ∀ m m' : Monitor τ, m.Aftermath m' → P m → P m') {m : Monitor τ} (h : P m)
    (now : Moment) (ids : List String) : P (m.sweepSessions now ids).monitor := by
  induction ids generalizing m with
  | nil => exact h
  | cons id rest ih =>
    have hone := hkeeps m _ (m.sweepOne_aftermath id now) h
    cases hresult : (m.sweepOne id now).result with
    | error fault =>
      rw [(sweepSessions_cons_of_error hresult rest).1]
      exact hone
    | ok stopped =>
      rw [(sweepSessions_cons_of_ok hresult rest).1]
      exact ih hone

/-- A sweep without a fault returns what it stops of the active sessions, and ends with the pruning
    of what it finds once it has looked at each of them. -/
theorem sweep_cases {m : Monitor τ} {now : Timestamp} {stopped : List StopResult}
    (h : (m.sweep now).result = .ok stopped) :
    let swept := m.sweepSessions now.assumeUniversal m.active.keys
    swept.result = .ok stopped ∧
      (swept.monitor.prune now.assumeUniversal).result = .ok () ∧
      (m.sweep now).monitor = (swept.monitor.prune now.assumeUniversal).monitor := by
  unfold sweep at h ⊢
  simp only at h ⊢
  cases hswept : (m.sweepSessions now.assumeUniversal m.active.keys).result with
  | error fault =>
    rw [(Outcome.andThen_of_error hswept _).2] at h
    cases h
  | ok others =>
    obtain ⟨hmonitor, hresult⟩ := Outcome.andThen_of_ok hswept fun stopped m =>
      (m.prune now.assumeUniversal).map fun _ => stopped
    rw [hresult] at h
    obtain ⟨_, hpruned, rfl⟩ := Outcome.map_eq_ok h
    exact ⟨rfl, hpruned, hmonitor⟩

end Monitor

namespace Watch

variable {τ : Type} [Sub τ] [LE τ] [DecidableLE τ]

/-- **What a sweep without a fault leaves of the histories**, whatever was done before: no
    history is too long, and nothing that stopped before the window is left exactly if nothing of
    it was hidden when the sweep came to the histories.  That is so if the sweep does its work at
    once, and if others go on between its sessions. -/
theorem sweep_retains_iff (registry : Registry) (server : Server) {config : MonitorConfig}
    (hmost : 0 ≤ config.maxRecentSessions) (rules : List Rule) (hasReceiver : Bool)
    (cooldown : τ) (moves : List (Move τ)) :
    let w := (fresh (.fresh server config rules hasReceiver cooldown)).run registry moves
    (∀ now stopped, (w.monitor.sweep now).result = .ok stopped →
      (w.monitor.sweepSessions now.assumeUniversal w.monitor.active.keys).monitor.Pruned
        (w.monitor.sweep now).monitor (config.windowStart now) config.maxRecentSessions) ∧
    (∀ slot now, w.sweeps[slot]? = some ⟨now, []⟩ → (w.monitor.prune now).result = .ok () →
      w.monitor.Pruned (w.after registry (.sweepOn slot)).monitor (config.windowStart now)
        config.maxRecentSessions) := by
  intro w
  have hconfig : w.monitor.config = config := run_config registry _ moves
  have hfiled : w.monitor.Filed :=
    filed_run registry (.fresh server config rules hasReceiver _) moves
  refine ⟨fun now stopped h => ?_, fun slot now hslot h => ?_⟩
  · obtain ⟨_, hpruned, hmonitor⟩ := Monitor.sweep_cases h
    -- The sessions that the sweep stops are filed like all others, and the settings stay.
    have hswept := Monitor.sweepSessions_keeps (P := fun m => m.Filed ∧ m.config = config)
      (fun m m' hafter hm => ⟨hm.1.aftermath hafter, hafter.config.trans hm.2⟩) ⟨hfiled, hconfig⟩
      now.assumeUniversal w.monitor.active.keys
    have hleft := Monitor.pruned_of_prune hswept.1 (hswept.2 ▸ hmost) hpruned
    rw [hswept.2] at hleft
    rw [hmonitor]
    exact hleft
  · have hmonitor : (w.after registry (.sweepOn slot)).monitor = (w.monitor.prune now).monitor := by
      simp only [after, hslot, sweepOn]
    rw [hmonitor, ← hconfig]
    exact Monitor.pruned_of_prune hfiled (hconfig ▸ hmost) h

/-- So many hours after the second day of the year 1. -/
def hourly (hours : Int) : Moment := .universal (2 * Duration.day + hours * Duration.hour)

/-- A session of ann starts after so many hours. -/
def startOfAnn (id : String) (hours : Int) : Move Nat :=
  .start (Session.starting id "ann" "server" (hourly hours)) ann (hourly hours)

/-- Two sessions, each of which ends before the next one starts, and a third one. -/
def quietDay : List (Move Nat) :=
  [startOfAnn "film" 0, .stop (.text "film") (hourly 1) (.bool false),
    startOfAnn "song" 2, .stop (.text "song") (hourly 20) (.bool false), startOfAnn "show" 25]

/-- A sweep after that day ends the third session and drops the first one. -/
theorem sweep_retains_iff_quietDay :
    let m := ((fresh home).run .standard quietDay).monitor
    0 ≤ MonitorConfig.standard.maxRecentSessions ∧
      (∃ stopped, (m.sweep (hourly 26)).result = .ok stopped ∧
        stopped.map (fun result => result.session.id) = ["show"]) ∧
      ((m.sweep (hourly 26)).monitor.historyOf "ann").map Session.id = ["song", "show"] ∧
      (m.sweep (hourly 26)).monitor.Retains (MonitorConfig.standard.windowStart (hourly 26))
        MonitorConfig.standard.maxRecentSessions := by
  intro m
  have hmost : 0 ≤ MonitorConfig.standard.maxRecentSessions := by decide
  obtain ⟨stopped, hstopped⟩ : ∃ stopped, (m.sweep (hourly 26)).result = .ok stopped := ⟨_, rfl⟩
  have hfacts : (m.sweep (hourly 26)).result.toOption.map (fun stopped =>
      (stopped.map fun result => result.session.id,
        ((m.sweep (hourly 26)).monitor.historyOf "ann").map Session.id)) =
      some (["show"], ["song", "show"]) := by decide +kernel
  rw [hstopped] at hfacts
  obtain ⟨hended, hleft⟩ := Prod.mk.inj (Option.some.inj hfacts)
  have hpruned := (sweep_retains_iff .standard ⟨"server", "Home", none⟩ hmost [] true 60
    quietDay).1 (hourly 26) stopped hstopped
  refine ⟨hmost, ⟨stopped, hstopped, hended⟩, hleft, hpruned.retains_iff.mpr ?_⟩
  have hfiled : (m.sweepSessions (hourly 26) m.active.keys).monitor.Filed :=
    Monitor.sweepSessions_keeps (fun _ _ hafter hm => hm.aftermath hafter)
      (filed_run .standard (.fresh _ _ _ _ _) quietDay) _ _
  exact hfiled.not_hides_of_inOrder (by decide +kernel) _ _

/-- Two sessions that start together.  One of them is stopped much later, and nothing is heard of
    the other one. -/
def longDay : List (Move Nat) :=
  [startOfAnn "film" 10, startOfAnn "song" 10, .stop (.text "film") (hourly 36) (.bool false)]

/-- **A sweep can leave what stopped before its window.**  The sweep after that day stops the
    second session when it was last heard of, 27 hours ago, and puts it behind the first one. -/
theorem not_retains_longDay :
    let m := ((fresh home).run .standard longDay).monitor
    0 ≤ MonitorConfig.standard.maxRecentSessions ∧
      (∃ stopped, (m.sweep (hourly 37)).result = .ok stopped) ∧
      ¬ (m.sweep (hourly 37)).monitor.Retains (MonitorConfig.standard.windowStart (hourly 37))
        MonitorConfig.standard.maxRecentSessions := by
  intro m
  refine ⟨by decide, ⟨_, rfl⟩, fun h => ?_⟩
  obtain ⟨film, song, hhistory, hstopped⟩ : ∃ film song,
      (m.sweep (hourly 37)).monitor.historyOf "ann" = [film, song] ∧
        song.stoppedAt = some (hourly 10) := ⟨_, _, rfl, rfl⟩
  have hsong : song ∈ (m.sweep (hourly 37)).monitor.historyOf "ann" := by
    rw [hhistory]
    exact List.mem_cons_of_mem _ List.mem_cons_self
  exact h.recent "ann" song hsong ⟨hourly 10, hstopped, by decide⟩

end Watch

end StreamWatch
