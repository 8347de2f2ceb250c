import StreamWatch.Proofs.Monitor.Sweepable
import StreamWatch.Proofs.Watch.Resumption

namespace StreamWatch

/-!
# With which settings sweeps never fail

Whatever is done with a monitor, its sweeps have a result if its settings are sweepable, and if
they are not there is a use after which a sweep has none.

* `Move.Dated` — are the times that come with a move such as a clock shows?
* `Watch.Dated`, `Watch.dated_run` — the sessions of a monitor are measured by the moves that
  were made, and sweeps have times in the years 2000 to 2100;
* `Watch.CanSweep` — no sweep fails, at once or interrupted by others;
* `Watch.canSweep_iff` — that is so after every run exactly if the settings are sweepable.
-/

/-- Are the times that come with a move such as a clock shows, and is a sweep one of the years
    2000 to 2100?  What a session says of its pauses when it starts is not negative. -/
def Move.Dated {τ : Type} : Move τ → Prop
  | .start session _ now => session.Measured 0 ∧ now.Shown
  | .report _ _ _ now => now.Shown
  | .sweep now => now.IsCurrent
  | _ => True

namespace Watch

variable {τ : Type}

/-- Are the sessions of a monitor measured, and do its sweeps have times in the years 2000 to
    2100? -/
structure Dated (w : Watch τ) (reports : Nat) : Prop where
  measured : ∀ s ∈ w.monitor.activeSessions, s.Measured reports
  current : ∀ sweep ∈ w.sweeps, sweep.now.IsCurrent

/-- Does no sweep fail, neither one that does its work at once nor one that goes on? -/
structure CanSweep (w : Watch τ) : Prop where
  atOnce : ∀ now : Timestamp, now.IsCurrent → ∃ stopped, (w.monitor.sweep now).result = .ok stopped
  goingOn : ∀ slot, ∃ told, w.deed (.sweepOn slot) = .ok told

/-! ### Dated runs -/

section
variable [Sub τ] [LE τ] [DecidableLE τ]

/-- Handing a batch on leaves the sweeps alone. -/
@[simp] theorem handOver_sweeps (w : Watch τ) (now : τ) (batch : List Match)
    (numbers : List Nat) : (w.handOver now batch numbers).sweeps = w.sweeps := by
  unfold handOver
  simp only
  split <;> rfl

/-- A flush that goes on leaves the sweeps alone. -/
@[simp] theorem goOn_sweeps (w : Watch τ) (slot : Nat) (offeredAt : τ)
    (noted : Match → Monitor τ) : (w.goOn slot offeredAt noted).sweeps = w.sweeps := by
  unfold goOn
  split
  · rfl
  · split
    · rfl
    · exact handOver_sweeps _ _ _ _

/-- A sweep under way after a move was so before, or began with it. -/
theorem sweep_origin (registry : Registry) (w : Watch τ) {move : Move τ} {sweep : SweepUnderWay}
    (h : sweep ∈ (w.after registry move).sweeps) :
    (∃ earlier ∈ w.sweeps, earlier.now = sweep.now) ∨
      ∃ now, move = .sweep now ∧ sweep.now = now.assumeUniversal := by
  cases move with
  | sweep now =>
    obtain h | h := List.mem_append.mp h
    · exact .inl ⟨sweep, h, rfl⟩
    · exact .inr ⟨now, rfl, congrArg SweepUnderWay.now (List.mem_singleton.mp h)⟩
  | sweepOn slot =>
    simp only [after] at h
    split at h
    · exact .inl ⟨sweep, h, rfl⟩
    · rename_i found hfound
      unfold sweepOn at h
      split at h
      · exact .inl ⟨sweep, List.mem_of_mem_eraseIdx h, rfl⟩
      · -- One session less is left to the sweep, and its time is the same.
        simp only at h
        split at h
        · obtain h | rfl := List.mem_or_eq_of_mem_set h
          · exact .inl ⟨sweep, h, rfl⟩
          · exact .inl ⟨found, List.mem_of_getElem? hfound, rfl⟩
        · exact .inl ⟨sweep, List.mem_of_mem_eraseIdx h, rfl⟩
  | start session user now =>
    simp only [after, start] at h
    split at h <;> exact .inl ⟨sweep, h, rfl⟩
  | evaluated slot =>
    simp only [after] at h
    split at h <;> exact .inl ⟨sweep, h, rfl⟩
  | flush takenAt offeredAt =>
    simp only [after, flush] at h
    split at h
    · exact .inl ⟨sweep, h, rfl⟩
    · rw [handOver_sweeps] at h
      exact .inl ⟨sweep, h, rfl⟩
  | received slot offeredAt | refused slot settledAt offeredAt error =>
    simp only [after, goOn_sweeps] at h
    exact .inl ⟨sweep, h, rfl⟩
  | interrupted slot =>
    simp only [after] at h
    split at h <;> exact .inl ⟨sweep, h, rfl⟩
  | report | stop | setRules | failure => exact .inl ⟨sweep, h, rfl⟩

/-- A move that is dated leaves a monitor dated, and counts as one more report. -/
theorem Dated.after {w : Watch τ} {reports : Nat} (h : w.Dated reports) (registry : Registry)
    {move : Move τ} (hmove : move.Dated) : (w.after registry move).Dated (reports + 1) := by
  refine ⟨fun s hs => ?_, fun sweep hsweep => ?_⟩
  · obtain hbefore | ⟨session, user, now, context, rfl, hcontext, rfl⟩ |
      ⟨id, stateName, position, now, live, state, rfl, hlive, hadvance⟩ :=
        (after_turnover registry w move).active_origin hs
    · exact (h.measured s hbefore).mono (Nat.le_succ _)
    · obtain ⟨hsession, hnow⟩ := hmove
      have hadmits := Monitor.admits_of_admitted (Monitor.register_cases hcontext).1
      exact (hsession.of_admits hnow.assumeUniversal hadmits).mono (Nat.zero_le _)
    · exact (h.measured live hlive).advance (Timestamp.Shown.assumeUniversal hmove) hadvance
  · obtain ⟨earlier, hearlier, hsame⟩ | ⟨now, rfl, hbegun⟩ := sweep_origin registry w hsweep
    · exact hsame ▸ h.current earlier hearlier
    · rw [hbegun]
      exact hmove

/-- A dated run leaves a monitor dated. -/
theorem dated_run (registry : Registry) {w : Watch τ} {reports : Nat} (h : w.Dated reports)
    {moves : List (Move τ)} (hmoves : ∀ move ∈ moves, move.Dated) :
    (w.run registry moves).Dated (reports + moves.length) := by
  induction moves generalizing w reports with
  | nil => exact h
  | cons move rest ih =>
    have hrest := ih (h.after registry (hmoves move List.mem_cons_self)) fun other hother =>
      hmoves other (List.mem_cons_of_mem _ hother)
    rw [List.length_cons, Nat.add_comm rest.length, ← Nat.add_assoc]
    exact hrest

end

/-- With sweepable settings no sweep of a dated monitor fails. -/
theorem Dated.canSweep {w : Watch τ} {reports : Nat} (h : w.Dated reports)
    (hreports : reports ≤ twoPow 896) (hconfig : w.monitor.config.Sweepable) : w.CanSweep := by
  refine ⟨fun now hnow => Monitor.sweep_isOk hconfig h.measured hreports hnow, fun slot => ?_⟩
  cases hslot : w.sweeps[slot]? with
  | none => exact ⟨none, by simp only [deed, hslot]⟩
  | some sweep =>
    obtain ⟨now, left⟩ := sweep
    cases left with
    | nil =>
      have hpruned := Monitor.prune_isOk hconfig (h.current _ (List.mem_of_getElem? hslot))
      exact ⟨none, by simp only [deed, hslot, hpruned, Except.map]⟩
    | cons id rest =>
      obtain ⟨stopped, hstopped⟩ := Monitor.sweepOne_isOk hconfig h.measured hreports id now
      exact ⟨Deed.ofStop stopped, by simp only [deed, hslot, hstopped, Except.map]⟩

/-! ### Settings with which sweeps fail -/

/-- The beginning of the year 2000, and the end of the year 2100. -/
theorem isCurrent_bounds : (⟨Timestamp.currentFrom, some 0⟩ : Timestamp).IsCurrent ∧
    (⟨Timestamp.currentUntil - 1, some 0⟩ : Timestamp).IsCurrent :=
  ⟨⟨by decide, by decide⟩, by decide, by decide⟩

/-- A screening at the beginning of the year 2000 is dated. -/
theorem dated_screening :
    ∀ move ∈ Move.screening (τ := τ) Timestamp.currentFrom, move.Dated := by
  intro move hmove
  have hshown : (⟨Timestamp.currentFrom, some 0⟩ : Timestamp).Shown := ⟨by decide, by decide⟩
  obtain rfl | hmove := List.mem_cons.mp hmove
  · exact ⟨⟨hshown, nofun, nofun, by decide⟩, hshown⟩
  · obtain rfl := List.mem_singleton.mp hmove
    trivial

section
variable {server : Server} {config : MonitorConfig} {rules : List Rule} {hasReceiver : Bool}
  {cooldown : τ}

/-- If a monitor that has not seen anything can sweep, the window of its histories is in the
    calendar for the years 2000 to 2100. -/
theorem window_of_canSweep
    (h : (fresh (.fresh server config rules hasReceiver cooldown)).CanSweep) :
    -69241200 ≤ config.recentHistoryHours ∧ config.recentHistoryHours ≤ 17522856 := by
  have hyears : Date.daysInYears 1999 = 730119 ∧ Date.daysInYears 2100 = 767009 ∧
      Date.dayCount = 3652059 := by decide
  have hwindow : ∀ now : Timestamp, now.IsCurrent → Timestamp.clockInRange
      (now.localClock - config.recentHistoryHours * Duration.hour) = true := by
    intro now hnow
    obtain ⟨stopped, hstopped⟩ := h.atOnce now hnow
    obtain ⟨_, hpruned, _⟩ := Monitor.sweep_cases hstopped
    obtain ⟨hcutoff, _⟩ := Monitor.prune_isOk_iff.mp hpruned
    exact (Monitor.cutoff_isOk_iff.mp hcutoff).2
  have hfirst := hwindow _ isCurrent_bounds.1
  have hlast := hwindow _ isCurrent_bounds.2
  simp only [Timestamp.clockInRange, Timestamp.localClock, Timestamp.currentFrom,
    Timestamp.currentUntil, hyears.1, hyears.2.1, hyears.2.2, Option.getD_some, Duration.day,
    Duration.hour, Duration.second, Duration.minute, decide_eq_true_eq] at hfirst hlast
  omega

variable [Sub τ] [LE τ] [DecidableLE τ]

/-- If a sweep can go on that came upon a session, the timeout is an allowed length. -/
theorem timeout_of_canSweep (registry : Registry)
    (h : ((fresh (.fresh server config rules hasReceiver cooldown)).run registry
      [.start (.screening Timestamp.currentFrom) ann ⟨Timestamp.currentFrom, some 0⟩,
        .sweep ⟨Timestamp.currentFrom, some 0⟩]).CanSweep) :
    -86399999913600 ≤ config.limits.staleTimeoutSeconds ∧
      config.limits.staleTimeoutSeconds ≤ 86399999999999 := by
  obtain ⟨told, htold⟩ := h.goingOn 0
  obtain ⟨stopped, hstopped, _⟩ := eq_ok_of_map htold
  obtain ⟨stale, hstale⟩ := Monitor.isStale_of_sweepOne rfl hstopped
  exact isStale_isOk_iff.mp ⟨stale, hstale⟩

/-- If a sweep can go on that comes to a history, a history may have no negative length. -/
theorem most_of_canSweep (registry : Registry)
    (h : ((fresh (.fresh server config rules hasReceiver cooldown)).run registry
      (Move.screening Timestamp.currentFrom ++
        [.sweep ⟨Timestamp.currentFrom, some 0⟩])).CanSweep) : 0 ≤ config.maxRecentSessions := by
  obtain ⟨told, htold⟩ := h.goingOn 0
  obtain ⟨_, hpruned, _⟩ := eq_ok_of_map htold
  obtain ⟨_, hmost | hnone⟩ := Monitor.prune_isOk_iff.mp hpruned
  · exact hmost
  · -- The session that was stopped is in a history.
    cases hnone

/-- **Sweeps never fail exactly with sweepable settings.**  A monitor is used in any way, with or
    without faults, with times such as clocks show and in less than an enormous number of moves.
    Then every sweep has a result, at any time in the years 2000 to 2100 and whatever goes on
    between its sessions, exactly if the settings are sweepable. -/
theorem canSweep_iff (registry : Registry) (server : Server) (config : MonitorConfig)
    (rules : List Rule) (hasReceiver : Bool) (cooldown : τ) :
    (∀ moves : List (Move τ), (∀ move ∈ moves, move.Dated) → moves.length ≤ twoPow 896 →
      ((fresh (.fresh server config rules hasReceiver cooldown)).run registry moves).CanSweep) ↔
    config.Sweepable := by
  have hfew : 3 ≤ twoPow 896 := Nat.le_trans (by decide : 3 ≤ twoPow 2) (twoPow_le (by decide))
  constructor
  · -- Each bound is met at one use: a sweep of a session, of nothing, and of a history.
    intro h
    have hstart : ∀ move ∈ [.start (.screening Timestamp.currentFrom) ann
        ⟨Timestamp.currentFrom, some 0⟩, .sweep ⟨Timestamp.currentFrom, some 0⟩],
        Move.Dated (τ := τ) move := by
      intro move hmove
      obtain rfl | hmove := List.mem_cons.mp hmove
      · exact dated_screening _ List.mem_cons_self
      · obtain rfl := List.mem_singleton.mp hmove
        exact isCurrent_bounds.1
    have hstop : ∀ move ∈ Move.screening Timestamp.currentFrom ++
        [.sweep ⟨Timestamp.currentFrom, some 0⟩], Move.Dated (τ := τ) move := by
      intro move hmove
      obtain hmove | hmove := List.mem_append.mp hmove
      · exact dated_screening move hmove
      · obtain rfl := List.mem_singleton.mp hmove
        exact isCurrent_bounds.1
    have hnothing : ∀ move ∈ ([] : List (Move τ)), move.Dated := fun move hmove =>
      absurd hmove List.not_mem_nil
    exact ⟨timeout_of_canSweep registry (h _ hstart (Nat.le_trans (Nat.le_succ 2) hfew)),
      window_of_canSweep (h [] hnothing (Nat.zero_le _)),
      most_of_canSweep registry (h _ hstop hfew)⟩
  · intro hconfig moves hdated hfew
    have hbegun : (fresh (.fresh server config rules hasReceiver cooldown)).Dated 0 :=
      ⟨fun s hs => absurd hs List.not_mem_nil, fun sweep hsweep => absurd hsweep List.not_mem_nil⟩
    have hsame : ((fresh (.fresh server config rules hasReceiver cooldown)).run registry
        moves).monitor.config = config := run_config registry _ moves
    refine (dated_run registry hbegun hdated).canSweep ?_ ?_
    · rw [Nat.zero_add]
      exact hfew
    · rw [hsame]
      exact hconfig

end

end Watch

end StreamWatch
