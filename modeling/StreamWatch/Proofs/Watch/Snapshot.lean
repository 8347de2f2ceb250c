import StreamWatch.Proofs.Evaluation.Inquiry
import StreamWatch.Proofs.Watch.Turnover

namespace StreamWatch

/-!
# The rules are evaluated on a snapshot

The rules of a start are evaluated while the monitor goes on with other work: between the tests
of two conditions anything can happen to the sessions, to the histories and to the rules.  This
file takes a monitor in use apart at every condition:

* `Entrant` — a session that was registered, and the evaluation of its rules;
* `Entrance`, `Act` — a monitor in use with its entrants, and what can happen next: the test of
  one condition, or a move;
* `Entrance.run_refines` — this is a monitor in use as it is when every evaluation is carried
  out at once, so that nothing else depends on how far the evaluations are;
* `Entrance.run_becomes`, `Entrance.exists_returned` — whatever happens meanwhile, a start returns
  what its inquiry came to when it was begun, and queues exactly that;
* `Entrance.start_evaluates_snapshot` — which is what the rules of that moment say at once on the
  context of that moment.
-/

/-! ### Other moves -/

/-- Is this neither a start nor the end of an evaluation? -/
def Move.isOther {τ : Type} : Move τ → Bool
  | .start .. | .evaluated _ => false
  | _ => true

namespace Watch

variable {τ : Type} [Sub τ] [LE τ] [DecidableLE τ]

/-- Handing a batch on has nothing to do with the evaluations. -/
theorem handOver_withEvaluations (w : Watch τ) (evaluations : List Evaluation) (now : τ)
    (batch : List Match) (numbers : List Nat) :
    { w with evaluations := evaluations }.handOver now batch numbers =
      { w.handOver now batch numbers with evaluations := evaluations } := by
  unfold handOver
  simp only
  cases (w.monitor.offer now batch).value.1.isEmpty <;> rfl

/-- A flush that goes on has nothing to do with the evaluations. -/
theorem goOn_withEvaluations (w : Watch τ) (evaluations : List Evaluation) (slot : Nat)
    (offeredAt : τ) (noted : Match → Monitor τ) :
    { w with evaluations := evaluations }.goOn slot offeredAt noted =
      { w.goOn slot offeredAt noted with evaluations := evaluations } := by
  unfold goOn
  cases w.flushes[slot]? with
  | none => rfl
  | some flush =>
    simp only
    cases flush.batch with
    | nil => rfl
    | cons first rest =>
      exact handOver_withEvaluations (w.settle slot flush (noted first)) evaluations offeredAt
        rest _

/-- Other moves have nothing to do with the evaluations. -/
theorem after_withEvaluations (registry : Registry) (w : Watch τ) (evaluations : List Evaluation)
    {move : Move τ} (hother : move.isOther = true) :
    { w with evaluations := evaluations }.after registry move =
      { w.after registry move with evaluations := evaluations } := by
  cases move with
  | start | evaluated => cases hother
  | flush takenAt offeredAt =>
    simp only [after, flush]
    cases (w.monitor.takePending takenAt).value.1.isEmpty with
    | true => rfl
    | false => exact handOver_withEvaluations (w.taking _) evaluations offeredAt _ _
  | received slot offeredAt => exact w.goOn_withEvaluations evaluations slot offeredAt _
  | refused slot settledAt offeredAt error =>
    exact w.goOn_withEvaluations evaluations slot offeredAt _
  | interrupted slot =>
    simp only [after]
    cases w.flushes[slot]? <;> rfl
  | sweepOn slot =>
    simp only [after]
    cases w.sweeps[slot]? with
    | none => rfl
    | some sweep =>
      simp only [sweepOn]
      cases sweep.left <;> rfl
  | report | stop | sweep | setRules | failure => rfl

/-- Handing a batch on queues nothing. -/
theorem handOver_queued (w : Watch τ) (now : τ) (batch : List Match) (numbers : List Nat) :
    (w.handOver now batch numbers).desk.queued = w.desk.queued := by
  unfold handOver
  simp only
  split <;> rfl

/-- A flush that goes on queues nothing. -/
theorem goOn_queued (w : Watch τ) (slot : Nat) (offeredAt : τ) (noted : Match → Monitor τ) :
    (w.goOn slot offeredAt noted).desk.queued = w.desk.queued := by
  unfold goOn
  split
  · rfl
  · split
    · rfl
    · exact handOver_queued _ offeredAt _ _

/-- Other moves queue nothing. -/
theorem queued_after (registry : Registry) (w : Watch τ) {move : Move τ}
    (hother : move.isOther = true) :
    (w.after registry move).desk.queued = w.desk.queued := by
  cases move with
  | start | evaluated => cases hother
  | flush takenAt offeredAt =>
    simp only [after, flush]
    split
    · rfl
    · exact handOver_queued (w.taking _) offeredAt _ _
  | received slot offeredAt => exact w.goOn_queued slot offeredAt _
  | refused slot settledAt offeredAt error => exact w.goOn_queued slot offeredAt _
  | interrupted slot =>
    simp only [after]
    split <;> rfl
  | sweepOn slot =>
    simp only [after]
    split
    · rfl
    · simp only [sweepOn]
      split <;> rfl
  | report | stop | sweep | setRules | failure => rfl

end Watch

/-- What was found is queued, whatever it is. -/
theorem Watch.pending_enqueue {τ : Type} (w : Watch τ) (session : Session) (found : List Verdict) :
    (w.enqueue session found).monitor.pending =
      w.monitor.pending ++ found.map (Match.mk · session) := by
  cases found with
  | nil => exact (List.append_nil _).symm
  | cons first rest => rfl

/-! ### Contexts -/

namespace Monitor

variable {τ : Type} {m : Monitor τ} {session : Session} {user : User} {now : Timestamp}
  {context : SessionContext}

/-- The context of a registration is that of the monitor after it. -/
theorem context_of_register (h : (m.register session user now).result = .ok context) :
    context = (m.register session user now).monitor.contextOf context.session user
      now.assumeUniversal := by
  unfold register at h ⊢
  cases hadmitted : m.admitted session now.assumeUniversal with
  | error fault => simp only [hadmitted, reduceCtorEq] at h
  | ok admitted =>
    simp only [hadmitted, unchanged, Except.ok.injEq] at h ⊢
    subst h
    rfl

/-- What a start sees: the sessions that are active then, itself among them once, and the history
    of its user. -/
theorem context_facts (hkeyed : m.Keyed)
    (h : (m.register session user now).result = .ok context) :
    (m.register session user now).monitor.active.get? session.id = some context.session ∧
      context.activeSessions = (m.register session user now).monitor.activeSessions ∧
      context.activeSessions.filter (fun s => s.id = session.id) = [context.session] ∧
      context.recentSessions = m.historyOf user.id ∧ context.user = user ∧
      context.server = m.server ∧ context.now = now.assumeUniversal := by
  have hserver : (m.addLock session.id).server = m.server := by
    unfold addLock
    split <;> rfl
  have hcontext := context_of_register h
  obtain ⟨hadmitted, hmonitor⟩ := register_cases h
  have hid : context.session.id = session.id := (Accounted.admitted_facts hadmitted).1
  have hactive : context.activeSessions = (m.active.set session.id context.session).values := by
    rw [hcontext, hmonitor]
    rfl
  refine ⟨?_, ?_, ?_, ?_, ?_, ?_, ?_⟩
  · rw [hmonitor]
    exact Table.get?_set_self _ _ _
  · rw [hactive, hmonitor]
    rfl
  · rw [hactive, ← hid]
    exact hkeyed.filter_set
  · rw [hcontext, hmonitor]
    show ((m.addLock session.id).history.get? user.id).getD [] = _
    rw [addLock_history]
    rfl
  · rw [hcontext]
    rfl
  · rw [hcontext, hmonitor]
    exact hserver
  · rw [hcontext]
    rfl

end Monitor

/-! ### Entrants -/

/-- A session that was registered, the evaluation of its rules, and what its start has
    returned. -/
structure Entrant where
  session : Session
  inquiry : Inquiry (List Verdict)
  returned : Option (List Verdict)

namespace Entrant

/-- What the start of an entrant can return now: what was found, if the evaluation is done and
    it has not returned yet. -/
def due (entrant : Entrant) : Option (List Verdict) :=
  match entrant.returned, entrant.inquiry with
  | none, .done found => some found
  | _, _ => none

/-- An entrant after the test of its next condition. -/
def tested (registry : Registry) (entrant : Entrant) : Entrant :=
  { entrant with inquiry := entrant.inquiry.answerNext registry }

/-- The matches that the start of an entrant has queued. -/
def queued (entrant : Entrant) : List Match :=
  (entrant.returned.getD []).map (Match.mk · entrant.session)

/-- The evaluation of an entrant that waits, as it is when it is carried out at once. -/
def evaluation? (registry : Registry) (entrant : Entrant) : Option Evaluation :=
  if entrant.returned.isNone then some ⟨entrant.session, entrant.inquiry.answer registry⟩ else none

/-- An entrant whose start can return waits, and its evaluation has come to its end. -/
theorem of_due {entrant : Entrant} {found : List Verdict} (h : entrant.due = some found) :
    entrant.returned = none ∧ entrant.inquiry = .done found := by
  unfold due at h
  split at h
  · rename_i hreturned hinquiry
    exact ⟨hreturned, Option.some.inj h ▸ hinquiry⟩
  · cases h

/-- What can become of an entrant: its start returns what its inquiry comes to, or has not
    returned anything else. -/
structure Becomes (registry : Registry) (entrant next : Entrant) : Prop where
  session : next.session = entrant.session
  answer : next.inquiry.answer registry = entrant.inquiry.answer registry
  returned : next.returned = entrant.returned ∨
    entrant.returned = none ∧ next.returned = some (entrant.inquiry.answer registry)

namespace Becomes

/-- Nothing becomes of an entrant. -/
theorem refl (registry : Registry) (entrant : Entrant) : entrant.Becomes registry entrant :=
  ⟨rfl, rfl, .inl rfl⟩

/-- What becomes of an entrant step by step. -/
theorem trans {registry : Registry} {entrant next last : Entrant}
    (h : entrant.Becomes registry next) (h' : next.Becomes registry last) :
    entrant.Becomes registry last := by
  refine ⟨h'.session.trans h.session, h'.answer.trans h.answer, ?_⟩
  obtain hsame | ⟨hwaits, hreturned⟩ := h.returned
  · obtain hsame' | ⟨hwaits, hreturned⟩ := h'.returned
    · exact .inl (hsame'.trans hsame)
    · exact .inr ⟨hsame.symm.trans hwaits, hreturned.trans (congrArg some h.answer)⟩
  · obtain hsame' | ⟨hwaits', _⟩ := h'.returned
    · exact .inr ⟨hwaits, hsame'.trans hreturned⟩
    · rw [hreturned] at hwaits'
      cases hwaits'

end Becomes

end Entrant

/-! ### Acts -/

/-- A monitor in use, whose evaluations are at some condition, with everybody who ever entered.
    The number of an entrant is its place. -/
structure Entrance (τ : Type) where
  watch : Watch τ
  entrants : List Entrant

/-- What can happen next. -/
inductive Act (τ : Type) where
  /-- The next condition of an entrant is tested. -/
  | test (number : Nat)
  /-- Anything else. The end of an evaluation is that of the entrant with this number. -/
  | move (move : Move τ)

namespace Entrance

variable {τ : Type}

/-- A monitor that nobody has used yet. -/
def fresh (m : Monitor τ) : Entrance τ := ⟨.fresh m, []⟩

/-- Registers a session, and begins to evaluate the rules of this moment. -/
def start (e : Entrance τ) (session : Session) (user : User) (now : Timestamp) : Entrance τ :=
  let registration := e.watch.monitor.register session user now
  let registered := { e.watch with monitor := registration.monitor }
  match registration.result with
  | .error _ => { e with watch := registered }
  | .ok context =>
    let inquiry := verdicts asking context e.watch.monitor.rules
    ⟨registered, e.entrants ++ [⟨context.session, inquiry, none⟩]⟩

/-- The start of an entrant returns what was found, which is queued. -/
def conclude (e : Entrance τ) (number : Nat) : Entrance τ :=
  match e.entrants[number]? with
  | none => e
  | some entrant =>
    match entrant.due with
    | none => e
    | some found =>
      ⟨e.watch.enqueue entrant.session found,
        e.entrants.set number { entrant with returned := some found }⟩

/-- What comes of the end of an evaluation: nothing if the entrant is not due, and otherwise what
    was found is queued. -/
theorem conclude_cases (e : Entrance τ) (number : Nat) :
    e.conclude number = e ∨
    ∃ entrant found, e.entrants[number]? = some entrant ∧ entrant.due = some found ∧
      e.conclude number = ⟨e.watch.enqueue entrant.session found,
        e.entrants.set number { entrant with returned := some found }⟩ := by
  unfold conclude
  cases hentrant : e.entrants[number]? with
  | none => exact .inl rfl
  | some entrant =>
    cases hdue : entrant.due with
    | none =>
      left
      simp only [hdue]
    | some found =>
      simp only [hdue]
      exact .inr ⟨entrant, found, rfl, hdue, rfl⟩

/-- What is queued when a start returns is what is returned. -/
theorem conclude_queued_perm {e : Entrance τ}
    (h : e.watch.desk.queued.Perm (e.entrants.flatMap Entrant.queued)) {number : Nat}
    {entrant : Entrant} (hentrant : e.entrants[number]? = some entrant) {found : List Verdict}
    (hwaits : entrant.returned = none) :
    (e.watch.enqueue entrant.session found).desk.queued.Perm
      ((e.entrants.set number { entrant with returned := some found }).flatMap Entrant.queued) := by
  obtain ⟨hnumber, hthere⟩ := List.getElem?_eq_some_iff.mp hentrant
  obtain ⟨front, back, hsplit, _, hset⟩ : ∃ front back,
      e.entrants = front ++ e.entrants[number] :: back ∧ front.length = number ∧
        e.entrants.set number { entrant with returned := some found } =
          front ++ { entrant with returned := some found } :: back := List.exists_of_set hnumber
  have hnothing : entrant.queued = [] := by
    rw [Entrant.queued, hwaits]
    rfl
  rw [hthere] at hsplit
  rw [hsplit, List.flatMap_append, List.flatMap_cons, hnothing, List.nil_append] at h
  rw [hset, List.flatMap_append, List.flatMap_cons]
  refine (h.append_right (found.map (Match.mk · entrant.session))).trans ?_
  rw [List.append_assoc]
  exact List.perm_append_comm.append_left _

/-- A monitor in use as it is when every evaluation is carried out at once. -/
def toWatch (registry : Registry) (e : Entrance τ) : Watch τ :=
  { e.watch with evaluations := e.entrants.filterMap (Entrant.evaluation? registry) }

variable [Sub τ] [LE τ] [DecidableLE τ]

/-- A monitor in use after an act. -/
def after (registry : Registry) (e : Entrance τ) : Act τ → Entrance τ
  | .test number => { e with entrants := e.entrants.modify number (Entrant.tested registry) }
  | .move (.start session user now) => e.start session user now
  | .move (.evaluated number) => e.conclude number
  | .move move => { e with watch := e.watch.after registry move }

/-- A monitor in use after some acts, in any order. -/
def run (registry : Registry) (e : Entrance τ) : List (Act τ) → Entrance τ
  | [] => e
  | act :: rest => (e.after registry act).run registry rest

/-- One run goes on where another one ended. -/
theorem run_append (registry : Registry) (e : Entrance τ) (first second : List (Act τ)) :
    e.run registry (first ++ second) = (e.run registry first).run registry second := by
  induction first generalizing e with
  | nil => rfl
  | cons act rest ih => exact ih (e.after registry act)

/-- Other moves are those of the monitor. -/
theorem after_other (registry : Registry) (e : Entrance τ) {move : Move τ}
    (hother : move.isOther = true) :
    e.after registry (.move move) = { e with watch := e.watch.after registry move } := by
  cases move with
  | start | evaluated => cases hother
  | _ => rfl

/-! ### Refinement -/

/-- What is seen of one place in a list has a slot among all that is seen, which is free when
    nothing is seen of that place any more. -/
theorem exists_slot {α β : Type} {g : α → Option β} {xs : List α} {n : Nat} {a a' : α} {b : β}
    (hplace : xs[n]? = some a) (hseen : g a = some b) (hgone : g a' = none) :
    ∃ slot, (xs.filterMap g)[slot]? = some b ∧
      (xs.set n a').filterMap g = (xs.filterMap g).eraseIdx slot := by
  induction xs generalizing n with
  | nil => cases hplace
  | cons x rest ih =>
    cases n with
    | zero =>
      obtain rfl := Option.some.inj hplace
      exact ⟨0, by rw [List.filterMap_cons_some hseen]; rfl, by
        rw [List.set_cons_zero, List.filterMap_cons_none hgone, List.filterMap_cons_some hseen,
          List.eraseIdx_cons_zero]⟩
    | succ n =>
      obtain ⟨slot, hslot, herased⟩ := ih hplace
      rw [List.set_cons_succ]
      cases hx : g x with
      | none =>
        rw [List.filterMap_cons_none hx, List.filterMap_cons_none hx]
        exact ⟨slot, hslot, herased⟩
      | some y =>
        rw [List.filterMap_cons_some hx, List.filterMap_cons_some hx, herased]
        exact ⟨slot + 1, hslot, rfl⟩

/-- A test changes nothing where evaluations are carried out at once. -/
theorem toWatch_test (registry : Registry) (e : Entrance τ) (number : Nat) :
    (e.after registry (.test number)).toWatch registry = e.toWatch registry := by
  have hsame : ∀ entrant : Entrant,
      (entrant.tested registry).evaluation? registry = entrant.evaluation? registry := by
    intro entrant
    unfold Entrant.evaluation? Entrant.tested
    rw [Inquiry.answer_answerNext]
  have hseen : (e.entrants.modify number (Entrant.tested registry)).filterMap
      (Entrant.evaluation? registry) = e.entrants.filterMap (Entrant.evaluation? registry) := by
    have hmap := Watch.map_modify_same _ _ hsame e.entrants number
    simpa only [List.filterMap_map, Function.id_comp] using congrArg (List.filterMap id) hmap
  simp only [after, toWatch, hseen]

/-- A start that returns is an evaluation that is over, at its place among those that wait. -/
theorem toWatch_evaluated (registry : Registry) (e : Entrance τ) (number : Nat) :
    ∃ moves, (e.after registry (.move (.evaluated number))).toWatch registry =
      (e.toWatch registry).run registry moves := by
  obtain hnobody | ⟨entrant, found, hentrant, hdue, hconclude⟩ := e.conclude_cases number
  · refine ⟨[], ?_⟩
    simp only [after, hnobody]
    rfl
  · obtain ⟨hreturned, hinquiry⟩ := Entrant.of_due hdue
    have hwaits : entrant.evaluation? registry = some ⟨entrant.session, found⟩ := by
      rw [Entrant.evaluation?, hreturned, Option.isNone_none, if_pos rfl, hinquiry, Inquiry.answer]
    -- Entrants keep their numbers, but an evaluation that is over leaves its place.
    obtain ⟨slot, hslot, hgone⟩ : ∃ slot,
        (e.entrants.filterMap (Entrant.evaluation? registry))[slot]? =
          some ⟨entrant.session, found⟩ ∧
        (e.entrants.set number { entrant with returned := some found }).filterMap
            (Entrant.evaluation? registry) =
          (e.entrants.filterMap (Entrant.evaluation? registry)).eraseIdx slot :=
      exists_slot hentrant hwaits rfl
    refine ⟨[.evaluated slot], ?_⟩
    simp only [after, hconclude, toWatch, hgone, Watch.run, Watch.after, hslot]
    rfl

/-- **An act refines no move, or one**, of the monitor whose evaluations are carried out at
    once. -/
theorem after_refines (registry : Registry) (e : Entrance τ) (act : Act τ) :
    ∃ moves, (e.after registry act).toWatch registry = (e.toWatch registry).run registry moves := by
  cases act with
  | test number => exact ⟨[], e.toWatch_test registry number⟩
  | move move =>
    cases hother : move.isOther with
    | true =>
      refine ⟨[move], ?_⟩
      rw [after_other registry e hother]
      exact (Watch.after_withEvaluations registry e.watch _ hother).symm
    | false =>
      cases move with
      | start session user now =>
        refine ⟨[.start session user now], ?_⟩
        simp only [after, start, toWatch, Watch.run, Watch.after, Watch.start]
        cases (e.watch.monitor.register session user now).result with
        | error fault => rfl
        | ok context =>
          simp only [List.filterMap_append, List.filterMap_cons, List.filterMap_nil,
            Entrant.evaluation?, Option.isNone_none, if_true, Inquiry.answer_verdicts]
      | evaluated number => exact e.toWatch_evaluated registry number
      | _ => cases hother

/-- **A run whose evaluations are interrupted refines a run** in which each of them is carried out
    at once. -/
theorem run_refines (registry : Registry) (e : Entrance τ) (acts : List (Act τ)) :
    ∃ moves, (e.run registry acts).toWatch registry = (e.toWatch registry).run registry moves := by
  induction acts generalizing e with
  | nil => exact ⟨[], rfl⟩
  | cons act rest ih =>
    obtain ⟨first, hfirst⟩ := e.after_refines registry act
    obtain ⟨others, hothers⟩ := ih (e.after registry act)
    refine ⟨first ++ others, ?_⟩
    rw [run, hothers, hfirst, Watch.run_append]

/-- Each active session is there once, under its own id, however far the evaluations are. -/
theorem keyed_run (registry : Registry) {m : Monitor τ} (h : m.Keyed) (acts : List (Act τ)) :
    ((fresh m).run registry acts).watch.monitor.Keyed := by
  obtain ⟨moves, hmoves⟩ := (fresh m).run_refines registry acts
  show (((fresh m).run registry acts).toWatch registry).monitor.Keyed
  rw [hmoves]
  exact Watch.keyed_run registry h moves

/-! ### What becomes of a start -/

/-- **What an act does to an entrant.**  If its start returns, it returns what its inquiry came
    to, and queues exactly that. -/
theorem after_becomes (registry : Registry) (e : Entrance τ) (act : Act τ) {number : Nat}
    {entrant : Entrant} (h : e.entrants[number]? = some entrant) :
    ∃ next, (e.after registry act).entrants[number]? = some next ∧
      entrant.Becomes registry next ∧
      (next.returned = entrant.returned ∨ (e.after registry act).watch.monitor.pending =
        e.watch.monitor.pending ++
          (entrant.inquiry.answer registry).map (Match.mk · entrant.session)) := by
  cases act with
  | test other =>
    refine ⟨if other = number then entrant.tested registry else entrant, ?_, ?_, ?_⟩
    · simp only [after, List.getElem?_modify, h]
      rfl
    · split
      · exact ⟨rfl, Inquiry.answer_answerNext registry entrant.inquiry, .inl rfl⟩
      · exact .refl registry entrant
    · left
      split <;> rfl
  | move move =>
    cases hother : move.isOther with
    | true =>
      rw [after_other registry e hother]
      exact ⟨entrant, h, .refl registry entrant, .inl rfl⟩
    | false =>
      cases move with
      | start session user now =>
        refine ⟨entrant, ?_, .refl registry entrant, .inl rfl⟩
        simp only [after, start]
        split
        · exact h
        · exact Accounted.getElem?_concat h
      | evaluated other =>
        obtain hnobody | ⟨first, found, hfirst, hdue, hconclude⟩ := e.conclude_cases other
        · refine ⟨entrant, ?_, .refl registry entrant, .inl rfl⟩
          simp only [after, hnobody, h]
        · simp only [after, hconclude]
          -- Only the start that returns has something queued for it.
          by_cases hsame : other = number
          · subst hsame
            obtain rfl := Option.some.inj (hfirst.symm.trans h)
            obtain ⟨hwaits, hinquiry⟩ := Entrant.of_due hdue
            obtain ⟨hother, _⟩ := List.getElem?_eq_some_iff.mp h
            have hfound : first.inquiry.answer registry = found := by
              rw [hinquiry, Inquiry.answer]
            rw [List.getElem?_set, if_pos rfl, if_pos hother, hfound]
            exact ⟨_, rfl, ⟨rfl, rfl, .inr ⟨hwaits, congrArg some hfound.symm⟩⟩,
              .inr (Watch.pending_enqueue e.watch first.session found)⟩
          · rw [List.getElem?_set_ne hsame, h]
            exact ⟨entrant, rfl, .refl registry entrant, .inl rfl⟩
      | _ => cases hother

/-- What a run does to an entrant. -/
theorem run_becomes (registry : Registry) (e : Entrance τ) (acts : List (Act τ)) {number : Nat}
    {entrant : Entrant} (h : e.entrants[number]? = some entrant) :
    ∃ next, (e.run registry acts).entrants[number]? = some next ∧
      entrant.Becomes registry next := by
  induction acts generalizing e entrant with
  | nil => exact ⟨entrant, h, .refl registry entrant⟩
  | cons act rest ih =>
    obtain ⟨next, hnext, hbecomes, _⟩ := e.after_becomes registry act h
    obtain ⟨last, hlast, hbecomes'⟩ := ih (e.after registry act) hnext
    exact ⟨last, hlast, hbecomes.trans hbecomes'⟩

/-- An act leaves it so that what was ever queued is what starts have returned. -/
theorem after_queued_perm (registry : Registry) {e : Entrance τ}
    (h : e.watch.desk.queued.Perm (e.entrants.flatMap Entrant.queued)) (act : Act τ) :
    (e.after registry act).watch.desk.queued.Perm
      ((e.after registry act).entrants.flatMap Entrant.queued) := by
  cases act with
  | test number =>
    have hsame : ∀ entrant : Entrant, (entrant.tested registry).queued = entrant.queued :=
      fun _ => rfl
    have hmap := Watch.map_modify_same _ _ hsame e.entrants number
    simpa only [after, List.flatMap_def, hmap] using h
  | move move =>
    cases hother : move.isOther with
    | true =>
      rw [after_other registry e hother]
      show (e.watch.after registry move).desk.queued.Perm _
      rw [Watch.queued_after registry e.watch hother]
      exact h
    | false =>
      cases move with
      | start session user now =>
        simp only [after, start]
        split
        · exact h
        · -- A new entrant has returned nothing yet.
          simpa only [List.flatMap_append, List.flatMap_cons, List.flatMap_nil, List.append_nil,
            Entrant.queued, Option.getD_none, List.map_nil] using h
      | evaluated number =>
        obtain hnobody | ⟨entrant, found, hentrant, hdue, hconclude⟩ := e.conclude_cases number
        · simp only [after, hnobody]
          exact h
        · simp only [after, hconclude]
          exact conclude_queued_perm h hentrant (Entrant.of_due hdue).1
      | _ => cases hother

/-- The matches of a run are those that were returned, of every entrant once. -/
theorem queued_perm (registry : Registry) {e : Entrance τ}
    (h : e.watch.desk.queued.Perm (e.entrants.flatMap Entrant.queued)) (acts : List (Act τ)) :
    (e.run registry acts).watch.desk.queued.Perm
      ((e.run registry acts).entrants.flatMap Entrant.queued) := by
  induction acts generalizing e with
  | nil => exact h
  | cons act rest ih => exact ih (after_queued_perm registry h act)

/-- Tests of its conditions are answers to the questions of an entrant. -/
theorem run_tests (registry : Registry) (e : Entrance τ) {number : Nat} {entrant : Entrant}
    (h : e.entrants[number]? = some entrant) (count : Nat) :
    (e.run registry (List.replicate count (.test number))).entrants[number]? =
      some { entrant with inquiry := entrant.inquiry.answerSome registry count } := by
  induction count generalizing e entrant with
  | zero => exact h
  | succ count ih =>
    have hnext : (e.after registry (.test number)).entrants[number]? =
        some (entrant.tested registry) := by
      simp only [after, List.getElem?_modify, h, if_true]
      rfl
    exact ih _ hnext

/-- **After enough tests a start can return**, if it has not returned yet. -/
theorem exists_returned (registry : Registry) (e : Entrance τ) {number : Nat} {entrant : Entrant}
    (h : e.entrants[number]? = some entrant) (hwaits : entrant.returned = none) :
    ∃ count next, ((e.run registry (List.replicate count (.test number))).after registry
        (.move (.evaluated number))).entrants[number]? = some next ∧
      next.returned = some (entrant.inquiry.answer registry) := by
  obtain ⟨count, hdone⟩ := entrant.inquiry.exists_answerSome_eq_done registry
  have htested := e.run_tests registry h count
  rw [hdone] at htested
  obtain ⟨hnumber, _⟩ := List.getElem?_eq_some_iff.mp htested
  refine ⟨count, { entrant with
    inquiry := .done (entrant.inquiry.answer registry)
    returned := some (entrant.inquiry.answer registry) }, ?_, rfl⟩
  have hdue : Entrant.due { entrant with inquiry := .done (entrant.inquiry.answer registry) } =
      some (entrant.inquiry.answer registry) := by
    unfold Entrant.due
    simp only [hwaits]
  simp only [after, conclude, htested, hdue]
  rw [List.getElem?_set, if_pos rfl, if_pos hnumber]

/-! ### The snapshot -/

/-- **A start evaluates its rules on a snapshot.**  A monitor was used in any way, with or without
    faults, and a session is registered.  Whatever comes between the tests of its conditions:

    * Its context has the active sessions after the registration, among them itself once, and the
      history of its user.
    * All matches that were ever queued are those that starts have returned.
    * If its start returns, then with the verdicts that the rules of the registration have on that
      context at once, and these are queued, in their order and on the session as it was
      registered.
    * It can still return as long as it has not. -/
theorem start_evaluates_snapshot (server : Server) (config : MonitorConfig) (rules : List Rule)
    (hasReceiver : Bool) (cooldown : τ) (before later : List (Act τ)) {session : Session}
    {user : User} {now : Timestamp} {context : SessionContext}
    (hcontext : (((fresh (.fresh server config rules hasReceiver cooldown)).run .standard
      before).watch.monitor.register session user now).result = .ok context) :
    let e := (fresh (.fresh server config rules hasReceiver cooldown)).run .standard before
    let begun := e.after .standard (.move (.start session user now))
    let late := begun.run .standard later
    let number := e.entrants.length
    let found := (verdicts (holdsAtOnce .standard) context e.watch.monitor.rules).value
    (begun.watch.monitor.active.get? session.id = some context.session ∧
      context.activeSessions = begun.watch.monitor.activeSessions ∧
      context.activeSessions.filter (fun s => s.id = session.id) = [context.session] ∧
      context.recentSessions = e.watch.monitor.historyOf user.id ∧ context.user = user ∧
      context.server = e.watch.monitor.server ∧ context.now = now.assumeUniversal) ∧
    late.watch.desk.queued.Perm (late.entrants.flatMap Entrant.queued) ∧
    ∃ entrant, late.entrants[number]? = some entrant ∧ entrant.session = context.session ∧
      (entrant.returned = none ∨ entrant.returned = some found) ∧
      (∀ act, ∃ next, (late.after .standard act).entrants[number]? = some next ∧
        (next.returned = entrant.returned ∨
          entrant.returned = none ∧ next.returned = some found ∧
            (late.after .standard act).watch.monitor.pending =
              late.watch.monitor.pending ++ found.map (Match.mk · context.session))) ∧
      (entrant.returned = none →
        ∃ count next, ((late.run .standard (List.replicate count (.test number))).after .standard
            (.move (.evaluated number))).entrants[number]? = some next ∧
          next.returned = some found) := by
  intro e begun late number found
  have hkeyed : e.watch.monitor.Keyed := keyed_run .standard (.fresh ..) before
  have hbegun : begun = ⟨{ e.watch with
        monitor := (e.watch.monitor.register session user now).monitor },
      e.entrants ++ [⟨context.session, verdicts asking context e.watch.monitor.rules, none⟩]⟩ := by
    show e.start session user now = _
    have hresult : (e.watch.monitor.register session user now).result = .ok context := hcontext
    simp only [start, hresult]
  have hmonitor : begun.watch.monitor = (e.watch.monitor.register session user now).monitor := by
    rw [hbegun]
  have hplace : begun.entrants[number]? =
      some ⟨context.session, verdicts asking context e.watch.monitor.rules, none⟩ := by
    rw [hbegun]
    exact List.getElem?_concat_length
  -- The inquiry was fixed when the start began, so its answers do not depend on what comes later.
  have hfound : (verdicts asking context e.watch.monitor.rules).answer .standard = found := by
    rw [Inquiry.answer_verdicts]
    exact ((atOnce_sublist_inTime .standard context e.watch.monitor.rules).2
      Registry.standard_neverPromises).symm
  obtain ⟨entrant, hentrant, hsession, hanswer, hreturned⟩ :=
    begun.run_becomes .standard later hplace
  rw [hfound] at hanswer
  refine ⟨?_, ?_, entrant, hentrant, hsession, ?_, fun act => ?_, fun hwaits => ?_⟩
  · rw [hmonitor]
    exact Monitor.context_facts hkeyed hcontext
  · have hqueued := queued_perm .standard (e := fresh (.fresh server config rules hasReceiver
      cooldown)) .nil (before ++ .move (.start session user now) :: later)
    rwa [run_append] at hqueued
  · rw [hfound] at hreturned
    exact hreturned.imp_right And.right
  · obtain ⟨next, hnext, hbecomes, hqueued⟩ := late.after_becomes .standard act hentrant
    have hnextReturned := hbecomes.returned
    rw [hanswer] at hnextReturned hqueued
    refine ⟨next, hnext, hnextReturned.imp_right fun hreturns => ⟨hreturns.1, hreturns.2, ?_⟩⟩
    obtain hsame | hqueued := hqueued
    · -- It would have returned nothing still.
      rw [hreturns.2, hreturns.1] at hsame
      cases hsame
    · rw [hqueued, hsession]
  · rw [← hanswer]
    exact late.exists_returned .standard hentrant hwaits

/-- A rule for users who have two streams or more. -/
def crowded : Rule :=
  let test condition : ConditionGroup := ⟨[condition]⟩
  ⟨"crowd", "Crowd", none, true, none,
    some ⟨[test ⟨"user_id", "eq", .text "ann", none⟩,
      test ⟨"concurrent_streams", "gte", .int 2, none⟩]⟩, none, none, none⟩

/-- When two streams of ann begin. -/
def premiere : Moment := .universal Duration.day

/-- A stream of ann. -/
def streamOfAnn (id : String) : Session := Session.starting id "ann" "server" premiere

/-- While the rule is evaluated for the second stream, the first one stops, and the rule is taken
    away. -/
def meanwhile : List (Act Nat) :=
  [.test 1, .move (.stop (.text "film") premiere (.bool false)), .move (.setRules []), .test 1]

/-- The start of the second stream returns what was so when it began, although by then there is
    only one stream, and no rule. -/
theorem start_evaluates_snapshot_meanwhile :
    let e := (fresh (.fresh ⟨"server", "Home", none⟩ .standard [crowded] true 60)).run .standard
      [.move (.start (streamOfAnn "film") Watch.ann premiere)]
    ∃ context,
      (e.watch.monitor.register (streamOfAnn "song") Watch.ann premiere).result = .ok context ∧
      let late := (e.after .standard (.move (.start (streamOfAnn "song") Watch.ann premiere))).run
        .standard meanwhile
      late.watch.monitor.activeSessions.map Session.id = ["song"] ∧
      late.watch.monitor.rules.length = 0 ∧
      ∃ next, (late.after .standard (.move (.evaluated 1))).entrants[1]? = some next ∧
        next.returned = some (verdicts (holdsAtOnce .standard) context [crowded]).value ∧
        next.queued.map (fun found => (found.verdict.ruleId, found.session.id)) =
          [("crowd", "song")] := by
  intro e
  obtain ⟨context, hcontext⟩ : ∃ context,
      (e.watch.monitor.register (streamOfAnn "song") Watch.ann premiere).result = .ok context :=
    ⟨_, rfl⟩
  refine ⟨context, hcontext, ?_⟩
  intro late
  have hwaits : late.entrants[1]?.map (fun entrant => entrant.returned.isNone) = some true := by
    decide +kernel
  have hreturns : (late.after .standard (.move (.evaluated 1))).entrants[1]?.map (fun entrant =>
      entrant.queued.map fun found => (found.verdict.ruleId, found.session.id)) =
        some [("crowd", "song")] := by decide +kernel
  obtain ⟨entrant, hentrant, _, _, hacts, _⟩ := (start_evaluates_snapshot ⟨"server", "Home", none⟩
    .standard [crowded] true 60 [.move (.start (streamOfAnn "film") Watch.ann premiere)] meanwhile
    hcontext).2.2
  obtain ⟨next, hnext, hreturned⟩ := hacts (.move (.evaluated 1))
  have hentrant' : late.entrants[1]? = some entrant := hentrant
  have hnext' : (late.after .standard (.move (.evaluated 1))).entrants[1]? = some next := hnext
  rw [hentrant', Option.map_some] at hwaits
  rw [hnext', Option.map_some] at hreturns
  refine ⟨by decide +kernel, by decide +kernel, next, hnext', ?_, Option.some.inj hreturns⟩
  obtain hsame | ⟨_, hfound, _⟩ := hreturned
  · -- What has returned nothing has queued nothing.
    rw [Entrant.queued, hsame, Option.isNone_iff_eq_none.mp (Option.some.inj hwaits)] at hreturns
    cases hreturns
  · exact hfound

end Entrance

end StreamWatch
