import StreamWatch.Proofs.Watch.Restriction
import StreamWatch.Proofs.Watch.Snapshot

namespace StreamWatch

/-!
# Other users make no difference

One monitor watches the sessions of all users, sweeps over all of them at once, and shows all of
them to the rules.  Still nothing that a user can see depends on what others do.  This file
compares a run with the one in which all that concerns others is left out:

* `Occasion`, `Entrance.acts`, `Entrance.perform` — what can happen while the rules of starts are
  being evaluated.  A start is named by its user and by its number among the starts of this user,
  so that its name stays the same when others are left out;
* `Told`, `Entrance.tells` — what a call returns, unless it has a fault;
* `Occasion.concerns` — does it concern a user, or others only?
* `Entrance.Mirrors` — the simulation: a monitor in use shows of one user what another one shows;
* `Entrance.Mirrors.own`, `Entrance.Mirrors.other` — what concerns the user keeps it when it
  happens to both, and what concerns others when it happens to one of them;
* `Entrance.users_isolated` — the two runs show the same of the user.
-/

/-! ### Places in a list -/

section
variable {α : Type}

/-- The place of the element of a list that is the one of some number among those with a
    property.  If there is none it is behind the list. -/
def placeOf (p : α → Bool) : List α → Nat → Nat
  | [], _ => 0
  | a :: rest, 0 => if p a then 0 else placeOf p rest 0 + 1
  | a :: rest, n + 1 => if p a then placeOf p rest n + 1 else placeOf p rest (n + 1) + 1

/-- What is at that place has that number. -/
theorem getElem?_placeOf (p : α → Bool) (xs : List α) (n : Nat) :
    xs[placeOf p xs n]? = (xs.filter p)[n]? := by
  -- By the cases of `placeOf`: only the elements with the property are counted on the way.
  induction xs generalizing n with
  | nil => rfl
  | cons a rest ih =>
    rw [List.filter_cons]
    cases n with
    | zero =>
      rw [placeOf]
      split
      · rfl
      · rw [List.getElem?_cons_succ, ih]
    | succ n =>
      rw [placeOf]
      split
      · rw [List.getElem?_cons_succ, List.getElem?_cons_succ, ih]
      · rw [List.getElem?_cons_succ, ih]

/-- A change at that place that keeps the property is a change of the element with that number. -/
theorem filter_modify_placeOf {p : α → Bool} {f : α → α} (hkeeps : ∀ a, p (f a) = p a)
    (xs : List α) (n : Nat) :
    (xs.modify (placeOf p xs n) f).filter p = (xs.filter p).modify n f := by
  induction xs generalizing n with
  | nil => rw [List.modify_nil, List.filter_nil, List.modify_nil]
  | cons a rest ih =>
    cases n with
    | zero =>
      rw [placeOf]
      split
      · rename_i ha
        rw [List.modify_zero_cons, List.filter_cons_of_pos ((hkeeps a).trans ha),
          List.filter_cons_of_pos ha, List.modify_zero_cons]
      · rename_i ha
        rw [List.modify_succ_cons, List.filter_cons_of_neg ha, List.filter_cons_of_neg ha, ih]
    | succ n =>
      rw [placeOf]
      split
      · rename_i ha
        rw [List.modify_succ_cons, List.filter_cons_of_pos ha, List.filter_cons_of_pos ha,
          List.modify_succ_cons, ih]
      · rename_i ha
        rw [List.modify_succ_cons, List.filter_cons_of_neg ha, List.filter_cons_of_neg ha, ih]

/-- A change at that place does not show among elements with another property. -/
theorem filter_modify_placeOf_of_disjoint {p q : α → Bool} {f : α → α}
    (hkeeps : ∀ a, q (f a) = q a) (hdisjoint : ∀ a, p a = true → ¬ q a = true) (xs : List α)
    (n : Nat) : (xs.modify (placeOf p xs n) f).filter q = xs.filter q := by
  induction xs generalizing n with
  | nil => rw [List.modify_nil]
  | cons a rest ih =>
    have hfirst (ha : p a = true) : (f a :: rest).filter q = (a :: rest).filter q := by
      have hnot : ¬ q (f a) = true := fun hfa => hdisjoint a ha ((hkeeps a).symm.trans hfa)
      rw [List.filter_cons_of_neg hnot, List.filter_cons_of_neg (hdisjoint a ha)]
    have hlater (k : Nat) : (a :: rest.modify (placeOf p rest k) f).filter q =
        (a :: rest).filter q := by
      rw [List.filter_cons, List.filter_cons, ih]
    cases n with
    | zero =>
      rw [placeOf]
      split
      · rename_i ha
        rw [List.modify_zero_cons, hfirst ha]
      · rw [List.modify_succ_cons, hlater]
    | succ n =>
      rw [placeOf]
      split <;> rw [List.modify_succ_cons, hlater]

/-- Where all elements have the property, their numbers are their places. -/
theorem modify_placeOf_of_all {p : α → Bool} {xs : List α} (hall : ∀ a ∈ xs, p a = true)
    (f : α → α) (n : Nat) : xs.modify (placeOf p xs n) f = xs.modify n f := by
  induction xs generalizing n with
  | nil => rw [List.modify_nil, List.modify_nil]
  | cons a rest ih =>
    have ha : p a = true := hall a List.mem_cons_self
    cases n with
    | zero => rw [placeOf, if_pos ha]
    | succ n =>
      rw [placeOf, if_pos ha, List.modify_succ_cons, List.modify_succ_cons,
        ih fun b hb => hall b (List.mem_cons_of_mem a hb)]

/-- To replace what is in its place is to change it there. -/
theorem set_eq_modify {xs : List α} {n : Nat} {a : α} (h : xs[n]? = some a) (f : α → α) :
    xs.set n (f a) = xs.modify n f := by
  rw [List.modify_eq_set_getElem?, h]
  rfl

end

/-! ### Occasions -/

/-- What can happen to a monitor.  A sweep has nothing to wait for and does all its work at once,
    but the rules of a start are evaluated condition by condition. -/
inductive Occasion where
  | start (session : Session) (user : User) (now : Timestamp)
  /-- The next condition is tested for the start of a user that has this number. -/
  | test (userId : String) (number : Nat)
  /-- The start of a user that has this number returns, if its rules have been evaluated. -/
  | returns (userId : String) (number : Nat)
  | report (id : Datum) (stateName : String) (position : Datum) (now : Timestamp)
  | stop (id : Datum) (stoppedAt : Timestamp) (forced : Datum)
  | sweep (now : Timestamp)
  | setRules (rules : List Rule)

/-- What a call returns. -/
inductive Told where
  | nothing
  /-- What was found by a start, if it returns. -/
  | verdicts (found : Option (List Verdict))
  | reported (session : Option Session)
  | stopped (result : Option StopResult)
  | swept (results : List StopResult)

/-- What a call returns of one user. -/
def Told.only (u : String) : Told → Told
  | swept results => swept (results.filter fun one => one.session.userId == u)
  | other => other

namespace Occasion

/-- Does a start belong to the user of its session, whose id is one of this user? -/
def Fits (owner : String → String) : Occasion → Prop
  | start session user _ => session.userId = user.id ∧ session.userId = owner session.id
  | _ => True

instance (owner : String → String) : DecidablePred (Fits owner)
  | start session user _ => inferInstanceAs (Decidable (session.userId = user.id ∧ _))
  | test _ _ | returns _ _ | report _ _ _ _ | stop _ _ _ | sweep _ | setRules _ => .isTrue trivial

/-- Does it concern a user?  Sweeps and rules concern everybody, and so does a call for something
    that is no id. -/
def concerns (owner : String → String) (u : String) : Occasion → Bool
  | start session _ _ => session.userId == u
  | test userId _ | returns userId _ => userId == u
  | report (.text id) _ _ _ | stop (.text id) _ _ => owner id == u
  | _ => true

end Occasion

/-- An entrant whose start has returned what was found. -/
def Entrant.returning (found : List Verdict) (entrant : Entrant) : Entrant :=
  { entrant with returned := some found }

namespace Entrance

variable {τ : Type}

/-- Is an entrant one of a user? -/
def isOf (u : String) (entrant : Entrant) : Bool := entrant.session.userId == u

/-- The place of an entrant, by its user and its number among the entrants of this user. -/
def place (e : Entrance τ) (userId : String) (number : Nat) : Nat :=
  placeOf (isOf userId) e.entrants number

/-- What a monitor in use does on an occasion. -/
def acts (e : Entrance τ) : Occasion → List (Act τ)
  | .start session user now => [.move (.start session user now)]
  | .test userId number => [.test (e.place userId number)]
  | .returns userId number => [.move (.evaluated (e.place userId number))]
  | .report id stateName position now => [.move (.report id stateName position now)]
  | .stop id stoppedAt forced => [.move (.stop id stoppedAt forced)]
  | .sweep now =>
    (.sweep now :: List.replicate (e.watch.monitor.active.keys.length + 1)
      (.sweepOn e.watch.sweeps.length)).map .move
  | .setRules rules => [.move (.setRules rules)]

/-- What a monitor in use tells on an occasion, unless a call has a fault. -/
def tells (e : Entrance τ) : Occasion → Except Fault Told
  | .start session user now =>
    (e.watch.monitor.register session user now).result.map fun _ => .nothing
  | .test _ _ | .setRules _ => .ok .nothing
  | .returns userId number =>
    .ok (.verdicts ((e.entrants[e.place userId number]?).bind Entrant.due))
  | .report id stateName position now =>
    (e.watch.monitor.update id stateName position now).result.map .reported
  | .stop id stoppedAt forced =>
    (e.watch.monitor.stopSession id stoppedAt forced).result.map .stopped
  | .sweep now => (e.watch.monitor.sweep now).result.map .swept

section
variable [Sub τ] [LE τ] [DecidableLE τ]

/-- A monitor in use after an occasion. -/
def perform (registry : Registry) (e : Entrance τ) (occasion : Occasion) : Entrance τ :=
  e.run registry (e.acts occasion)

/-- A monitor in use after some occasions. -/
def performAll (registry : Registry) (e : Entrance τ) : List Occasion → Entrance τ
  | [] => e
  | occasion :: rest => (e.perform registry occasion).performAll registry rest

/-- What a monitor in use tells on some occasions, unless a call has a fault. -/
def tellsAll (registry : Registry) (e : Entrance τ) :
    List Occasion → Except Fault (List (Occasion × Told))
  | [] => .ok []
  | occasion :: rest => do
    let told ← e.tells occasion
    let others ← (e.perform registry occasion).tellsAll registry rest
    return (occasion, told) :: others

/-- What is told on an occasion and on those behind it. -/
theorem tellsAll_cons_eq_ok {registry : Registry} {e : Entrance τ} {occasion : Occasion}
    {rest : List Occasion} {told : List (Occasion × Told)}
    (h : e.tellsAll registry (occasion :: rest) = .ok told) :
    ∃ first others, e.tells occasion = .ok first ∧
      (e.perform registry occasion).tellsAll registry rest = .ok others ∧
      told = (occasion, first) :: others := by
  unfold tellsAll at h
  cases hfirst : e.tells occasion with
  | error fault => simp only [hfirst, bind, Except.bind, reduceCtorEq] at h
  | ok first =>
    cases hothers : (e.perform registry occasion).tellsAll registry rest with
    | error fault => simp only [hfirst, hothers, bind, Except.bind, reduceCtorEq] at h
    | ok others =>
      simp only [hfirst, hothers, bind, Except.bind, pure, Except.pure, Except.ok.injEq] at h
      exact ⟨first, others, rfl, rfl, h.symm⟩

/-! ### What happens on an occasion -/

/-- Other moves are moves of the monitor. -/
theorem run_moves (registry : Registry) (e : Entrance τ) {moves : List (Move τ)}
    (hothers : ∀ move ∈ moves, move.isOther = true) :
    e.run registry (moves.map .move) = { e with watch := e.watch.run registry moves } := by
  induction moves generalizing e with
  | nil => rfl
  | cons move rest ih =>
    rw [List.map_cons, run, after_other registry e (hothers move List.mem_cons_self),
      ih _ fun other hother => hothers other (List.mem_cons_of_mem _ hother)]
    rfl

/-- A sweep that nothing interrupts is the sweep of the monitor. -/
theorem perform_sweep (registry : Registry) (e : Entrance τ) (now : Timestamp) :
    e.perform registry (.sweep now) =
      { e with watch := { e.watch with monitor := (e.watch.monitor.sweep now).monitor } } := by
  rw [← Watch.sweep_eq_run registry e.watch now]
  refine run_moves registry e fun move hmove => ?_
  obtain rfl | hmove := List.mem_cons.mp hmove
  · rfl
  · rw [(List.mem_replicate.mp hmove).2]
    rfl

/-- A start that has no fault registers its session, and begins to ask for the rules. -/
theorem perform_start (registry : Registry) {e : Entrance τ} {session : Session} {user : User}
    {now : Timestamp} {context : SessionContext}
    (h : (e.watch.monitor.register session user now).result = .ok context) :
    (e.perform registry (.start session user now)).watch.monitor =
        (e.watch.monitor.register session user now).monitor ∧
      (e.perform registry (.start session user now)).entrants =
        e.entrants ++ [⟨context.session, verdicts asking context e.watch.monitor.rules, none⟩] := by
  show (e.start session user now).watch.monitor = _ ∧ (e.start session user now).entrants = _
  unfold start
  simp only [h, and_self]

/-- Whether a start has a fault or not, the monitor after it is that after the registration. -/
theorem perform_start_monitor (registry : Registry) (e : Entrance τ) (session : Session)
    (user : User) (now : Timestamp) :
    (e.perform registry (.start session user now)).watch.monitor =
      (e.watch.monitor.register session user now).monitor := by
  show (e.start session user now).watch.monitor = _
  unfold start
  simp only
  split <;> rfl

/-- A start that has a fault does not enter. -/
theorem perform_start_of_error (registry : Registry) {e : Entrance τ} {session : Session}
    {user : User} {now : Timestamp} {fault : Fault}
    (h : (e.watch.monitor.register session user now).result = .error fault) :
    (e.perform registry (.start session user now)).entrants = e.entrants := by
  show (e.start session user now).entrants = _
  unfold start
  simp only [h]

/-- The end of an evaluation queues what was found, if it is due, and its start has returned. -/
theorem perform_returns (registry : Registry) (e : Entrance τ) (userId : String) (number : Nat) :
    e.perform registry (.returns userId number) = e ∧
        (e.entrants[e.place userId number]?).bind Entrant.due = none ∨
    ∃ entrant found, e.entrants[e.place userId number]? = some entrant ∧
      entrant.due = some found ∧
      (e.perform registry (.returns userId number)).watch.monitor =
        (e.watch.monitor.enqueue entrant.session found).monitor ∧
      (e.perform registry (.returns userId number)).entrants =
        e.entrants.modify (e.place userId number) (Entrant.returning found) := by
  show (e.conclude (e.place userId number) = e ∧ _) ∨
    ∃ entrant found, _ ∧ _ ∧ (e.conclude (e.place userId number)).watch.monitor = _ ∧
      (e.conclude (e.place userId number)).entrants = _
  unfold conclude
  cases hentrant : e.entrants[e.place userId number]? with
  | none => exact .inl ⟨rfl, rfl⟩
  | some entrant =>
    cases hdue : entrant.due with
    | none =>
      simp only [hdue]
      exact .inl ⟨trivial, hdue⟩
    | some found =>
      simp only [hdue]
      exact .inr ⟨entrant, found, rfl, hdue, rfl,
        set_eq_modify hentrant (Entrant.returning found)⟩

end

end Entrance

/-! ### The simulation -/

/-- An entrant whose rules are evaluated where only the sessions of its user are active. -/
def Entrant.withOwn (entrant : Entrant) : Entrant :=
  { entrant with inquiry := entrant.inquiry.withOwn }

/-- Its start returns the same, if it can. -/
theorem Entrant.due_withOwn (entrant : Entrant) : entrant.withOwn.due = entrant.due := by
  unfold due withOwn
  cases entrant.returned with
  | none => cases entrant.inquiry <;> rfl
  | some found => rfl

namespace Entrance

variable {τ : Type} {owner : String → String} {u : String} {e alone : Entrance τ}

/-- Does a monitor in use show what another one shows of one user? -/
structure Mirrors (owner : String → String) (u : String) (e alone : Entrance τ) : Prop where
  monitor : alone.watch.monitor = e.watch.monitor.only owner u
  entrants : alone.entrants = (e.entrants.filter (isOf u)).map Entrant.withOwn

/-- All entrants that are shown are those of the user. -/
theorem Mirrors.isOf_of_mem (h : Mirrors owner u e alone) :
    ∀ entrant ∈ alone.entrants, isOf u entrant = true := by
  intro entrant hentrant
  rw [h.entrants] at hentrant
  obtain ⟨original, horiginal, rfl⟩ := List.mem_map.mp hentrant
  exact (List.mem_filter.mp horiginal).2

/-- The starts of the user have the same numbers. -/
theorem Mirrors.getElem?_place (h : Mirrors owner u e alone) (number : Nat) :
    alone.entrants[alone.place u number]? =
      (e.entrants[e.place u number]?).map Entrant.withOwn := by
  rw [place, place, getElem?_placeOf, getElem?_placeOf, List.filter_eq_self.mpr h.isOf_of_mem,
    h.entrants, List.getElem?_map]

/-- What changes one entrant of the user on both sides is seen on both sides. -/
theorem Mirrors.entrants_modify (h : Mirrors owner u e alone) (number : Nat)
    {f g : Entrant → Entrant} (hkeeps : ∀ entrant, (f entrant).session = entrant.session)
    (hcommutes : ∀ entrant, (f entrant).withOwn = g entrant.withOwn) :
    alone.entrants.modify (alone.place u number) g =
      ((e.entrants.modify (e.place u number) f).filter (isOf u)).map Entrant.withOwn := by
  have hof : ∀ entrant, isOf u (f entrant) = isOf u entrant := fun entrant => by
    rw [isOf, hkeeps, isOf]
  have hall : ∀ entrant ∈ alone.entrants, isOf u entrant = true := h.isOf_of_mem
  calc alone.entrants.modify (alone.place u number) g
      = alone.entrants.modify number g := modify_placeOf_of_all hall g number
    _ = ((e.entrants.filter (isOf u)).map Entrant.withOwn).modify number g := by rw [h.entrants]
    _ = ((e.entrants.filter (isOf u)).modify number f).map Entrant.withOwn :=
        (Watch.map_modify_comm hcommutes _ number).symm
    _ = ((e.entrants.modify (e.place u number) f).filter (isOf u)).map Entrant.withOwn := by
        rw [place, filter_modify_placeOf hof]

section
variable [Sub τ] [LE τ] [DecidableLE τ]

/-- The start of a session of the user is seen. -/
theorem Mirrors.start (h : Mirrors owner u e alone) (howned : e.watch.monitor.Owned owner)
    {session : Session} {user : User} (hsession : session.userId = u) (huser : user.id = u)
    (hid : owner session.id = u) {now : Timestamp} {context : SessionContext}
    (hresult : (e.watch.monitor.register session user now).result = .ok context) :
    (alone.watch.monitor.register session user now).result = .ok context.withOwn ∧
      Mirrors owner u (e.perform .standard (.start session user now))
        (alone.perform .standard (.start session user now)) := by
  have hregister : alone.watch.monitor.register session user now =
      ((e.watch.monitor.register session user now).map SessionContext.withOwn).only owner u := by
    rw [h.monitor]
    exact Monitor.only_register howned hid hsession huser now
  have hresult' : (alone.watch.monitor.register session user now).result =
      .ok context.withOwn := by
    rw [hregister]
    show Except.map SessionContext.withOwn _ = _
    rw [hresult]
    rfl
  obtain ⟨hmonitor, hentrants⟩ := perform_start .standard hresult
  obtain ⟨hmonitor', hentrants'⟩ := perform_start .standard hresult'
  have hrules : alone.watch.monitor.rules = e.watch.monitor.rules := by
    rw [h.monitor]
    rfl
  have hof : isOf u ⟨context.session, verdicts asking context e.watch.monitor.rules, none⟩ =
      true := by
    have huserId := (Accounted.admitted_facts (Monitor.register_cases hresult).1).2
    exact beq_iff_eq.mpr (huserId.trans hsession)
  refine ⟨hresult', ?_, ?_⟩
  · rw [hmonitor', hmonitor, hregister]
    rfl
  · rw [hentrants', hentrants, h.entrants, List.filter_append, List.filter_cons_of_pos hof,
      List.filter_nil, List.map_append, hrules, Inquiry.verdicts_withOwn]
    rfl

/-- The test of a condition for the user is seen. -/
theorem Mirrors.test (h : Mirrors owner u e alone) (number : Nat) :
    Mirrors owner u (e.perform .standard (.test u number))
      (alone.perform .standard (.test u number)) := by
  refine ⟨h.monitor, ?_⟩
  refine h.entrants_modify (f := Entrant.tested .standard) number (fun _ => rfl) fun entrant => ?_
  unfold Entrant.tested Entrant.withOwn
  rw [Inquiry.answerNext_withOwn]

/-- What a start of the user returns is seen. -/
theorem Mirrors.returns (h : Mirrors owner u e alone) (number : Nat) :
    alone.tells (.returns u number) = e.tells (.returns u number) ∧
      Mirrors owner u (e.perform .standard (.returns u number))
        (alone.perform .standard (.returns u number)) := by
  have hplace := h.getElem?_place number
  have hdue : (alone.entrants[alone.place u number]?).bind Entrant.due =
      (e.entrants[e.place u number]?).bind Entrant.due := by
    rw [hplace]
    cases e.entrants[e.place u number]? with
    | none => rfl
    | some entrant => exact entrant.due_withOwn
  refine ⟨congrArg (fun found => Except.ok (Told.verdicts found)) hdue, ?_⟩
  obtain ⟨hsame, hnone⟩ | ⟨entrant, found, hentrant, hfound, hmonitor, hentrants⟩ :=
    e.perform_returns .standard u number
  · obtain ⟨hsame', _⟩ | ⟨entrant', found', hentrant', hfound', _⟩ :=
      alone.perform_returns .standard u number
    · rw [hsame, hsame']
      exact h
    · rw [hnone, hentrant', Option.bind_some, hfound'] at hdue
      cases hdue
  · rw [hentrant, Option.map_some] at hplace
    obtain ⟨_, hnone⟩ | ⟨entrant', found', hentrant', hfound', hmonitor', hentrants'⟩ :=
      alone.perform_returns .standard u number
    · rw [hnone, hentrant, Option.bind_some, hfound] at hdue
      cases hdue
    · -- Both starts return, and with the same verdicts.
      obtain rfl : entrant.withOwn = entrant' := Option.some.inj (hplace.symm.trans hentrant')
      obtain rfl : found = found' :=
        Option.some.inj (hfound.symm.trans (entrant.due_withOwn.symm.trans hfound'))
      have hof : entrant.session.userId = u := by
        have hown : isOf u entrant.withOwn = true :=
          h.isOf_of_mem _ (List.mem_of_getElem? hentrant')
        exact beq_iff_eq.mp hown
      refine ⟨?_, ?_⟩
      · rw [hmonitor', hmonitor, h.monitor]
        exact congrArg Outcome.monitor (Monitor.only_enqueue hof found)
      · rw [hentrants', hentrants]
        exact h.entrants_modify number (fun _ => rfl) fun _ => rfl

/-- **What concerns the user is seen**: the two monitors in use tell the same of the user, and one
    goes on showing what the other shows. -/
theorem Mirrors.own (h : Mirrors owner u e alone) (howned : e.watch.monitor.Owned owner)
    {occasion : Occasion} (hconcerns : occasion.concerns owner u = true)
    (hfits : occasion.Fits owner) {told : Told} (htold : e.tells occasion = .ok told) :
    alone.tells occasion = .ok (told.only u) ∧
      Mirrors owner u (e.perform .standard occasion) (alone.perform .standard occasion) := by
  cases occasion with
  | start session user now =>
    obtain ⟨hsame, hid⟩ := hfits
    have hsession : session.userId = u := beq_iff_eq.mp hconcerns
    obtain ⟨context, hresult, rfl⟩ := eq_ok_of_map htold
    obtain ⟨hresult', hmirrors⟩ := h.start howned hsession (hsame.symm.trans hsession)
      (hid.symm.trans hsession) hresult
    refine ⟨?_, hmirrors⟩
    rw [tells, hresult']
    rfl
  | test userId number =>
    obtain rfl : userId = u := beq_iff_eq.mp hconcerns
    obtain rfl := Except.ok.inj htold
    exact ⟨rfl, h.test number⟩
  | returns userId number =>
    obtain rfl : userId = u := beq_iff_eq.mp hconcerns
    obtain ⟨htold', hmirrors⟩ := h.returns number
    refine ⟨?_, hmirrors⟩
    rw [htold', htold]
    obtain rfl := Except.ok.inj htold
    rfl
  | report given stateName position now =>
    have hown : ∀ name, given = .text name → owner name = u := by
      rintro name rfl
      exact beq_iff_eq.mp hconcerns
    obtain ⟨result, hresult, rfl⟩ := eq_ok_of_map htold
    have hupdate : alone.watch.monitor.update given stateName position now =
        (e.watch.monitor.update given stateName position now).only owner u := by
      rw [h.monitor]
      exact Monitor.only_update howned hown stateName position now
    refine ⟨?_, congrArg Outcome.monitor hupdate, h.entrants⟩
    rw [tells, hupdate]
    exact htold
  | stop given stoppedAt forced =>
    have hown : ∀ name, given = .text name → owner name = u := by
      rintro name rfl
      exact beq_iff_eq.mp hconcerns
    obtain ⟨result, hresult, rfl⟩ := eq_ok_of_map htold
    have hstop : alone.watch.monitor.stopSession given stoppedAt forced =
        (e.watch.monitor.stopSession given stoppedAt forced).only owner u := by
      rw [h.monitor]
      exact Monitor.only_stopSession howned hown stoppedAt forced
    refine ⟨?_, congrArg Outcome.monitor hstop, h.entrants⟩
    rw [tells, hstop]
    exact htold
  | sweep now =>
    obtain ⟨results, hresults, rfl⟩ := eq_ok_of_map htold
    obtain ⟨_, hresult, hmonitor⟩ := Monitor.only_sweep (u := u) howned hresults
    rw [perform_sweep, perform_sweep, tells, h.monitor, hresult]
    exact ⟨rfl, hmonitor, h.entrants⟩
  | setRules rules =>
    obtain rfl := Except.ok.inj htold
    refine ⟨rfl, ?_, h.entrants⟩
    show alone.watch.monitor.setRules rules = (e.watch.monitor.setRules rules).only owner u
    rw [h.monitor]
    rfl

/-- **What concerns others is not seen.** -/
theorem Mirrors.other (h : Mirrors owner u e alone) (howned : e.watch.monitor.Owned owner)
    {occasion : Occasion} (hother : occasion.concerns owner u = false)
    (hfits : occasion.Fits owner) :
    Mirrors owner u (e.perform .standard occasion) alone := by
  have hmodify {userId : String} (hne : (userId == u) = false) (number : Nat)
      (f : Entrant → Entrant) (hkeeps : ∀ entrant, (f entrant).session = entrant.session) :
      (e.entrants.modify (e.place userId number) f).filter (isOf u) =
        e.entrants.filter (isOf u) := by
    refine filter_modify_placeOf_of_disjoint (fun entrant => ?_) (fun entrant hof hof' => ?_) _ _
    · rw [isOf, hkeeps, isOf]
    · rw [isOf, beq_iff_eq] at hof hof'
      exact beq_eq_false_iff_ne.mp hne (hof.symm.trans hof')
  cases occasion with
  | start session user now =>
    have hsession : session.userId ≠ u := beq_eq_false_iff_ne.mp hother
    have hid : owner session.id ≠ u := hfits.2 ▸ hsession
    refine ⟨?_, ?_⟩
    · rw [perform_start_monitor, Monitor.register_only hid]
      exact h.monitor
    · cases hresult : (e.watch.monitor.register session user now).result with
      | error fault =>
        rw [perform_start_of_error .standard hresult]
        exact h.entrants
      | ok context =>
        have hgone : ¬ isOf u ⟨context.session,
            verdicts asking context e.watch.monitor.rules, none⟩ = true := by
          have huserId := (Accounted.admitted_facts (Monitor.register_cases hresult).1).2
          exact fun hof => hsession (huserId.symm.trans (beq_iff_eq.mp hof))
        rw [(perform_start .standard hresult).2, List.filter_append, List.filter_cons_of_neg hgone,
          List.filter_nil, List.append_nil]
        exact h.entrants
  | test userId number =>
    refine ⟨h.monitor, h.entrants.trans (congrArg _ ?_)⟩
    exact (hmodify hother number (Entrant.tested .standard) fun _ => rfl).symm
  | returns userId number =>
    obtain ⟨hsame, _⟩ | ⟨entrant, found, hentrant, _, hmonitor, hentrants⟩ :=
      e.perform_returns .standard userId number
    · rw [hsame]
      exact h
    · have hof : entrant.session.userId ≠ u := by
        have hplace := getElem?_placeOf (isOf userId) e.entrants number
        have hmem := List.mem_of_getElem? (hplace.symm.trans hentrant)
        have hisOf : isOf userId entrant = true := (List.mem_filter.mp hmem).2
        exact fun heq => beq_eq_false_iff_ne.mp hother ((beq_iff_eq.mp hisOf).symm.trans heq)
      refine ⟨?_, ?_⟩
      · rw [hmonitor, Monitor.enqueue_only hof]
        exact h.monitor
      · rw [hentrants]
        have hsame := hmodify hother number (Entrant.returning found) fun _ => rfl
        exact h.entrants.trans (congrArg _ hsame.symm)
  | report given stateName position now =>
    cases given with
    | text id =>
      have hid : owner id ≠ u := beq_eq_false_iff_ne.mp hother
      exact ⟨h.monitor.trans (Monitor.update_only howned hid stateName position now).symm,
        h.entrants⟩
    | _ => cases hother
  | stop given stoppedAt forced =>
    cases given with
    | text id =>
      have hid : owner id ≠ u := beq_eq_false_iff_ne.mp hother
      exact ⟨h.monitor.trans (Monitor.stopSession_only howned hid stoppedAt forced).symm,
        h.entrants⟩
    | _ => cases hother
  | sweep | setRules => cases hother

/-- Sessions belong to the users of their ids, whatever happens. -/
theorem owned_perform (howned : e.watch.monitor.Owned owner) {occasion : Occasion}
    (hfits : occasion.Fits owner) {told : Told} (htold : e.tells occasion = .ok told) :
    (e.perform .standard occasion).watch.monitor.Owned owner := by
  cases occasion with
  | start session user now =>
    rw [perform_start_monitor]
    refine howned.turnover (Monitor.register_turnover _ session user now) fun _ _ _ hmove => ?_
    cases hmove
    exact hfits.2
  | test userId number => exact howned
  | returns userId number =>
    obtain ⟨hsame, _⟩ | ⟨entrant, found, _, _, hmonitor, _⟩ :=
      e.perform_returns .standard userId number
    · rwa [hsame]
    · rw [hmonitor]
      have hactive : (e.watch.monitor.enqueue entrant.session found).monitor.active =
          e.watch.monitor.active := by
        unfold Monitor.enqueue
        split <;> rfl
      intro entry hentry
      exact howned entry (hactive ▸ hentry)
  | report given stateName position now =>
    refine howned.turnover (Monitor.update_turnover _ given stateName position now)
      fun _ _ _ hmove => ?_
    cases hmove
  | stop given stoppedAt forced =>
    refine howned.turnover (Monitor.stopSession_turnover _ given stoppedAt forced (.sweepOn 0))
      fun _ _ _ hmove => ?_
    cases hmove
  | sweep now =>
    obtain ⟨results, hresults, rfl⟩ := eq_ok_of_map htold
    rw [perform_sweep]
    exact (Monitor.only_sweep (u := "") howned hresults).1
  | setRules rules => exact howned

/-- **A run shows of the user** what the run shows in which all that concerns others is left
    out. -/
theorem Mirrors.run (h : Mirrors owner u e alone) (howned : e.watch.monitor.Owned owner)
    {occasions : List Occasion} (hfits : ∀ occasion ∈ occasions, occasion.Fits owner)
    {told : List (Occasion × Told)} (htold : e.tellsAll .standard occasions = .ok told) :
    (e.performAll .standard occasions).watch.monitor.Owned owner ∧
      Mirrors owner u (e.performAll .standard occasions)
        (alone.performAll .standard (occasions.filter (Occasion.concerns owner u))) ∧
      alone.tellsAll .standard (occasions.filter (Occasion.concerns owner u)) =
        .ok ((told.filter fun one => one.1.concerns owner u).map fun one =>
          (one.1, one.2.only u)) := by
  induction occasions generalizing e alone told with
  | nil =>
    obtain rfl := Except.ok.inj htold
    exact ⟨howned, h, rfl⟩
  | cons occasion rest ih =>
    obtain ⟨first, others, hfirst, hothers, rfl⟩ := tellsAll_cons_eq_ok htold
    have hfitsFirst : occasion.Fits owner := hfits occasion List.mem_cons_self
    have hfitsRest : ∀ other ∈ rest, other.Fits owner :=
      fun other hother => hfits other (List.mem_cons_of_mem occasion hother)
    have howned' := owned_perform howned hfitsFirst hfirst
    rw [List.filter_cons, List.filter_cons]
    cases hconcerns : occasion.concerns owner u with
    | true =>
      obtain ⟨htells, hmirrors⟩ := h.own howned hconcerns hfitsFirst hfirst
      obtain ⟨howned'', hmirrors', hrest⟩ := ih hmirrors howned' hfitsRest hothers
      refine ⟨howned'', hmirrors', ?_⟩
      simp only [if_true, tellsAll, htells, hrest]
      rfl
    | false =>
      -- It happens to one of the two only.
      exact ih (h.other howned hconcerns hfitsFirst) howned' hfitsRest hothers

/-- **No user can tell whether there are others.**  A monitor is used in any way in which no call
    has a fault: sessions of all users start, are reported on and are stopped, their rules are
    evaluated condition by condition while others go on, sweeps go over all sessions, and the rules
    are exchanged.  Every session starts for its own user, and no two users have an id in common.
    If everything that concerns others is left out of this, then no call has a fault, the same
    sessions of the user are active, in the same order, the history of the user is the same, every
    start, report and stop of the user returns the same, and sweeps return what they returned of
    the user. -/
theorem users_isolated (server : Server) (config : MonitorConfig) (rules : List Rule)
    (hasReceiver : Bool) (cooldown : τ) {occasions : List Occasion}
    (hfits : ∀ occasion ∈ occasions, occasion.Fits owner) {told : List (Occasion × Told)}
    (htold : (fresh (.fresh server config rules hasReceiver cooldown)).tellsAll .standard
      occasions = .ok told) (u : String) :
    let start := fresh (.fresh server config rules hasReceiver cooldown)
    let all := start.performAll .standard occasions
    let own := occasions.filter (Occasion.concerns owner u)
    let alone := start.performAll .standard own
    alone.watch.monitor.activeSessions =
        all.watch.monitor.activeSessions.filter (fun s => s.userId == u) ∧
      alone.watch.monitor.historyOf u = all.watch.monitor.historyOf u ∧
      start.tellsAll .standard own =
        .ok ((told.filter fun one => one.1.concerns owner u).map fun one =>
          (one.1, one.2.only u)) := by
  intro start all own alone
  have hstart : Mirrors owner u start start := ⟨rfl, rfl⟩
  have howned : start.watch.monitor.Owned owner := fun entry hentry => by cases hentry
  obtain ⟨howned', hmirrors, htells⟩ := hstart.run howned hfits htold
  refine ⟨?_, ?_, htells⟩
  · rw [hmirrors.monitor]
    exact howned'.activeSessions_only
  · rw [hmirrors.monitor]
    exact Monitor.historyOf_only

end

/-- Whose sessions they are: two belong to carl, the others to ann. -/
def inTwoHomes (id : String) : String := if id = "trip" ∨ id = "tour" then "carl" else "ann"

/-- Some minutes after the premiere. -/
def later (minutes : Int) : Moment := .universal (Duration.day + minutes * Duration.minute)

/-- An evening in two homes.  Carl and ann have two streams each, which begin in turn.  While the
    rule is evaluated for the second stream of ann, carl stops one of his.  Ann pauses her first
    stream, and a sweep stops what was silent. -/
def eveningInTwoHomes : List Occasion :=
  let carl : User := ⟨"carl", none, 50, .universal 0, none⟩
  let streamOfCarl id := Session.starting id "carl" "server" premiere
  [.start (streamOfCarl "trip") carl premiere, .start (streamOfAnn "film") Watch.ann premiere,
    .start (streamOfCarl "tour") carl premiere, .start (streamOfAnn "song") Watch.ann premiere,
    .test "ann" 1, .stop (.text "tour") (later 1) (.bool false), .test "carl" 0, .test "ann" 1,
    .returns "ann" 1, .report (.text "film") "paused" .null (later 9), .sweep (later 10)]

/-- A monitor for them. -/
def homes : Entrance Int :=
  fresh (.fresh ⟨"server", "Home", none⟩ .standard [crowded] true 60)

/-- Without carl ann has the same streams and the same history, and the rule finds the same. -/
theorem users_isolated_evening :
    let own := eveningInTwoHomes.filter (Occasion.concerns inTwoHomes "ann")
    own.length = 7 ∧ ∃ told, homes.tellsAll .standard eveningInTwoHomes = .ok told ∧
      homes.tellsAll .standard own =
        .ok ((told.filter fun one => one.1.concerns inTwoHomes "ann").map fun one =>
          (one.1, one.2.only "ann")) ∧
      ((homes.performAll .standard eveningInTwoHomes).watch.monitor.activeSessions.filter
        (fun s => s.userId == "ann")).map Session.id = ["film"] ∧
      (homes.performAll .standard own).watch.monitor.activeSessions.map Session.id = ["film"] ∧
      ((homes.performAll .standard eveningInTwoHomes).watch.monitor.historyOf "ann").map
        Session.id = ["song"] ∧
      (homes.performAll .standard own).watch.monitor.pending.map (fun found =>
        (found.verdict.ruleId, found.session.id)) = [("crowd", "song")] := by
  intro own
  have hfits : ∀ occasion ∈ eveningInTwoHomes, occasion.Fits inTwoHomes := by decide
  have hok : (homes.tellsAll .standard eveningInTwoHomes).isOk = true := by decide +kernel
  obtain ⟨told, htold⟩ : ∃ told, homes.tellsAll .standard eveningInTwoHomes = .ok told := by
    cases htold : homes.tellsAll .standard eveningInTwoHomes with
    | error fault => rw [htold] at hok; cases hok
    | ok told => exact ⟨told, rfl⟩
  obtain ⟨hactive, hhistory, htells⟩ := users_isolated ⟨"server", "Home", none⟩ .standard [crowded]
    true 60 hfits htold "ann"
  have hfilm : ((homes.performAll .standard eveningInTwoHomes).watch.monitor.activeSessions.filter
      (fun s => s.userId == "ann")).map Session.id = ["film"] := by decide +kernel
  refine ⟨by decide +kernel, told, htold, htells, hfilm, ?_, by decide +kernel, by decide +kernel⟩
  exact (congrArg (List.map Session.id) hactive).trans hfilm

end Entrance

end StreamWatch
