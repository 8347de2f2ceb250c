import Mathlib.Data.List.Forall2
import StreamWatch.Proofs.Lifecycle.Instants
import StreamWatch.Proofs.Validation.Basic
import StreamWatch.Validation.Scalar

namespace StreamWatch

/-!
# What is given, with its times told in another way

A timestamp may be told with any offset, and one in universal time with none.  What is read of it is
the same moment, told in another way:

* `Given.Retold` — the same is given, but for the way in which timestamps are told;
* `Checked.Agree` — two results of reading are refused for the same reasons, or accepted with values
  that stand in a relation;
* `Blind` — a reader that takes no timestamps reads the same;
* `Tells` — a reader that takes some reads what is the same in a view of it, as `moment_tells` says
  of moments;
* `RetoldParts` — records told in another way, and what is read of their fields;
* `record_tells`, `record_blind` — hence what is read of a record goes by its fields.
-/

/-- Is the same given, but for the way in which timestamps are told? -/
inductive Given.Retold : Given → Given → Prop
  | same (g : Given) : Retold g g
  | time {t t' : Timestamp} (ht : t.Shown) (ht' : t'.Shown) (h : t.instant = t'.instant) :
    Retold (.time t) (.time t')
  | list {items items' : List Given} (h : List.Forall₂ Retold items items') :
    Retold (.list items) (.list items')
  | record {parts parts' : Parts} (hkeys : Table.keys parts = Table.keys parts')
    (hvalues : List.Forall₂ Retold (Table.values parts) (Table.values parts')) :
    Retold (.record parts) (.record parts')

namespace Validation

variable {α β γ : Type}

/-! ### Results that agree -/

/-- Are two results refused for the same reasons, or accepted with values that stand in a
    relation? -/
inductive Checked.Agree (R : α → β → Prop) : Checked α → Checked β → Prop
  | accepted {x : α} {y : β} (h : R x y) : Agree R (.accepted x) (.accepted y)
  | refused (issues : List Issue) : Agree R (.refused issues) (.refused issues)

namespace Checked.Agree

variable {R : α → α → Prop} {c c' : Checked α}

/-- A result agrees with itself in every view. -/
theorem self (view : α → β) (c : Checked α) : Agree (fun x x' => view x = view x') c c := by
  cases c with
  | accepted x => exact .accepted rfl
  | refused issues => exact .refused issues

/-- What is accepted of one is accepted of the other, with values in the relation. -/
theorem exists_accepted (h : Agree R c c') {x : α} (hx : c = .accepted x) :
    ∃ x', c' = .accepted x' ∧ R x x' := by
  subst hx
  cases h with
  | accepted h => exact ⟨_, rfl, h⟩

/-- Results that agree in everything are the same. -/
theorem eq (h : Agree (fun x x' => x = x') c c') : c = c' := by
  cases h with
  | accepted h => exact congrArg Checked.accepted h
  | refused issues => rfl

/-- Results agree after functions of what was accepted that do. -/
theorem map {S : β → β → Prop} (h : Agree R c c') {f f' : α → β}
    (hf : ∀ x x', R x x' → S (f x) (f' x')) : Agree S (f <$> c) (f' <$> c') := by
  cases h with
  | accepted h => exact .accepted (hf _ _ h)
  | refused issues => exact .refused issues

/-- Results agree with a step in front of the reasons. -/
theorem under (h : Agree R c c') (step : PathStep) : Agree R (c.under step) (c'.under step) := by
  cases h with
  | accepted h => exact .accepted h
  | refused issues => exact .refused _

/-- Checked functions that agree on values in a relation do so on checked values. -/
theorem ap {S : β → β → Prop} {f f' : Checked (α → β)}
    (hf : Agree (fun g g' => ∀ x x', R x x' → S (g x) (g' x')) f f') (h : Agree R c c') :
    Agree S (f <*> c) (f' <*> c') := by
  cases hf with
  | accepted hg =>
    cases h with
    | accepted h => exact .accepted (hg _ _ h)
    | refused issues => exact .refused issues
  | refused issues =>
    cases h with
    | accepted h => exact .refused issues
    | refused more => exact .refused (issues ++ more)

/-- Checked functions that agree on every value do so on a checked value. -/
theorem ap_same {S : β → β → Prop} {f f' : Checked (α → β)}
    (hf : Agree (fun g g' => ∀ x, S (g x) (g' x)) f f') : Agree S (f <*> c) (f' <*> c) := by
  refine ap (R := Eq) ?_ (self id c)
  cases hf with
  | accepted hg => exact .accepted fun x x' h => h ▸ hg x
  | refused issues => exact .refused issues

end Checked.Agree

/-! ### Readers -/

/-- Does a reader read the same, however timestamps are told? -/
def Blind (read : Read α) : Prop := ∀ ⦃g g' : Given⦄, g.Retold g' → read g = read g'

/-- Does a reader read what is the same in a view of it, however timestamps are told? -/
def Tells (read : Read α) (view : α → β) : Prop :=
  ∀ ⦃g g' : Given⦄, g.Retold g' → (read g).Agree (fun x x' => view x = view x') (read g')

section Readers

variable {read : Read α} {view : α → β}

@[simp] theorem blind_text : Blind text := fun _ _ h => by cases h <;> rfl

@[simp] theorem blind_int : Blind int := fun _ _ h => by cases h <;> rfl

@[simp] theorem blind_float : Blind float := fun _ _ h => by cases h <;> rfl

@[simp] theorem blind_bool : Blind bool := fun _ _ h => by cases h <;> rfl

@[simp] theorem Blind.andThen (hread : Blind read) (f : α → Checked β) :
    Blind fun d => (read d).andThen f := fun _ _ h => congrArg (Checked.andThen · f) (hread h)

@[simp] theorem blind_intFrom (bound : Int) : Blind (intFrom bound) := blind_int.andThen _

@[simp] theorem blind_intAbove (bound : Int) : Blind (intAbove bound) := blind_int.andThen _

@[simp] theorem blind_intBetween (low high : Int) : Blind (intBetween low high) :=
  (blind_int.andThen _).andThen _

@[simp] theorem blind_textOfLength (least most : Nat) : Blind (textOfLength least most) :=
  blind_text.andThen _

@[simp] theorem blind_oneOf (kind : IssueKind) (name : α → String) (values : List α) :
    Blind (oneOf kind name values) := fun _ _ h => by cases h <;> rfl

@[simp] theorem Blind.nullable (hread : Blind read) : Blind (nullable read) := by
  intro g g' h
  have hsame := hread h
  cases h with
  | same => rfl
  | time | list | record => exact congrArg (some <$> ·) hsame

/-- A reader of moments reads the same instants. -/
theorem moment_tells : Tells moment (·.inUniversal) := by
  intro g g' h
  cases h with
  | same => exact .self _ _
  | time ht ht' h =>
    simp only [moment, timestamp, if_pos ht, if_pos ht', Checked.map_accepted]
    exact .accepted (Timestamp.inUniversal_eq_iff.mpr h)
  | list | record => exact .refused _

/-- A reader of what may be nothing. -/
theorem Tells.nullable (hread : Tells read view) :
    Tells (Validation.nullable read) (Option.map view) := by
  intro g g' h
  have hagree := hread h
  -- Null is told as null only, so that both are nothing or neither is.
  have hsome : ∀ x x', view x = view x' → (some x).map view = (some x').map view :=
    fun _ _ => congrArg some
  cases h with
  | same => exact .self _ _
  | time | list | record => exact hagree.map hsome

/-- The items of a list. -/
theorem Tells.itemsFrom (hread : Tells read view) {items items' : List Given}
    (h : List.Forall₂ Given.Retold items items') (position : Nat) :
    (itemsFrom read position items).Agree (fun xs xs' => xs.map view = xs'.map view)
      (itemsFrom read position items') := by
  induction h generalizing position with
  | nil => exact .accepted rfl
  | cons hitem _ ih =>
    refine Checked.Agree.ap (((hread hitem).under _).map fun x x' hx => ?_) (ih (position + 1))
    intro xs xs' hxs
    rw [List.map_cons, List.map_cons, hx, hxs]

/-- A reader of lists. -/
theorem Tells.list (hread : Tells read view) : Tells (Validation.list read) (List.map view) := by
  intro g g' h
  cases h with
  | same => exact .self _ _
  | list h => exact hread.itemsFrom h 0
  | time | record => exact .refused _

/-- A reader that reads the same tells all of it. -/
theorem Blind.tells (hread : Blind read) (view : α → β) : Tells read view := fun _ _ h => by
  rw [hread h]
  exact .self _ _

/-- A reader that tells all of what it reads reads the same. -/
theorem Blind.of_tells (hread : Tells read id) : Blind read := fun _ _ h => (hread h).eq

/-- The items of a list are read the same if no timestamps are taken. -/
theorem Blind.itemsFrom (hread : Blind read) {items items' : List Given}
    (h : List.Forall₂ Given.Retold items items') (position : Nat) :
    itemsFrom read position items = itemsFrom read position items' := by
  have hagree := (hread.tells id).itemsFrom h position
  simp only [List.map_id] at hagree
  exact hagree.eq

@[simp] theorem Blind.list (hread : Blind read) : Blind (Validation.list read) := by
  intro g g' h
  cases h with
  | same => rfl
  | list h => exact hread.itemsFrom h 0
  | time | record => rfl

end Readers

/-! ### Fields of a record -/

/-- Do two records have the same keys, with what is told in another way? -/
structure RetoldParts (parts parts' : Parts) : Prop where
  keys : Table.keys parts = Table.keys parts'
  values : List.Forall₂ Given.Retold (Table.values parts) (Table.values parts')

namespace RetoldParts

variable {parts parts' : Parts}

theorem refl (parts : Parts) : RetoldParts parts parts :=
  ⟨rfl, List.forall₂_same.mpr fun g _ => .same g⟩

/-- Under a key there is nothing in both records, or the same told in another way. -/
theorem get?_cases (h : RetoldParts parts parts') (key : String) :
    (Table.get? key parts = none ∧ Table.get? key parts' = none) ∨
      ∃ g g', Table.get? key parts = some g ∧ Table.get? key parts' = some g' ∧ g.Retold g' := by
  obtain ⟨hkeys, hvalues⟩ := h
  -- The keys are the same one by one, so that both searches end at the same place.
  induction parts generalizing parts' with
  | nil =>
    obtain rfl := List.map_eq_nil_iff.mp hkeys.symm
    exact .inl ⟨rfl, rfl⟩
  | cons entry rest ih =>
    obtain ⟨entry', rest', rfl, hkey, hrest⟩ := List.map_eq_cons_iff.mp hkeys.symm
    obtain ⟨hvalue, hvalues⟩ := List.forall₂_cons.mp hvalues
    by_cases hfound : entry.1 = key
    · exact .inr ⟨_, _, if_pos hfound, if_pos (hkey.trans hfound), hvalue⟩
    · simp only [Table.get?, if_neg hfound, if_neg (hkey ▸ hfound)]
      exact ih hrest.symm hvalues

variable {read : Read α} {view : α → β}

/-- A field that has to be there. -/
theorem required_agree (h : RetoldParts parts parts') (key : String) (hread : Tells read view) :
    (required key read parts).Agree (fun x x' => view x = view x') (required key read parts') := by
  unfold required
  rcases h.get?_cases key with ⟨hnone, hnone'⟩ | ⟨g, g', hsome, hsome', hretold⟩
  · rw [hnone, hnone']
    exact .self _ _
  · rw [hsome, hsome']
    exact (hread hretold).under _

/-- A field that has a value of its own. -/
theorem defaulted_agree (h : RetoldParts parts parts') (key : String) (hread : Tells read view)
    {absent absent' : α} (habsent : view absent = view absent') :
    (defaulted key absent read parts).Agree (fun x x' => view x = view x')
      (defaulted key absent' read parts') := by
  unfold defaulted
  rcases h.get?_cases key with ⟨hnone, hnone'⟩ | ⟨g, g', hsome, hsome', hretold⟩
  · rw [hnone, hnone']
    exact .accepted habsent
  · rw [hsome, hsome']
    exact (hread hretold).under _

/-- A field that has to be there is the same if no timestamps are taken. -/
theorem required_eq (h : RetoldParts parts parts') (key : String) (hread : Blind read) :
    required key read parts = required key read parts' :=
  (h.required_agree key (hread.tells id)).eq

/-- A field that has a value of its own is the same if no timestamps are taken. -/
theorem defaulted_eq (h : RetoldParts parts parts') (key : String) (absent : α)
    (hread : Blind read) :
    defaulted key absent read parts = defaulted key absent read parts' :=
  (h.defaulted_agree key (hread.tells id) rfl).eq

end RetoldParts

/-- A reader of records. -/
theorem record_tells {read : Parts → Checked α} {view : α → β}
    (hread : ∀ {parts parts'}, RetoldParts parts parts' →
      (read parts).Agree (fun x x' => view x = view x') (read parts')) :
    Tells (record read) view := by
  intro g g' h
  cases h with
  | same => exact .self _ _
  | record hkeys hvalues => exact hread ⟨hkeys, hvalues⟩
  | time | list => exact .refused _

/-- A reader of records that takes no timestamps. -/
theorem record_blind {read : Parts → Checked α}
    (hread : ∀ {parts parts'}, RetoldParts parts parts' → read parts = read parts') :
    Blind (record read) := by
  refine .of_tells (record_tells fun h => ?_)
  rw [hread h]
  exact .self _ _

end Validation

end StreamWatch
