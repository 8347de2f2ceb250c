import StreamWatch.Validation.Basic

namespace StreamWatch.Validation

/-!
# Readers that settle

A reader settles if what it has read, written down, is read once more:

* `Checked.Ensures` — what every accepted value satisfies, through the parts of a reader;
* `Returns` — a reader that accepts the values of a property only, and takes these back from their
  written form;
* `Returns.nullable`, `Returns.list`, `Returns.entriesOf` — such readers of what may be null, of
  lists and of records whose keys are free;
* `Returns.of_required`, `Returns.of_defaulted`, `Returns.of_optional`, `Returns.of_items` — what
  such readers say about the fields of a record;
* `required_self`, `required_of_ne`, `defaulted_self`, `defaulted_of_ne` — which entry of a written
  record a field is read from.
-/

variable {α β : Type}

namespace Checked

@[simp] theorem map_accepted (f : α → β) (x : α) : f <$> accepted x = accepted (f x) := rfl

@[simp] theorem seq_accepted (f : α → β) (x : α) :
    accepted f <*> accepted x = accepted (f x) := rfl

@[simp] theorem under_accepted (step : PathStep) (x : α) :
    (accepted x).under step = accepted x := rfl

@[simp] theorem andThen_accepted (x : α) (f : α → Checked β) : (accepted x).andThen f = f x := rfl

/-- A function of a value is accepted with the value. -/
theorem map_eq_accepted_iff {f : α → β} {c : Checked α} {y : β} :
    f <$> c = .accepted y ↔ ∃ x, c = .accepted x ∧ f x = y := by
  cases c with
  | accepted x =>
    exact ⟨fun h => ⟨x, rfl, accepted.inj h⟩, fun ⟨_, hx, h⟩ => by rw [hx, ← h]; rfl⟩
  | refused issues => exact iff_of_false (fun h => by cases h) fun ⟨_, hx, _⟩ => by cases hx

/-- A checked function of a checked value is accepted with both. -/
theorem seq_eq_accepted_iff {f : Checked (α → β)} {c : Checked α} {y : β} :
    f <*> c = .accepted y ↔ ∃ g, f = .accepted g ∧ ∃ x, c = .accepted x ∧ g x = y := by
  cases f with
  | accepted g =>
    show g <$> c = .accepted y ↔ _
    rw [map_eq_accepted_iff]
    exact ⟨fun h => ⟨g, rfl, h⟩, fun ⟨_, hg, h⟩ => accepted.inj hg ▸ h⟩
  | refused issues =>
    refine iff_of_false (fun h => ?_) fun ⟨_, hg, _⟩ => by cases hg
    cases c <;> cases h

/-- A step in front of the issues says nothing about what is accepted. -/
theorem under_eq_accepted_iff {step : PathStep} {c : Checked α} {x : α} :
    c.under step = .accepted x ↔ c = .accepted x := by
  cases c with
  | accepted y => exact Iff.rfl
  | refused issues => exact iff_of_false (fun h => by cases h) fun h => by cases h

/-- What is accepted in the end was accepted at first. -/
theorem andThen_eq_accepted_iff {c : Checked α} {f : α → Checked β} {y : β} :
    c.andThen f = .accepted y ↔ ∃ x, c = .accepted x ∧ f x = .accepted y := by
  cases c with
  | accepted x => exact ⟨fun h => ⟨x, rfl, h⟩, fun ⟨_, hx, h⟩ => accepted.inj hx ▸ h⟩
  | refused issues => exact iff_of_false (fun h => by cases h) fun ⟨_, hx, _⟩ => by cases hx

/-- What passes a test is accepted as it is. -/
theorem guarded_eq_accepted_iff {test : α → Bool} {kind : IssueKind} {x y : α} :
    guarded test kind x = .accepted y ↔ test x = true ∧ x = y := by
  unfold guarded
  split
  · rename_i htest
    exact ⟨fun h => ⟨htest, accepted.inj h⟩, fun h => h.2 ▸ rfl⟩
  · rename_i htest
    exact iff_of_false (fun h => by cases h) fun h => htest h.1

/-- Does every accepted value have a property? -/
def Ensures (c : Checked α) (P : α → Prop) : Prop := ∀ x, c = .accepted x → P x

/-- What a function of an accepted value satisfies. -/
theorem ensures_map {f : α → β} {c : Checked α} {P : β → Prop} :
    (f <$> c).Ensures P ↔ c.Ensures fun x => P (f x) :=
  ⟨fun h x hx => h (f x) (map_eq_accepted_iff.mpr ⟨x, hx, rfl⟩), fun h y hy => by
    obtain ⟨x, hx, rfl⟩ := map_eq_accepted_iff.mp hy
    exact h x hx⟩

/-- What a checked function of a checked value satisfies. -/
theorem ensures_seq {f : Checked (α → β)} {c : Checked α} {P : β → Prop} :
    (f <*> c).Ensures P ↔ f.Ensures fun g => c.Ensures fun x => P (g x) :=
  ⟨fun h g hg x hx => h (g x) (seq_eq_accepted_iff.mpr ⟨g, hg, x, hx, rfl⟩), fun h y hy => by
    obtain ⟨g, hg, x, hx, rfl⟩ := seq_eq_accepted_iff.mp hy
    exact h g hg x hx⟩

end Checked

/-! ### Readers and writers -/

/-- Does a reader accept the values of a property only, and take these back from their written
    form? -/
structure Returns (read : Read α) (write : α → Given) (Valid : α → Prop) : Prop where
  valid : ∀ {d x}, read d = .accepted x → Valid x
  again : ∀ {x}, Valid x → read (write x) = .accepted x

namespace Returns

variable {read : Read α} {write : α → Given} {Valid : α → Prop} {issues : List Issue}

/-- What has been read is read once more from its written form. -/
theorem settles (h : Returns read write Valid) {d : Given} {x : α} (hread : read d = .accepted x) :
    read (write x) = .accepted x := h.again (h.valid hread)

/-- Where nothing is refused, it is not written. -/
theorem write_ne_null (h : Returns read write Valid) (hnull : read .null = .refused issues) {x : α}
    (hx : Valid x) : write x ≠ .null := by
  intro hwrite
  have hread := h.again hx
  rw [hwrite, hnull] at hread
  cases hread

/-- Something is read as it is where it may be nothing. -/
theorem nullable_of_ne {d : Given} (h : d ≠ .null) :
    Validation.nullable read d = some <$> read d := by
  cases d with
  | null => exact absurd rfl h
  | _ => rfl

/-- A reader of what may be nothing. -/
theorem nullable (h : Returns read write Valid) (hnull : read .null = .refused issues) :
    Returns (nullable read) (.ofOption write) fun o => ∀ x ∈ o, Valid x where
  valid {d o} hread x hx := by
    by_cases hd : d = .null
    · subst hd
      obtain rfl := Checked.accepted.inj hread
      cases hx
    · rw [nullable_of_ne hd] at hread
      obtain ⟨y, hy, rfl⟩ := Checked.map_eq_accepted_iff.mp hread
      obtain rfl := Option.some.inj hx
      exact h.valid hy
  again {o} hvalid := by
    cases o with
    | none => rfl
    | some x =>
      -- A value is not written as null, and so not taken for nothing.
      have hx := hvalid x rfl
      show Validation.nullable read (write x) = _
      rw [nullable_of_ne (h.write_ne_null hnull hx), h.again hx]
      rfl

/-- What is read of the items of a list. -/
theorem valid_of_itemsFrom (h : Returns read write Valid) {position : Nat} {items : List Given}
    {xs : List α} (hread : itemsFrom read position items = .accepted xs) : ∀ x ∈ xs, Valid x := by
  induction items generalizing position xs with
  | nil =>
    obtain rfl := Checked.accepted.inj hread
    exact fun x hx => absurd hx List.not_mem_nil
  | cons d rest ih =>
    obtain ⟨_, hfirst, others, hrest, rfl⟩ := Checked.seq_eq_accepted_iff.mp hread
    obtain ⟨x, hx, rfl⟩ := Checked.map_eq_accepted_iff.mp hfirst
    exact List.forall_mem_cons.mpr ⟨h.valid (Checked.under_eq_accepted_iff.mp hx), ih hrest⟩

/-- The items of a written list are read back. -/
theorem itemsFrom_written (h : Returns read write Valid) (position : Nat) {xs : List α}
    (hvalid : ∀ x ∈ xs, Valid x) : itemsFrom read position (xs.map write) = .accepted xs := by
  induction xs generalizing position with
  | nil => rfl
  | cons x rest ih =>
    obtain ⟨hx, hrest⟩ := List.forall_mem_cons.mp hvalid
    rw [List.map_cons, itemsFrom, h.again hx, ih _ hrest]
    rfl

/-- A reader of lists. -/
theorem list (h : Returns read write Valid) :
    Returns (list read) (.ofList write) fun xs => ∀ x ∈ xs, Valid x where
  valid {d xs} hread := by
    cases d with
    | list items => exact h.valid_of_itemsFrom hread
    | _ => cases hread
  again hvalid := h.itemsFrom_written 0 hvalid

/-- What is read of the values of a record whose keys are free. -/
theorem valid_of_valuesOf (h : Returns read write Valid) {entries : Parts}
    {xs : List (String × α)} (hread : valuesOf read entries = .accepted xs) :
    ∀ entry ∈ xs, Valid entry.2 := by
  induction entries generalizing xs with
  | nil =>
    obtain rfl := Checked.accepted.inj hread
    exact fun x hx => absurd hx List.not_mem_nil
  | cons entry rest ih =>
    obtain ⟨_, hfirst, others, hrest, rfl⟩ := Checked.seq_eq_accepted_iff.mp hread
    obtain ⟨x, hx, rfl⟩ := Checked.map_eq_accepted_iff.mp hfirst
    exact List.forall_mem_cons.mpr ⟨h.valid (Checked.under_eq_accepted_iff.mp hx), ih hrest⟩

/-- The values of a written record are read back. -/
theorem valuesOf_written (h : Returns read write Valid) {xs : List (String × α)}
    (hvalid : ∀ entry ∈ xs, Valid entry.2) :
    valuesOf read (xs.map fun entry => (entry.1, write entry.2)) = .accepted xs := by
  induction xs with
  | nil => rfl
  | cons entry rest ih =>
    obtain ⟨hx, hrest⟩ := List.forall_mem_cons.mp hvalid
    rw [List.map_cons, valuesOf, h.again hx, ih hrest]
    rfl

/-- A reader of records whose keys are free. -/
theorem entriesOf (h : Returns read write Valid) :
    Returns (entriesOf read)
      (fun xs => .record (xs.map fun entry => (entry.1, write entry.2)))
      fun xs => ∀ entry ∈ xs, Valid entry.2 where
  valid {d xs} hread := by
    cases d with
    | record entries => exact h.valid_of_valuesOf hread
    | _ => cases hread
  again hvalid := h.valuesOf_written hvalid

/-- A reader of values that pass a test. -/
theorem guarded (h : Returns read write Valid) (test : α → Bool) (kind : IssueKind) :
    Returns (fun d => (read d).andThen (Checked.guarded test kind)) write
      fun x => Valid x ∧ test x = true where
  valid hread := by
    obtain ⟨x, hx, hpass⟩ := Checked.andThen_eq_accepted_iff.mp hread
    obtain ⟨htest, rfl⟩ := Checked.guarded_eq_accepted_iff.mp hpass
    exact ⟨h.valid hx, htest⟩
  again {x} hvalid :=
    Checked.andThen_eq_accepted_iff.mpr ⟨x, h.again hvalid.1,
      Checked.guarded_eq_accepted_iff.mpr ⟨hvalid.2, rfl⟩⟩

/-- The property of a reader, in other words. -/
theorem of_iff (h : Returns read write Valid) {Other : α → Prop} (hiff : ∀ x, Valid x ↔ Other x) :
    Returns read write Other where
  valid hread := (hiff _).mp (h.valid hread)
  again hother := h.again ((hiff _).mpr hother)

/-! ### Fields of a record -/

variable {key : String} {entries : Parts} {x : α}

/-- What is read of a field that has to be there. -/
theorem of_required (h : Returns read write Valid)
    (hread : required key read entries = .accepted x) : Valid x := by
  unfold required at hread
  split at hread
  · exact h.valid (Checked.under_eq_accepted_iff.mp hread)
  · cases hread

/-- What is read of a field that has a value of its own. -/
theorem of_defaulted (h : Returns read write Valid) {absent : α} (habsent : Valid absent)
    (hread : defaulted key absent read entries = .accepted x) : Valid x := by
  unfold defaulted at hread
  split at hread
  · exact h.valid (Checked.under_eq_accepted_iff.mp hread)
  · exact Checked.accepted.inj hread ▸ habsent

/-- What is read of a field that may be nothing or not be there. -/
theorem of_optional (h : Returns read write Valid) {o : Option α}
    (hnull : read .null = .refused issues) (hread : optional key read entries = .accepted o) :
    ∀ x ∈ o, Valid x :=
  (h.nullable hnull).of_defaulted (fun _ hx => absurd hx (Option.not_mem_none _)) hread

/-- What is read of a field that is a list, and an empty one if it is not there. -/
theorem of_items (h : Returns read write Valid) {xs : List α}
    (hread : defaulted key [] (Validation.list read) entries = .accepted xs) :
    ∀ x ∈ xs, Valid x :=
  h.list.of_defaulted (fun _ hx => absurd hx List.not_mem_nil) hread

end Returns

/-! ### Fields that were written -/

section Written

variable {key other : String}

@[simp] theorem record_written (read : Parts → Checked α) (entries : Parts) :
    record read (.record entries) = read entries := rfl

@[simp] theorem required_self (key : String) (read : Read α) (d : Given) (rest : Parts) :
    required key read ((key, d) :: rest) = (read d).under (.key key) := by
  rw [required, Table.get?, if_pos rfl]

@[simp] theorem required_of_ne (h : other ≠ key) (read : Read α) (d : Given) (rest : Parts) :
    required key read ((other, d) :: rest) = required key read rest := by
  rw [required, Table.get?, if_neg h]
  rfl

@[simp] theorem defaulted_nil (key : String) (absent : α) (read : Read α) :
    defaulted key absent read [] = .accepted absent := rfl

@[simp] theorem defaulted_self (key : String) (absent : α) (read : Read α) (d : Given)
    (rest : Parts) : defaulted key absent read ((key, d) :: rest) =
      (read d).under (.key key) := by
  rw [defaulted, Table.get?, if_pos rfl]

@[simp] theorem defaulted_of_ne (h : other ≠ key) (absent : α) (read : Read α) (d : Given)
    (rest : Parts) : defaulted key absent read ((other, d) :: rest) =
      defaulted key absent read rest := by
  rw [defaulted, Table.get?, if_neg h]
  rfl

@[simp] theorem optional_eq (key : String) (read : Read α) (entries : Parts) :
    optional key read entries = defaulted key none (nullable read) entries := rfl

end Written

/-- What is read of a record is read of its entries. -/
theorem valid_of_record {read : Parts → Checked α} {Valid : α → Prop}
    (h : ∀ entries, (read entries).Ensures Valid) {d : Given} {x : α}
    (hread : record read d = .accepted x) : Valid x := by
  cases d with
  | record entries => exact h entries x hread
  | _ => cases hread

end StreamWatch.Validation
