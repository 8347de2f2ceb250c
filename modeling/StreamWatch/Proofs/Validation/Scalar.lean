import StreamWatch.Proofs.Time.Text
import StreamWatch.Proofs.Validation.Basic
import StreamWatch.Validation.Session

namespace StreamWatch.Validation

/-!
# Single values settle

Whatever a single value was read from, it is read once more as it is written:

* `text_returns`, `int_returns`, `float_returns`, `bool_returns` — the values of each kind;
* `intAbove_returns`, `intFrom_returns`, `intBetween_returns`, `unitFloat_returns`,
  `textOfLength_returns` — those within bounds;
* `oneOf_returns` — those of a choice;
* `moment_returns` — moments, in every form that `Stamps` them.
-/

/-! ### Kinds of values -/

@[simp] theorem text_written (s : String) : text (.text s) = .accepted s := rfl

@[simp] theorem int_written (n : Int) : int (.int n) = .accepted n := rfl

@[simp] theorem float_written (x : Float) : float (.real x) = .accepted x := rfl

@[simp] theorem bool_written (b : Bool) : bool (.bool b) = .accepted b := rfl

theorem text_returns : Returns text .text fun _ => True :=
  ⟨fun _ => trivial, fun _ => text_written _⟩

theorem int_returns : Returns int .int fun _ => True :=
  ⟨fun _ => trivial, fun _ => int_written _⟩

theorem float_returns : Returns float .real fun _ => True :=
  ⟨fun _ => trivial, fun _ => float_written _⟩

theorem bool_returns : Returns bool .bool fun _ => True :=
  ⟨fun _ => trivial, fun _ => bool_written _⟩

@[simp] theorem nullable_text_written (o : Option String) :
    nullable text (.ofOption .text o) = .accepted o :=
  (text_returns.nullable rfl).again fun _ _ => trivial

@[simp] theorem nullable_int_written (o : Option Int) :
    nullable int (.ofOption .int o) = .accepted o :=
  (int_returns.nullable rfl).again fun _ _ => trivial

@[simp] theorem nullable_float_written (o : Option Float) :
    nullable float (.ofOption .real o) = .accepted o :=
  (float_returns.nullable rfl).again fun _ _ => trivial

@[simp] theorem nullable_bool_written (o : Option Bool) :
    nullable bool (.ofOption .bool o) = .accepted o :=
  (bool_returns.nullable rfl).again fun _ _ => trivial

/-! ### Bounds -/

/-- Integers above a bound. -/
theorem intAbove_returns (bound : Int) : Returns (intAbove bound) .int (bound < ·) :=
  (int_returns.guarded _ .greaterThan).of_iff fun n => by
    rw [true_and, decide_eq_true_eq]

/-- Integers that are not below a bound. -/
theorem intFrom_returns (bound : Int) : Returns (intFrom bound) .int (bound ≤ ·) :=
  (int_returns.guarded _ .greaterThanEqual).of_iff fun n => by
    rw [true_and, decide_eq_true_eq]

/-- Integers of a closed interval. -/
theorem intBetween_returns (low high : Int) :
    Returns (intBetween low high) .int fun n => low ≤ n ∧ n ≤ high :=
  ((int_returns.guarded _ .lessThanEqual).guarded _ .greaterThanEqual).of_iff fun n => by
    rw [true_and, decide_eq_true_eq, decide_eq_true_eq, and_comm]

/-- Does a double lie between 0 and 1? -/
def IsPart (x : Float) : Prop :=
  (Number.real x).atMost (.int 1) = true ∧ (Number.int 0).atMost (.real x) = true

/-- Doubles from 0 to 1. -/
theorem unitFloat_returns : Returns unitFloat .real IsPart :=
  ((float_returns.guarded _ .lessThanEqual).guarded _ .greaterThanEqual).of_iff fun x => by
    rw [true_and, IsPart]

/-- Texts of a bounded length. -/
theorem textOfLength_returns (least most : Nat) :
    Returns (textOfLength least most) .text fun s => least ≤ s.length ∧ s.length ≤ most where
  valid {d s} hread := by
    obtain ⟨read, _, hlength⟩ := Checked.andThen_eq_accepted_iff.mp hread
    split at hlength
    · cases hlength
    · split at hlength
      · cases hlength
      · obtain rfl := Checked.accepted.inj hlength
        omega
  again {s} hs := by
    show (if most < s.length then _ else _) = _
    rw [if_neg (Nat.not_lt.mpr hs.2), if_neg (Nat.not_lt.mpr hs.1)]

/-! ### Choices -/

/-- The values of a choice, whose names differ. -/
theorem oneOf_returns {α : Type} (kind : IssueKind) (name : α → String) {values : List α}
    (hnames : ∀ v ∈ values, ∀ w ∈ values, name v = name w → v = w) :
    Returns (oneOf kind name values) (fun v => .text (name v)) (· ∈ values) where
  valid {d v} hread := by
    cases d with
    | text s =>
      simp only [oneOf] at hread
      split at hread
      · rename_i found hfound
        obtain rfl := Checked.accepted.inj hread
        exact List.mem_of_find?_eq_some hfound
      · cases hread
    | _ => cases hread
  again {v} hv := by
    simp only [oneOf]
    split
    · rename_i found hfound
      have hname := List.find?_some hfound
      rw [hnames found (List.mem_of_find?_eq_some hfound) v hv (beq_iff_eq.mp hname)]
    · rename_i hnone
      have hself := List.find?_eq_none.mp hnone v hv
      exact absurd (beq_self_eq_true (name v)) hself

/-! ### Timestamps -/

/-- Is a way to write timestamps one that is read back? -/
def Stamps (stamp : Moment → Given) : Prop :=
  ∀ t : Moment, t.InCalendar → timestamp (stamp t) = .accepted t.toTimestamp

/-- A text from which a timestamp is read is one. -/
theorem timestamp_text {s : String} {t : Timestamp} (h : Timestamp.read? s.toList = some t) :
    timestamp (.text s) = .accepted t := by
  simp only [timestamp, h]

/-- The written form of timestamps is read back. -/
theorem asText_stamps : Stamps Moment.asText := fun t ht =>
  timestamp_text (by
    rw [Timestamp.text, String.toList_ofList]
    exact Timestamp.read?_charsWith Timestamp.briefFraction_readsBack ht)

/-- Timestamps that are read are those of the calendar. -/
theorem inCalendar_of_timestamp {d : Given} {t : Timestamp} (h : timestamp d = .accepted t) :
    t.assumeUniversal.InCalendar := by
  unfold timestamp at h
  -- A text is a timestamp or else a number, and numbers count from 1970.
  split at h
  · split at h
    · rename_i hshown
      exact Checked.accepted.inj h ▸ hshown.inCalendar
    · cases h
  · split at h
    · rename_i hread
      exact Checked.accepted.inj h ▸ Timestamp.inCalendar_of_read? hread
    · split at h
      · split at h
        · rename_i hunix
          exact Checked.accepted.inj h ▸ Timestamp.inCalendar_of_ofUnix? hunix
        · cases h
      · cases h
  · split at h
    · rename_i hunix
      exact Checked.accepted.inj h ▸ Timestamp.inCalendar_of_ofUnix? hunix
    · cases h
  · split at h
    · rename_i hunix
      exact Checked.accepted.inj h ▸ Timestamp.inCalendar_of_ofUnix? hunix
    · cases h
  · cases h

/-- Moments, which are timestamps in universal time where no offset is given. -/
theorem moment_returns {stamp : Moment → Given} (hstamp : Stamps stamp) :
    Returns moment stamp (·.InCalendar) where
  valid hread := by
    obtain ⟨t, ht, rfl⟩ := Checked.map_eq_accepted_iff.mp hread
    exact inCalendar_of_timestamp ht
  again {t} ht := by
    rw [moment, hstamp t ht, Checked.map_accepted, t.assumeUniversal_toTimestamp]

end StreamWatch.Validation
