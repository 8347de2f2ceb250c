import StreamWatch.Comparison
import StreamWatch.Proofs.Validation.Rule

namespace StreamWatch

open Validation

/-!
# What is kept of an expected value

A condition is compared with the value that was kept of it, and not with the one that was given.

* `Datum.asExpected` — what is kept of a datum: the items of a list are numbers and texts, so that
  the truth values among them become 1 and 0;
* `ExpectedValue.toDatum_of_accepted` — everything else is kept as it is;
* `ExpectedValue.keepsMeaning_iff` — so that a value means what it meant before, for every operator
  and every single value that it is compared with, exactly if it is no list with a truth value in
  it.
-/

namespace Datum

/-- What is kept of an item of a list: a truth value counts as 1 or 0. -/
def asItem : Datum → Datum
  | .bool b => .int (if b then 1 else 0)
  | d => d

/-- What is kept of an expected value. -/
def asExpected : Datum → Datum
  | .list items => .list (items.map asItem)
  | d => d

/-- Is a datum a list with a truth value among its items? -/
def ListsTruth (d : Datum) : Prop := ∃ items, d = .list items ∧ ∃ b, .bool b ∈ items

/-- Is a datum a single value, neither a list nor a record? -/
def isSingle : Datum → Bool
  | .list _ | .record _ => false
  | _ => true

/-- An item that is no truth value is kept as it is. -/
theorem asItem_of_ne {d : Datum} (h : ∀ b, d ≠ .bool b) : d.asItem = d := by
  cases d with
  | bool b => exact absurd rfl (h b)
  | _ => rfl

/-- A value that is no list with a truth value in it is kept as it is. -/
theorem asExpected_of_not_listsTruth {d : Datum} (h : ¬ d.ListsTruth) : d.asExpected = d := by
  cases d with
  | list items =>
    have hsame : ∀ item ∈ items, item.asItem = id item := by
      intro item hitem
      apply asItem_of_ne
      rintro b rfl
      exact h ⟨items, rfl, b, hitem⟩
    show Datum.list (items.map asItem) = .list items
    rw [List.map_congr_left hsame, List.map_id]
  | _ => rfl

/-- No truth value is equal to an item that was kept. -/
theorem strictlyEqual_bool_asItem (b : Bool) (d : Datum) :
    strictlyEqual (.bool b) d.asItem = false := by
  cases d <;> rfl

end Datum

/-! ### Reading -/

/-- What is kept of an item that was accepted. -/
theorem ExpectedItem.toDatum_of_accepted {d : Datum} {item : ExpectedItem}
    (hread : ofGiven d.given = .accepted item) : item.toDatum = d.asItem := by
  cases d <;> cases hread <;> rfl

/-- What is kept of items that were accepted. -/
theorem ExpectedItem.map_toDatum_of_accepted {position : Nat} {ds : List Datum}
    {items : List ExpectedItem}
    (hread : itemsFrom ofGiven position (ds.map Datum.given) = .accepted items) :
    items.map toDatum = ds.map Datum.asItem := by
  induction ds generalizing position items with
  | nil =>
    obtain rfl := Checked.accepted.inj hread
    rfl
  | cons d rest ih =>
    obtain ⟨_, hfirst, others, hrest, rfl⟩ := Checked.seq_eq_accepted_iff.mp hread
    obtain ⟨item, hitem, rfl⟩ := Checked.map_eq_accepted_iff.mp hfirst
    rw [List.map_cons, List.map_cons, ih hrest,
      toDatum_of_accepted (Checked.under_eq_accepted_iff.mp hitem)]

namespace ExpectedValue

/-- What is kept of a value that was accepted. -/
theorem toDatum_of_accepted {d : Datum} {v : ExpectedValue}
    (hread : ofGiven d.given = .accepted v) :
    v.toDatum = d.asExpected := by
  cases d with
  | list items =>
    simp only [Datum.given_list, ofGiven] at hread
    split at hread
    · rename_i kept hkept
      obtain rfl := Checked.accepted.inj hread
      show Datum.list (kept.map ExpectedItem.toDatum) = .list (items.map Datum.asItem)
      rw [ExpectedItem.map_toDatum_of_accepted (Checked.under_eq_accepted_iff.mp hkept)]
    · cases hread
  | null => cases hread
  | record entries => cases hread
  | _ => cases hread; rfl

/-- **What is kept of an expected value.**  Of a value that was accepted everything is kept but the
    truth values in a list, which count as 1 and 0.  Hence it is compared as before with all single
    values, by all operators, exactly if there are none of these. -/
theorem keepsMeaning_iff {d : Datum} {v : ExpectedValue} (hread : ofGiven d.given = .accepted v) :
    v.toDatum = d.asExpected ∧
      ((∀ actual operator, actual.isSingle = true →
        satisfies actual operator v.toDatum = satisfies actual operator d) ↔ ¬ d.ListsTruth) := by
  have hkept := toDatum_of_accepted hread
  rw [hkept]
  refine ⟨rfl, fun hsame => ?_, fun hnone actual operator _ => ?_⟩
  · -- A truth value was in the list that holds it, and is not in the one that was kept.
    rintro ⟨items, rfl, b, hb⟩
    have hbefore : satisfies (.bool b) "in" (.list items) = true :=
      List.any_eq_true.mpr ⟨.bool b, hb, beq_self_eq_true b⟩
    have hafter : satisfies (.bool b) "in" (.list (items.map Datum.asItem)) = false := by
      apply List.any_eq_false.mpr
      intro item hitem
      obtain ⟨d, _, rfl⟩ := List.mem_map.mp hitem
      rw [Datum.strictlyEqual_bool_asItem]
      exact Bool.false_ne_true
    have hboth := hsame (.bool b) "in" rfl
    rw [hbefore] at hboth
    cases hafter.symm.trans hboth
  · rw [Datum.asExpected_of_not_listsTruth hnone]

/-- A list of a text, an integer and a double keeps its meaning. -/
theorem keepsMeaning_mixedList :
    ofGiven (Datum.list [.text "KP", .int 1, .real 0.5]).given =
        .accepted (.list [.text "KP", .int 1, .real 0.5]) ∧
      ∀ actual operator, actual.isSingle = true →
        satisfies actual operator (ExpectedValue.list [.text "KP", .int 1, .real 0.5]).toDatum =
          satisfies actual operator (.list [.text "KP", .int 1, .real 0.5]) := by
  have hread : ofGiven (Datum.list [.text "KP", .int 1, .real 0.5]).given =
      .accepted (.list [.text "KP", .int 1, .real 0.5]) := rfl
  refine ⟨hread, (keepsMeaning_iff hread).2.mpr ?_⟩
  rintro ⟨items, hitems, b, hb⟩
  cases hitems
  simp at hb

/-- Yes is in a list of yes, but no longer once the list was accepted: it keeps the number 1. -/
theorem not_keepsMeaning_listOfTruth :
    ¬ ∀ (d : Datum) v, ofGiven d.given = .accepted v → ∀ actual operator, actual.isSingle = true →
      satisfies actual operator v.toDatum = satisfies actual operator d := by
  intro hsame
  have hboth := hsame (.list [.bool true]) (.list [.int 1]) rfl (.bool true) "in" rfl
  have hbefore : satisfies (.bool true) "in" (.list [.bool true]) = true := by decide
  have hafter : satisfies (.bool true) "in" (ExpectedValue.list [.int 1]).toDatum = false := by
    decide
  cases hafter.symm.trans (hboth.trans hbefore)

end ExpectedValue

end StreamWatch
