import Mathlib.Data.String.Basic
import StreamWatch.Datum.Order
import StreamWatch.Proofs.Number.Extended
import StreamWatch.Proofs.Table

namespace StreamWatch

/-!
# The order of plain data is transitive

Numbers are ordered, and texts and lists are; no other data have an order, nor do two data of
different kinds.  A list goes by the first items that are not alike, so that items without an order
may stand in front of these.

* `Datum.alike_trans` — what is alike the same is alike;
* `Datum.order?` — how two data are ordered, if they are;
* `Datum.order?_eq_iff`, `Datum.order?_of_alike` — two data that have an order are alike exactly if
  it is that of equals;
* `Datum.order?_trans` — the order is transitive, whatever the data are;
* `Datum.stands_iff` — the relations hold by that order, and `Datum.stands_less_of_atMost`,
  `Datum.stands_less_of_less`, by which they form chains.
-/

namespace Datum

/-! ### What is alike -/

/-- Data that are alike are of one kind, or they are numbers of one value. -/
theorem alike_cases {a b : Datum} (h : a.alike b = true) :
    (a = .null ∧ b = .null) ∨ (∃ s, a = .text s ∧ b = .text s) ∨
      (∃ as bs, a = .list as ∧ b = .list bs ∧ alikeItems as bs = true) ∨
      (∃ as bs, a = .record as ∧ b = .record bs ∧ as.length = bs.length ∧
        alikeEntries as bs = true) ∨
      ∃ x y, a.count? = some x ∧ b.count? = some y ∧ x.equals y = true := by
  cases a <;> cases b <;> simp_all [alike, count?]

/-- Numbers are alike if their values are equal. -/
theorem alike_of_count? {a b : Datum} {x y : Number} (ha : a.count? = some x)
    (hb : b.count? = some y) : a.alike b = x.equals y := by
  cases a <;> cases b <;> simp_all [alike, count?]

/-- The entries of a record are alike those of another one if each of them is found there. -/
theorem alikeEntries_iff {as bs : Entries} :
    alikeEntries as bs = true ↔
      ∀ entry ∈ as, ∃ b, Table.get? entry.1 bs = some b ∧ entry.2.alike b = true := by
  induction as with
  | nil => simp [alikeEntries]
  | cons entry rest ih =>
    obtain ⟨key, a⟩ := entry
    rw [alikeEntries, Bool.and_eq_true, ih, List.forall_mem_cons]
    cases Table.get? key bs <;> simp

mutual

/-- What is alike the same is alike. -/
theorem alike_trans {a b c : Datum} (hab : a.alike b = true) (hbc : b.alike c = true) :
    a.alike c = true := by
  rcases alike_cases hab with ⟨rfl, rfl⟩ | ⟨s, rfl, rfl⟩ | ⟨as, bs, rfl, rfl, hitems⟩ |
    ⟨as, bs, rfl, rfl, hlength, hentries⟩ | ⟨x, y, ha, hb, hvalue⟩
  · exact hbc
  · exact hbc
  · cases c with
    | list cs => exact alikeItems_trans hitems hbc
    | _ => cases hbc
  · cases c with
    | record cs =>
      rw [alike, Bool.and_eq_true, beq_iff_eq] at hbc ⊢
      exact ⟨hlength.trans hbc.1, alikeEntries_trans hentries hbc.2⟩
    | _ => cases hbc
  · rcases alike_cases hbc with ⟨rfl, _⟩ | ⟨s, rfl, _⟩ | ⟨_, _, rfl, _⟩ | ⟨_, _, rfl, _⟩ |
      ⟨y', z, hb', hc, hvalue'⟩
    · cases hb
    · cases hb
    · cases hb
    · cases hb
    · obtain rfl := Option.some.inj (hb.symm.trans hb')
      rw [alike_of_count? ha hc]
      exact Number.equals_trans hvalue hvalue'

/-- Lists that are alike the same list are alike. -/
theorem alikeItems_trans {as bs cs : List Datum} (hab : alikeItems as bs = true)
    (hbc : alikeItems bs cs = true) : alikeItems as cs = true := by
  match as, bs, cs with
  | [], [], [] => rfl
  | a :: as, b :: bs, c :: cs =>
    rw [alikeItems, Bool.and_eq_true] at hab hbc ⊢
    exact ⟨alike_trans hab.1 hbc.1, alikeItems_trans hab.2 hbc.2⟩

/-- Entries that are found, alike, in a record whose entries are found in another one are found
    there. -/
theorem alikeEntries_trans {as bs cs : Entries} (hab : alikeEntries as bs = true)
    (hbc : alikeEntries bs cs = true) : alikeEntries as cs = true := by
  match as with
  | [] => rfl
  | (key, a) :: rest =>
    rw [alikeEntries, Bool.and_eq_true] at hab ⊢
    refine ⟨?_, alikeEntries_trans hab.2 hbc⟩
    cases hb : Table.get? key bs with
    | none =>
      rw [hb] at hab
      cases hab.1
    | some b =>
      rw [hb] at hab
      obtain ⟨c, hc, halike⟩ := alikeEntries_iff.mp hbc _ (Table.mem_of_get? hb)
      rw [hc]
      exact alike_trans hab.1 halike

end

/-! ### How data are ordered -/

mutual

/-- How two data are ordered, if they have an order. -/
def order? : Datum → Datum → Option Ordering
  | .text s, .text t => some (compare s t)
  | .list as, .list bs => itemsOrder? as bs
  | a, b =>
    match a.count?, b.count? with
    | some x, some y => x.order? y
    | _, _ => none

/-- How two lists are ordered, if they have an order. -/
def itemsOrder? : List Datum → List Datum → Option Ordering
  | a :: as, b :: bs => if a.alike b then itemsOrder? as bs else order? a b
  | as, bs => some (compare as.length bs.length)

end

/-- Numbers are ordered by their values. -/
theorem order?_of_count? {a b : Datum} {x y : Number} (ha : a.count? = some x)
    (hb : b.count? = some y) : a.order? b = x.order? y := by
  cases a <;> cases b <;> simp_all [order?, count?]

/-- Data that have an order are texts, lists or numbers, and of one kind. -/
theorem order?_cases {a b : Datum} {o : Ordering} (h : a.order? b = some o) :
    (∃ s t, a = .text s ∧ b = .text t ∧ compare s t = o) ∨
      (∃ as bs, a = .list as ∧ b = .list bs ∧ itemsOrder? as bs = some o) ∨
      ∃ x y, a.count? = some x ∧ b.count? = some y ∧ x.order? y = some o := by
  cases a <;> cases b <;> simp_all [order?, count?]

mutual

/-- Data that have an order are alike exactly if it is that of equals. -/
theorem order?_eq_iff {a b : Datum} {o : Ordering} (h : a.order? b = some o) :
    o = .eq ↔ a.alike b = true := by
  rcases order?_cases h with ⟨s, t, rfl, rfl, rfl⟩ | ⟨as, bs, rfl, rfl, hitems⟩ |
    ⟨x, y, ha, hb, hvalue⟩
  · rw [alike, beq_iff_eq, compare_eq_iff_eq]
  · exact itemsOrder?_eq_iff hitems
  · rw [alike_of_count? ha hb, Number.equals, hvalue, beq_iff_eq, Option.some.injEq]

/-- Lists that have an order are alike exactly if it is that of equals. -/
theorem itemsOrder?_eq_iff {as bs : List Datum} {o : Ordering} (h : itemsOrder? as bs = some o) :
    o = .eq ↔ alikeItems as bs = true := by
  match as, bs with
  | [], [] => simpa [itemsOrder?, alikeItems] using h.symm
  | [], b :: bs =>
    obtain rfl := Option.some.inj h
    exact iff_of_false (by simp) Bool.false_ne_true
  | a :: as, [] =>
    obtain rfl := Option.some.inj h
    exact iff_of_false (by simp) Bool.false_ne_true
  | a :: as, b :: bs =>
    rw [itemsOrder?] at h
    rw [alikeItems, Bool.and_eq_true]
    split at h
    · rename_i halike
      rw [itemsOrder?_eq_iff h]
      exact ⟨fun hrest => ⟨halike, hrest⟩, And.right⟩
    · rename_i halike
      rw [order?_eq_iff h]
      exact ⟨fun hfirst => absurd hfirst halike, And.left⟩

end

/-- Texts, lists and numbers are the data that may have an order. -/
def isOrdered : Datum → Bool
  | .null | .record _ => false
  | _ => true

/-- Data that have an order are of the kinds that may have one. -/
theorem isOrdered_of_order? {a b : Datum} {o : Ordering} (h : a.order? b = some o) :
    a.isOrdered = true ∧ b.isOrdered = true := by
  cases a <;> cases b <;> simp_all [order?, count?, isOrdered]

/-- Lists that are alike are ordered as equals. -/
theorem itemsOrder?_of_alike {as bs : List Datum} (h : alikeItems as bs = true) :
    itemsOrder? as bs = some .eq := by
  induction as generalizing bs with
  | nil =>
    cases bs with
    | nil => rfl
    | cons b bs => cases h
  | cons a as ih =>
    cases bs with
    | nil => cases h
    | cons b bs =>
      rw [alikeItems, Bool.and_eq_true] at h
      rw [itemsOrder?, if_pos h.1, ih h.2]

/-- Data that are alike are ordered as equals, unless they are of a kind that has no order. -/
theorem order?_of_alike {a b : Datum} (h : a.alike b = true)
    (hordered : a.isOrdered = true ∨ b.isOrdered = true) : a.order? b = some .eq := by
  rcases alike_cases h with ⟨rfl, rfl⟩ | ⟨s, rfl, rfl⟩ | ⟨as, bs, rfl, rfl, hitems⟩ |
    ⟨as, bs, rfl, rfl, _⟩ | ⟨x, y, ha, hb, hvalue⟩
  · simp [isOrdered] at hordered
  · rw [order?, Option.some.injEq, compare_eq_iff_eq]
  · exact itemsOrder?_of_alike hitems
  · simp [isOrdered] at hordered
  · rw [order?_of_count? ha hb]
    exact beq_iff_eq.mp hvalue

/-! ### The order is transitive -/

/-- Where a comparison is transitive, what is at most the second, and that at most the third, is
    ordered to the third by the first step that is not between equals. -/
theorem then_of_isLE {α : Type} {cmp : α → α → Ordering} [Std.TransCmp cmp] {a b c : α}
    (hab : (cmp a b).isLE = true) (hbc : (cmp b c).isLE = true) :
    cmp a c = (cmp a b).then (cmp b c) := by
  cases hfirst : cmp a b with
  | gt => rw [hfirst] at hab; cases hab
  | lt => exact Std.TransCmp.lt_of_lt_of_isLE hfirst hbc
  | eq => exact Std.TransCmp.congr_left hfirst

/-- The order of numbers is transitive. -/
theorem numberOrder?_trans {x y z : Number} {o o' : Ordering} (ho : o.isLE = true)
    (ho' : o'.isLE = true) (hxy : x.order? y = some o) (hyz : y.order? z = some o') :
    x.order? z = some (o.then o') := by
  rw [Number.order?_eq, Option.map₂_eq_some_iff] at hxy hyz ⊢
  obtain ⟨p, q, hp, hq, rfl⟩ := hxy
  obtain ⟨q', r, hq', hr, rfl⟩ := hyz
  obtain rfl := Option.some.inj (hq.symm.trans hq')
  exact ⟨p, r, hp, hr, then_of_isLE ho ho'⟩

/-- A list is below another one if its first item is. -/
theorem itemsOrder?_of_lt {a b : Datum} (h : a.order? b = some .lt) (as bs : List Datum) :
    itemsOrder? (a :: as) (b :: bs) = some .lt := by
  have hnot : ¬ a.alike b = true := fun halike => by
    cases (order?_eq_iff h).mpr halike
  rw [itemsOrder?, if_neg hnot, h]

/-- What is at most another datum and not alike it is below it. -/
theorem lt_of_not_alike {a b : Datum} {o : Ordering} (ho : o.isLE = true)
    (h : a.order? b = some o) (hnot : ¬ a.alike b = true) : o = .lt := by
  have heq := order?_eq_iff h
  cases o with
  | lt => rfl
  | eq => exact absurd (heq.mp rfl) hnot
  | gt => cases ho

mutual

/-- **The order of data is transitive.**  If a datum is at most another one, and that one at most a
    third one, then the first is at most the third, and below it if either step is one to a greater
    datum. -/
theorem order?_trans {a b c : Datum} {o o' : Ordering} (ho : o.isLE = true) (ho' : o'.isLE = true)
    (hab : a.order? b = some o) (hbc : b.order? c = some o') : a.order? c = some (o.then o') := by
  rcases order?_cases hab with ⟨s, t, rfl, rfl, rfl⟩ | ⟨as, bs, rfl, rfl, hitems⟩ |
    ⟨x, y, ha, hb, hvalue⟩
  · cases c with
    | text u =>
      obtain rfl := Option.some.inj hbc
      exact congrArg some (then_of_isLE ho ho')
    | _ => cases hbc
  · cases c with
    | list cs => exact itemsOrder?_trans ho ho' hitems hbc
    | _ => cases hbc
  · rcases order?_cases hbc with ⟨s, _, rfl, _⟩ | ⟨_, _, rfl, _⟩ | ⟨y', z, hb', hc, hvalue'⟩
    · cases hb
    · cases hb
    · obtain rfl := Option.some.inj (hb.symm.trans hb')
      rw [order?_of_count? ha hc]
      exact numberOrder?_trans ho ho' hvalue hvalue'

/-- The order of lists is transitive. -/
theorem itemsOrder?_trans {as bs cs : List Datum} {o o' : Ordering} (ho : o.isLE = true)
    (ho' : o'.isLE = true) (hab : itemsOrder? as bs = some o) (hbc : itemsOrder? bs cs = some o') :
    itemsOrder? as cs = some (o.then o') := by
  match as, bs, cs with
  | [], [], cs =>
    obtain rfl := Option.some.inj hab
    exact hbc
  | [], b :: bs, [] =>
    obtain rfl := Option.some.inj hbc
    cases ho'
  | [], b :: bs, c :: cs =>
    obtain rfl := Option.some.inj hab
    rfl
  | a :: as, [], cs =>
    obtain rfl := Option.some.inj hab
    cases ho
  | a :: as, b :: bs, [] =>
    obtain rfl := Option.some.inj hbc
    cases ho'
  | a :: as, b :: bs, c :: cs =>
    rw [itemsOrder?] at hab hbc
    by_cases hfirst : a.alike b = true <;> by_cases hsecond : b.alike c = true
    · -- All three begin alike, so that their rests decide.
      rw [if_pos hfirst] at hab
      rw [if_pos hsecond] at hbc
      rw [itemsOrder?, if_pos (alike_trans hfirst hsecond)]
      exact itemsOrder?_trans ho ho' hab hbc
    · rw [if_neg hsecond] at hbc
      have hequal := order?_of_alike hfirst (.inr (isOrdered_of_order? hbc).1)
      obtain rfl := lt_of_not_alike ho' hbc hsecond
      rw [itemsOrder?_of_lt (order?_trans rfl rfl hequal hbc)]
      cases o with
      | gt => cases ho
      | _ => rfl
    · rw [if_neg hfirst] at hab
      have hequal := order?_of_alike hsecond (.inl (isOrdered_of_order? hab).2)
      obtain rfl := lt_of_not_alike ho hab hfirst
      exact itemsOrder?_of_lt (order?_trans rfl rfl hab hequal) as cs
    · rw [if_neg hfirst] at hab
      rw [if_neg hsecond] at hbc
      obtain rfl := lt_of_not_alike ho hab hfirst
      exact itemsOrder?_of_lt (order?_trans rfl ho' hab hbc) as cs

end

/-! ### The relations of the order -/

end Datum

/-- Does a relation hold exactly for some of the ways in which two data may be ordered? -/
structure OrderRelation.GoesBy (relation : OrderRelation) (takes : Ordering → Bool) : Prop where
  numbers : ∀ x y, relation.numbers x y = (x.order? y).any takes
  texts : ∀ s t, relation.texts s t = takes (compare s t)
  lengths : ∀ m n, relation.lengths m n = takes (compare m n)

namespace OrderRelation

/-- What is less is ordered so. -/
theorem less_goesBy : less.GoesBy (· == .lt) where
  numbers x y := by
    show (x.order? y == some .lt) = _
    cases x.order? y <;> rfl
  texts s t := by
    show decide (s < t) = _
    rw [Bool.eq_iff_iff, decide_eq_true_eq, beq_iff_eq, compare_lt_iff_lt]
  lengths m n := by
    show decide (m < n) = _
    rw [Bool.eq_iff_iff, decide_eq_true_eq, beq_iff_eq, Nat.compare_eq_lt]

/-- What is at most another one is less or equal. -/
theorem atMost_goesBy : atMost.GoesBy Ordering.isLE where
  numbers x y := by
    show (x.order? y == some .lt || x.order? y == some .eq) = _
    cases x.order? y with
    | none => rfl
    | some o => cases o <;> rfl
  texts s t := by
    show (!decide (t < s)) = _
    rw [Bool.eq_iff_iff, Bool.not_eq_true', decide_eq_false_iff_not, not_lt, ← compare_le_iff_le,
      Ordering.isLE_iff_ne_gt]
  lengths m n := by
    show decide (m ≤ n) = _
    rw [Bool.eq_iff_iff, decide_eq_true_eq, Nat.isLE_compare]

end OrderRelation

namespace Datum

mutual

/-- A relation holds between data that are ordered in one of its ways, and between no others. -/
theorem stands_iff {relation : OrderRelation} {takes : Ordering → Bool}
    (h : relation.GoesBy takes) (a b : Datum) :
    a.stands relation b = .ok true ↔ (a.order? b).any takes = true := by
  cases a <;> cases b
  case list.list as bs => exact itemsStand_iff h as bs
  all_goals simp [stands, order?, count?, h.numbers, h.texts]

/-- A relation holds between lists that are ordered in one of its ways, and between no others. -/
theorem itemsStand_iff {relation : OrderRelation} {takes : Ordering → Bool}
    (h : relation.GoesBy takes) (as bs : List Datum) :
    itemsStand relation as bs = .ok true ↔ (itemsOrder? as bs).any takes = true := by
  match as, bs with
  | [], _ => simp [itemsStand, itemsOrder?, h.lengths]
  | _ :: _, [] => simp [itemsStand, itemsOrder?, h.lengths]
  | a :: as, b :: bs =>
    rw [itemsStand, itemsOrder?]
    split
    · exact itemsStand_iff h as bs
    · exact stands_iff h a b

end

/-- A datum is less than another one if it is ordered so. -/
theorem stands_less_iff (a b : Datum) :
    a.stands .less b = .ok true ↔ a.order? b = some .lt := by
  rw [stands_iff OrderRelation.less_goesBy, Option.any_eq_true]
  simp only [beq_iff_eq, exists_eq_right]

/-- A datum is at most another one if it is less or equal. -/
theorem stands_atMost_iff (a b : Datum) :
    a.stands .atMost b = .ok true ↔ ∃ o, a.order? b = some o ∧ o.isLE = true := by
  rw [stands_iff OrderRelation.atMost_goesBy, Option.any_eq_true]

/-- What is at most a lesser datum is less. -/
theorem stands_less_of_atMost {a b c : Datum} (hab : a.stands .atMost b = .ok true)
    (hbc : b.stands .less c = .ok true) : a.stands .less c = .ok true := by
  rw [stands_atMost_iff] at hab
  rw [stands_less_iff] at hbc ⊢
  obtain ⟨o, hab, ho⟩ := hab
  rw [order?_trans ho rfl hab hbc]
  cases o with
  | gt => cases ho
  | _ => rfl

/-- What is less than another datum is less than all that it is at most. -/
theorem stands_less_of_less {a b c : Datum} (hab : a.stands .less b = .ok true)
    (hbc : b.stands .atMost c = .ok true) : a.stands .less c = .ok true := by
  rw [stands_less_iff] at hab ⊢
  rw [stands_atMost_iff] at hbc
  obtain ⟨o, hbc, ho⟩ := hbc
  rw [order?_trans rfl ho hab hbc]
  rfl

end Datum

end StreamWatch
