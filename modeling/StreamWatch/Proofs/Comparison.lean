import StreamWatch.Comparison
import StreamWatch.Proofs.Number.Extended

namespace StreamWatch

/-!
# The laws of comparisons

Data of any kind may be compared with each other, and each operator decides by itself what comes of
kinds that it does not take.  That the operators fit together rests on two views of a datum:

* `Datum.comparand?` — what strict equality sees of a datum: two data are strictly equal exactly if
  the same is seen of both (`strictlyEqual_iff`), so that equality is symmetric and transitive;
* `Datum.toExtended?` — the extended rational that a datum stands for: the four relations of order
  are those of the extended rationals (`ordered_iff`), and do not hold where there is none;
* `ComparisonLaws` — what the operators have to do with each other;
* `satisfies_lawful` — comparisons by the names of the operators keep these laws.
-/

/-! ### What is seen of a datum -/

/-- What strict equality sees of a datum. -/
inductive Comparand where
  | nothing
  | truth (value : Bool)
  | text (value : String)
  | number (value : ExtendedRational)

namespace Datum

/-- Is a datum a record? -/
def isRecord : Datum → Bool
  | .record _ => true
  | _ => false

/-- The extended rational that a datum stands for, if it is a number. -/
def toExtended? (d : Datum) : Option ExtendedRational := d.number?.bind Number.toExtended?

/-- What strict equality sees of a datum. Of a list it sees nothing, and of a double that is not a
    number: these are equal to nothing. -/
def comparand? : Datum → Option Comparand
  | .null => some .nothing
  | .bool b => some (.truth b)
  | .text s => some (.text s)
  | .int n => (Number.int n).toExtended?.map .number
  | .real x => (Number.real x).toExtended?.map .number
  | .list _ | .record _ => none

/-- A datum stands for nothing exactly if it is no number, or one that is not a number. -/
theorem toExtended?_eq_none_iff {d : Datum} :
    d.toExtended? = none ↔ ∀ x ∈ d.number?, x.exact = .nan := by
  rw [toExtended?, Option.bind_eq_none_iff]
  simp only [Option.mem_def, Number.toExtended?_eq_none_iff]

/-- Of a number its extended rational is seen. -/
theorem comparand?_of_toExtended? {d : Datum} {p : ExtendedRational} (h : d.toExtended? = some p) :
    d.comparand? = some (.number p) := by
  cases d with
  | int n =>
    show (Number.int n).toExtended?.map _ = _
    rw [show (Number.int n).toExtended? = some p from h, Option.map_some]
  | real x =>
    show (Number.real x).toExtended?.map _ = _
    rw [show (Number.real x).toExtended? = some p from h, Option.map_some]
  | _ => cases h

/-- Of a record nothing is seen. -/
theorem isRecord_of_comparand? {d : Datum} {x : Comparand} (h : d.comparand? = some x) :
    d.isRecord = false := by
  cases d with
  | record entries => cases h
  | _ => rfl

end Datum

/-- Unless both are records, two data are strictly equal exactly if the same is seen of them. -/
theorem strictlyEqual_iff {a e : Datum} (h : a.isRecord = false ∨ e.isRecord = false) :
    strictlyEqual a e = true ↔ ∃ x, a.comparand? = some x ∧ e.comparand? = some x := by
  cases a <;> cases e <;>
    simp [strictlyEqual, Datum.comparand?, Datum.number?, Number.equals_iff, Datum.isRecord] at h ⊢
  case bool.bool b b' => exact eq_comm
  case text.text s s' => exact eq_comm

/-- A relation of numbers that is one of extended rationals is the same of data, and does not hold
    where a datum stands for nothing. -/
theorem ordered_iff {relation : Number → Number → Bool}
    {related : ExtendedRational → ExtendedRational → Prop}
    (h : ∀ x y, relation x y = true ↔
      ∃ p q, x.toExtended? = some p ∧ y.toExtended? = some q ∧ related p q) {a e : Datum} :
    ordered relation a e = true ↔
      ∃ p q, a.toExtended? = some p ∧ e.toExtended? = some q ∧ related p q := by
  unfold ordered Datum.toExtended?
  cases a.number? with
  | none => simp
  | some x =>
    cases e.number? with
    | none => simp
    | some y => exact h x y

/-! ### The operators -/

/-- Every operator is found by its name. -/
@[simp] theorem Operator.ofName?_name (op : Operator) : Operator.ofName? op.name = some op := by
  cases op <;> rfl

/-- What is compared by the name of an operator is compared by the operator. -/
theorem satisfies_name (a : Datum) (op : Operator) (e : Datum) :
    satisfies a op.name e = op.holds a e := by
  rw [satisfies, Operator.ofName?_name]

namespace Operator

/-- The relation of extended rationals that an operator of order asks for. -/
def ordering? : Operator → Option (ExtendedRational → ExtendedRational → Prop)
  | .lt => some fun p q => p < q
  | .lte => some fun p q => p ≤ q
  | .gt => some fun p q => p > q
  | .gte => some fun p q => p ≥ q
  | _ => none

/-- An operator of order holds exactly between numbers that stand in its relation. -/
theorem holds_iff_ordering {op : Operator} {related : ExtendedRational → ExtendedRational → Prop}
    (hop : op.ordering? = some related) {a e : Datum} :
    op.holds a e = true ↔
      ∃ p q, a.toExtended? = some p ∧ e.toExtended? = some q ∧ related p q := by
  -- The two relations that look from right to left find the same numbers in the other order.
  have hswap {x y : Number} {r : ExtendedRational → ExtendedRational → Prop} :
      (∃ q p, y.toExtended? = some q ∧ x.toExtended? = some p ∧ r q p) ↔
        ∃ p q, x.toExtended? = some p ∧ y.toExtended? = some q ∧ r q p :=
    ⟨fun ⟨q, p, hy, hx, hr⟩ => ⟨p, q, hx, hy, hr⟩, fun ⟨p, q, hx, hy, hr⟩ => ⟨q, p, hy, hx, hr⟩⟩
  cases op <;> cases hop
  case lt => exact ordered_iff fun x y => Number.lessThan_iff
  case lte => exact ordered_iff fun x y => Number.atMost_iff
  case gt => exact ordered_iff fun x y => Number.lessThan_iff.trans hswap
  case gte => exact ordered_iff fun x y => Number.atMost_iff.trans hswap

section Numbers

variable {a e : Datum} {p q : ExtendedRational}

/-- Between numbers an operator of order holds exactly if its relation does. -/
theorem holds_iff_of_numbers {op : Operator} {related : ExtendedRational → ExtendedRational → Prop}
    (hop : op.ordering? = some related) (ha : a.toExtended? = some p)
    (he : e.toExtended? = some q) : op.holds a e = true ↔ related p q := by
  rw [holds_iff_ordering hop, ha, he]
  constructor
  · rintro ⟨p', q', hp, hq, hrelated⟩
    cases hp
    cases hq
    exact hrelated
  · intro hrelated
    exact ⟨p, q, rfl, rfl, hrelated⟩

/-- Numbers are equal exactly if they stand for the same. -/
theorem holds_eq_iff_of_numbers (ha : a.toExtended? = some p) (he : e.toExtended? = some q) :
    eq.holds a e = true ↔ p = q := by
  have hseen := Datum.comparand?_of_toExtended? ha
  show strictlyEqual a e = true ↔ p = q
  rw [strictlyEqual_iff (.inl (Datum.isRecord_of_comparand? hseen)), hseen,
    Datum.comparand?_of_toExtended? he]
  constructor
  · rintro ⟨x, hp, hq⟩
    cases hp
    cases hq
    rfl
  · intro hpq
    exact ⟨.number p, rfl, by rw [hpq]⟩

/-- The operator that finds an order of two numbers. -/
def ofOrdering : Ordering → Operator
  | .lt => .lt
  | .eq => .eq
  | .gt => .gt

/-- Of the three operators that find an order, the one that finds the order of two numbers holds
    between them, and no other. -/
theorem holds_ofOrdering_iff (ha : a.toExtended? = some p) (he : e.toExtended? = some q)
    (order : Ordering) : (ofOrdering order).holds a e = true ↔ compare p q = order := by
  cases order with
  | lt =>
    rw [compare_lt_iff_lt]
    exact holds_iff_of_numbers rfl ha he
  | eq =>
    rw [compare_eq_iff_eq]
    exact holds_eq_iff_of_numbers ha he
  | gt =>
    have hgreater : gt.holds a e = true ↔ p > q := holds_iff_of_numbers rfl ha he
    exact hgreater.trans compare_gt_iff_gt.symm

/-- Of the three operators that find an order exactly one holds between two numbers. -/
theorem existsUnique_holds (ha : a.toExtended? = some p) (he : e.toExtended? = some q) :
    ∃! op, op ∈ [lt, eq, gt] ∧ op.holds a e = true := by
  have hfinds := holds_ofOrdering_iff ha he
  refine ⟨ofOrdering (compare p q), ⟨?_, (hfinds _).mpr rfl⟩, ?_⟩
  · cases compare p q <;> decide
  · rintro op ⟨hop, hholds⟩
    obtain ⟨order, rfl⟩ : ∃ order, op = ofOrdering order := by
      simp only [List.mem_cons, List.not_mem_nil, or_false] at hop
      rcases hop with rfl | rfl | rfl
      exacts [⟨.lt, rfl⟩, ⟨.eq, rfl⟩, ⟨.gt, rfl⟩]
    rw [(hfinds order).mp hholds]

/-- To be at most a number is to be less or equal, and to be at least it to be greater or equal. -/
theorem holds_orEqual (ha : a.toExtended? = some p) (he : e.toExtended? = some q) :
    lte.holds a e = (lt.holds a e || eq.holds a e) ∧
      gte.holds a e = (gt.holds a e || eq.holds a e) := by
  have hless : lt.holds a e = true ↔ p < q := holds_iff_of_numbers rfl ha he
  have hgreater : gt.holds a e = true ↔ p > q := holds_iff_of_numbers rfl ha he
  have hequal : eq.holds a e = true ↔ p = q := holds_eq_iff_of_numbers ha he
  constructor
  · have hatMost : lte.holds a e = true ↔ p ≤ q := holds_iff_of_numbers rfl ha he
    rw [Bool.eq_iff_iff, Bool.or_eq_true, hatMost, hless, hequal]
    exact le_iff_lt_or_eq
  · have hatLeast : gte.holds a e = true ↔ p ≥ q := holds_iff_of_numbers rfl ha he
    rw [Bool.eq_iff_iff, Bool.or_eq_true, hatLeast, hgreater, hequal, eq_comm]
    exact le_iff_lt_or_eq

end Numbers

/-- No operator of order holds where one of two data is no number, or one that is not a number. -/
theorem not_holds_of_none {op : Operator} (hop : op ∈ [gt, gte, lt, lte]) {a e : Datum}
    (hnone : a.toExtended? = none ∨ e.toExtended? = none) : op.holds a e = false := by
  obtain ⟨related, hrelated⟩ : ∃ related, op.ordering? = some related := by
    simp only [List.mem_cons, List.not_mem_nil, or_false] at hop
    rcases hop with rfl | rfl | rfl | rfl
    all_goals exact ⟨_, rfl⟩
  rw [← Bool.not_eq_true, holds_iff_ordering hrelated]
  rintro ⟨p, q, ha, he, -⟩
  rcases hnone with hnone | hnone
  · cases hnone.symm.trans ha
  · cases hnone.symm.trans he

end Operator

/-- How the operators of comparisons belong together. -/
structure ComparisonLaws (compares : Datum → Operator → Datum → Bool) : Prop where
  /-- To differ is not to be equal. -/
  neq : ∀ a e, compares a .neq e = !compares a .eq e
  /-- Equality goes both ways. -/
  symm : ∀ a e, a.isRecord = false → compares a .eq e = compares e .eq a
  /-- What is equal to the same is equal. -/
  trans : ∀ a b e, b.isRecord = false →
    compares a .eq b = true → compares b .eq e = true → compares a .eq e = true
  /-- A truth value is equal to no number. -/
  truth : ∀ b x, compares (.bool b) .eq (.ofNumber x) = false
  /-- To be in a list is to be equal to one of its items, and to be not in it the opposite. -/
  membership : ∀ a items,
    (compares a .isIn (.list items) = true ↔ ∃ item ∈ items, compares a .eq item = true) ∧
      compares a .notIn (.list items) = !compares a .isIn (.list items)
  /-- Nothing is in, and nothing is not in, what is no list. -/
  noList : ∀ a e, (∀ items, e ≠ .list items) →
    compares a .isIn e = false ∧ compares a .notIn e = false
  /-- Numbers are equal, less and greater as the extended rationals are that they stand for. -/
  exact : ∀ a e p q, a.toExtended? = some p → e.toExtended? = some q →
    (compares a .eq e = true ↔ p = q) ∧ (compares a .lt e = true ↔ p < q) ∧
      (compares a .gt e = true ↔ p > q)
  /-- Of two numbers exactly one is less, or they are equal. -/
  trichotomy : ∀ a e p q, a.toExtended? = some p → e.toExtended? = some q →
    ∃! op, op ∈ [Operator.lt, .eq, .gt] ∧ compares a op e = true
  /-- To be at most a number is to be less or equal, and to be at least it to be greater or equal. -/
  orEqual : ∀ a e p q, a.toExtended? = some p → e.toExtended? = some q →
    compares a .lte e = (compares a .lt e || compares a .eq e) ∧
      compares a .gte e = (compares a .gt e || compares a .eq e)
  /-- There is no order where one of two data is no number, or one that is not a number. -/
  unordered : ∀ a e, a.toExtended? = none ∨ e.toExtended? = none →
    ∀ op ∈ [Operator.gt, .gte, .lt, .lte], compares a op e = false

/-- **The operators fit together.**  Comparisons by the names of the operators keep the laws of
    comparisons, for data of every kind and numbers of every size. -/
theorem satisfies_lawful : ComparisonLaws fun a op e => satisfies a op.name e := by
  simp only [satisfies_name]
  constructor
  case neq =>
    intro a e
    rfl
  case symm =>
    intro a e ha
    show strictlyEqual a e = strictlyEqual e a
    rw [Bool.eq_iff_iff, strictlyEqual_iff (.inl ha), strictlyEqual_iff (.inr ha)]
    simp only [and_comm]
  case trans =>
    intro a b e hb hab hbe
    obtain ⟨x, hax, hbx⟩ := (strictlyEqual_iff (.inr hb)).mp hab
    obtain ⟨y, hby, hey⟩ := (strictlyEqual_iff (.inl hb)).mp hbe
    obtain rfl : x = y := Option.some.inj (hbx.symm.trans hby)
    exact (strictlyEqual_iff (.inl (Datum.isRecord_of_comparand? hax))).mpr ⟨x, hax, hey⟩
  case truth =>
    intro b x
    cases x <;> rfl
  case membership =>
    intro a items
    exact ⟨List.any_eq_true, rfl⟩
  case noList =>
    intro a e he
    cases e with
    | list items => exact absurd rfl (he items)
    | _ => exact ⟨rfl, rfl⟩
  case exact =>
    intro a e p q ha he
    have hfinds := Operator.holds_ofOrdering_iff ha he
    exact ⟨(hfinds .eq).trans compare_eq_iff_eq, (hfinds .lt).trans compare_lt_iff_lt,
      (hfinds .gt).trans compare_gt_iff_gt⟩
  case trichotomy =>
    intro a e p q ha he
    exact Operator.existsUnique_holds ha he
  case orEqual =>
    intro a e p q ha he
    exact Operator.holds_orEqual ha he
  case unordered =>
    intro a e hnone op hop
    exact Operator.not_holds_of_none hop hnone

/-- An integer that is no double is above the one that comes nearest to it. -/
example : satisfies (.int 9007199254740993) "gt" (.real 9007199254740992.0) = true := by
  decide +kernel

end StreamWatch
