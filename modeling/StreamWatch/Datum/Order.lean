import StreamWatch.Datum
import StreamWatch.Fault

namespace StreamWatch

/-! # The order of plain data

Numbers are ordered by their values, texts by their characters, and lists by their first items
that differ. No other data have an order:

* `OrderRelation`: one of the relations of an order, with the sign that messages use;
* `Datum.stands`: does a relation hold between two data? It is a fault to ask for data without
  an order.
-/

/-- A relation of an order: its sign, and what it says of numbers, of texts and of the lengths
    of lists. -/
structure OrderRelation where
  sign : String
  numbers : Number → Number → Bool
  texts : String → String → Bool
  lengths : Nat → Nat → Bool

namespace OrderRelation

/-- The first one is less. -/
def less : OrderRelation where
  sign := "<"
  numbers x y := x.lessThan y
  texts s t := decide (s < t)
  lengths m n := decide (m < n)

/-- The first one is not greater. -/
def atMost : OrderRelation where
  sign := "<="
  numbers x y := x.atMost y
  texts s t := !decide (t < s)
  lengths m n := decide (m ≤ n)

/-- The first one is greater. -/
def greater : OrderRelation where
  sign := ">"
  numbers x y := y.lessThan x
  texts s t := decide (t < s)
  lengths m n := decide (n < m)

/-- The first one is not less. -/
def atLeast : OrderRelation where
  sign := ">="
  numbers x y := y.atMost x
  texts s t := !decide (s < t)
  lengths m n := decide (n ≤ m)

end OrderRelation

namespace Datum

mutual

/-- Does a relation hold between two data? Truth values count as 1 and 0. -/
def stands (relation : OrderRelation) : Datum → Datum → Except Fault Bool
  | .text s, .text t => .ok (relation.texts s t)
  | .list as, .list bs => itemsStand relation as bs
  | a, b =>
    match a.count?, b.count? with
    | some x, some y => .ok (relation.numbers x y)
    | _, _ => .error (.misuse (.noOrder relation.sign a.kindName b.kindName))

/-- Does a relation hold between two lists? The first items that differ decide, and the lengths
    where none do. -/
def itemsStand (relation : OrderRelation) : List Datum → List Datum → Except Fault Bool
  | a :: as, b :: bs => if a.alike b then itemsStand relation as bs else stands relation a b
  | as, bs => .ok (relation.lengths as.length bs.length)

end

/-- Two numbers stand in a relation as their values do. -/
theorem stands_ofNumber (relation : OrderRelation) (x y : Number) :
    (ofNumber x).stands relation (ofNumber y) = .ok (relation.numbers x y) := by
  cases x <;> cases y <;> rfl

end Datum

end StreamWatch
