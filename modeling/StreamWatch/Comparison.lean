import StreamWatch.Datum
import StreamWatch.Fault
import StreamWatch.Text.Lowercase

namespace StreamWatch

/-! # Comparing what is observed with what a rule expects

* `Operator`: the ten comparisons a rule may ask for;
* `strictlyEqual`: equality that never converts between truth values, numbers and texts,
  and to which no list is equal;
* `Operator.holds`: the meaning of an operator;
* `satisfies`: a comparison by the operator's name, which fails to match when there is no
  such operator.
-/

/-- The comparisons a rule may ask for. -/
inductive Operator where
  | eq | neq | gt | gte | lt | lte | isIn | notIn | contains | notContains
  deriving Repr, DecidableEq

/-- The name of an operator. -/
def Operator.name : Operator → String
  | .eq => "eq"
  | .neq => "neq"
  | .gt => "gt"
  | .gte => "gte"
  | .lt => "lt"
  | .lte => "lte"
  | .isIn => "in"
  | .notIn => "not_in"
  | .contains => "contains"
  | .notContains => "not_contains"

/-- Every operator. -/
def Operator.all : List Operator :=
  [.eq, .neq, .gt, .gte, .lt, .lte, .isIn, .notIn, .contains, .notContains]

/-- The operator of a name. -/
def Operator.ofName? (name : String) : Option Operator :=
  Operator.all.find? fun op => op.name == name

/-- Are two data equal without converting either? Lists are equal to nothing, a truth
    value only to a truth value, a number only to a number of the same exact value. -/
def strictlyEqual : Datum → Datum → Bool
  | .list _, _ | _, .list _ => false
  | .bool a, .bool b => a == b
  | .bool _, _ | _, .bool _ => false
  | .text a, .text b => a == b
  | .null, .null => true
  | .record as, .record bs => Datum.alike (.record as) (.record bs)
  | a, b =>
    match a.number?, b.number? with
    | some x, some y => x.equals y
    | _, _ => false

/-- Is a datum strictly equal to an item of a list? -/
def strictlyAmong (actual : Datum) (items : List Datum) : Bool :=
  items.any fun item => strictlyEqual actual item

/-- Do two data stand in an order relation? Only numbers do. -/
def ordered (relation : Number → Number → Bool) (actual expected : Datum) : Bool :=
  match actual.number?, expected.number? with
  | some x, some y => relation x y
  | _, _ => false

/-- Does a text hold another one, whatever the case of either? None unless both are texts. -/
def holdsText? (actual expected : Datum) : Option Bool :=
  match actual, expected with
  | .text whole, .text part =>
    some (Text.occursIn (Text.lowercase part) (Text.lowercase whole))
  | _, _ => none

/-- Does the operator hold between what is observed and what is expected? Operands of a
    kind that the operator does not take fail to match. -/
def Operator.holds (op : Operator) (actual expected : Datum) : Bool :=
  match op with
  | .eq => strictlyEqual actual expected
  | .neq => !strictlyEqual actual expected
  | .gt => ordered (fun x y => y.lessThan x) actual expected
  | .gte => ordered (fun x y => y.atMost x) actual expected
  | .lt => ordered Number.lessThan actual expected
  | .lte => ordered Number.atMost actual expected
  | .isIn =>
    match expected with
    | .list items => strictlyAmong actual items
    | _ => false
  | .notIn =>
    match expected with
    | .list items => !strictlyAmong actual items
    | _ => false
  | .contains => (holdsText? actual expected).getD false
  | .notContains => ((holdsText? actual expected).map not).getD false

/-- Compares by the name of an operator; an unknown operator fails to match. -/
def satisfies (actual : Datum) (operator : String) (expected : Datum) : Bool :=
  match Operator.ofName? operator with
  | some op => op.holds actual expected
  | none => false

/-- Compares by an operator given as plain data. A list or a record names no operator and
    cannot even be looked up; any other datum that is no text is an unknown operator. -/
def satisfiesBy (operator actual expected : Datum) : Except Fault Bool :=
  match operator with
  | .text name => .ok (satisfies actual name expected)
  | .list _ | .record _ => .error (.misuse (.notAName operator.kindName))
  | _ => .ok false

end StreamWatch
