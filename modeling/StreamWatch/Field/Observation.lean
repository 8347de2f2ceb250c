import StreamWatch.Comparison
import StreamWatch.Network.Block
import StreamWatch.Resolution
import StreamWatch.Rule.Basic

namespace StreamWatch

/-! # Observations

What a field observes decides how it is compared with what a condition expects:

* a plain value is compared as it is;
* a resolution is compared by its label in a list of labels, and by its tier otherwise;
* an address is looked for in blocks of addresses.
-/

/-- What a field observes. -/
inductive Observation where
  | plain (value : Datum)
  | resolution (label : String)
  | address (ip : String)

/-- What is expected of a resolution where it is compared by its tier. -/
def expectedTier : ExpectedValue → Datum
  | .text label => .int (resolutionTier label)
  | other => other.toDatum

/-- Does an operator test whether a value stands in a list? -/
def testsMembership (operator : String) : Bool :=
  operator == Operator.isIn.name || operator == Operator.notIn.name

/-- Is an address in a block that is an item of a list? No number is a block. -/
def inBlockItem (ip : String) : ExpectedItem → Bool
  | .text block => Network.inBlockText ip block
  | _ => false

/-- Is an address in what is expected, or not in it? Only a list of blocks and a single block
    can be asked for, and no address is in or out of nowhere. -/
def addressMeets (ip operator : String) (expected : ExpectedValue) : Bool :=
  if ip.isEmpty then false
  else
    match Operator.ofName? operator, expected with
    | some .isIn, .list blocks => blocks.any (inBlockItem ip)
    | some .notIn, .list blocks => !blocks.any (inBlockItem ip)
    | some .eq, .text block => Network.inBlockText ip block
    | some .neq, .text block => !Network.inBlockText ip block
    | _, _ => false

/-- Does an observation meet a condition? -/
def Observation.meets (observed : Observation) (condition : Condition) : Bool :=
  match observed with
  | .plain value => satisfies value condition.operator condition.value.toDatum
  | .resolution label =>
    if testsMembership condition.operator then
      satisfies (.text label) condition.operator condition.value.toDatum
    else
      satisfies (.int (resolutionTier label)) condition.operator (expectedTier condition.value)
  | .address ip => addressMeets ip condition.operator condition.value

end StreamWatch
