import Witnessed.Text.Decimal

/-!
How many members of a group have to be satisfied, as it is written.
-/

namespace Witnessed

inductive Threshold
  | count (n : UInt64)
  | any
  | all
  deriving DecidableEq, Repr

namespace Threshold

def render : Threshold → List Char
  | .count n => Decimal.render n.toNat
  | .any => "any".toList
  | .all => "all".toList

def parse? (cs : List Char) : Option Threshold :=
  if cs = "any".toList then some .any
  else if cs = "all".toList then some .all
  else (Decimal.parse? cs).map .count

/-- The count that a group of so many members asks for. -/
def resolve (members : Nat) : Threshold → Nat
  | .count n => n.toNat
  | .any => 1
  | .all => members

end Threshold

end Witnessed
