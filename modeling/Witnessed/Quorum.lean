import Witnessed.Ascending
import Witnessed.Octets

/-!
Quorums: which sets of witnesses are enough. A quorum is a witness, or a group that asks for a
number of its members; a member may be a group again.
-/

namespace Witnessed

inductive Quorum
  | witness (key : KeyHash)
  | group (threshold : Nat) (members : List Quorum)

namespace Quorum

/-- The empty group, which every set satisfies. -/
def none : Quorum := .group 0 []

mutual

/-- Whether the witnesses in `verified` are enough. -/
def isSatisfied (verified : List KeyHash) : Quorum → Bool
  | .witness key => verified.contains key
  | .group threshold members => threshold ≤ satisfiedCount verified members

/-- How many of the quorums are satisfied. -/
def satisfiedCount (verified : List KeyHash) : List Quorum → Nat
  | [] => 0
  | q :: rest => (if q.isSatisfied verified then 1 else 0) + satisfiedCount verified rest

end

mutual

/-- The witnesses at the leaves, from left to right and as often as they occur. -/
def leaves : Quorum → List KeyHash
  | .witness key => [key]
  | .group _ members => leavesOf members

def leavesOf : List Quorum → List KeyHash
  | [] => []
  | q :: rest => q.leaves ++ leavesOf rest

end

end Quorum

/-- The witnesses of a quorum, ascending. -/
def Quorum.witnesses (q : Quorum) : List KeyHash :=
  ascending q.leaves

end Witnessed
