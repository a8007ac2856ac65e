import Witnessed.Policy.Draft

/-!
Checks that every policy should pass, whatever it was made from.
-/

namespace Witnessed

inductive Violation
  | notSubset
  | lostQuorum (added : Nat)
  | unregistered (witness : KeyHash)
  | emptyGroup
  | outOfRange (threshold members : Nat)
  | unreachable
  deriving DecidableEq

def Violation.message : Violation → String
  | .notSubset => "first set must be a subset of the second"
  | .lostQuorum added => "adding " ++ toString added ++ " witnesses un-satisfied the quorum"
  | .unregistered witness => "quorum references unregistered witness " ++ witness.hex
  | .emptyGroup => "empty group must have threshold 0"
  | .outOfRange threshold members =>
      "threshold " ++ toString threshold ++ " out of range for " ++ toString members ++ " members"
  | .unreachable => "quorum unreachable with every witness"

mutual

/-- Every group, from the root down and from left to right, is empty with threshold zero or asks
for at least one and at most all of its members. -/
def Quorum.checkThresholds : Quorum → Except Violation Unit
  | .witness _ => .ok ()
  | .group threshold members =>
      if members.isEmpty then
        if threshold = 0 then .ok () else .error .emptyGroup
      else if 1 ≤ threshold ∧ threshold ≤ members.length then
        Quorum.checkAllThresholds members
      else
        .error (.outOfRange threshold members.length)

def Quorum.checkAllThresholds : List Quorum → Except Violation Unit
  | [] => .ok ()
  | q :: rest => do
      q.checkThresholds
      Quorum.checkAllThresholds rest

end

namespace Policy

variable (p : Policy)

/-- More witnesses never turn a quorum that is satisfied into one that is not. -/
def checkMonotone (fewer more : List KeyHash) : Except Violation Unit :=
  if ¬fewer.all more.contains then .error .notSubset
  else if p.quorum.isSatisfied fewer && !p.quorum.isSatisfied more then
    .error (.lostQuorum ((ascending more).length - (ascending fewer).length))
  else .ok ()

/-- All witnesses in the quorum are registered. -/
def checkRegistered : Except Violation Unit :=
  match p.quorum.witnesses.find? fun w => !p.witnesses.contains w with
  | some w => .error (.unregistered w)
  | none => .ok ()

/-- All registered witnesses together satisfy the quorum. -/
def checkReachable : Except Violation Unit :=
  if p.quorum.isSatisfied p.witnesses.keys then .ok () else .error .unreachable

end Policy

/-- The witnesses whose bits are set. Only the first sixty-four have a bit. -/
def select (witnesses : List KeyHash) (mask : UInt64) : List KeyHash :=
  ascending (((witnesses.take 64).zipIdx.filter fun w => mask.toNat.testBit w.2).map (·.1))

end Witnessed
