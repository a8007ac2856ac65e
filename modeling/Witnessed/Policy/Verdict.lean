import Witnessed.Policy.Draft
import Witnessed.TreeHead

/-!
Judging a cosigned tree head by a policy. The log has to be known and to have signed the tree
head, and the witnesses whose cosignatures verify have to satisfy the quorum. Cosignatures of
witnesses that the policy does not know are passed over.
-/

namespace Witnessed

/-- How the cosignatures of a tree head fared. -/
structure Tally where
  /-- Known witnesses whose cosignature verifies. -/
  verified : List KeyHash
  /-- How many known witnesses have a cosignature that does not verify. -/
  failed : Nat
  /-- How many cosignatures are of witnesses not known. -/
  ignored : Nat
  deriving DecidableEq

structure Report where
  total : Nat
  verified : Nat
  failed : Nat
  ignored : Nat
  deriving DecidableEq, Repr

inductive VerifyError
  | unknownLog (log : KeyHash)
  | invalidLogSignature
  | insufficientCosignatures (total verified failed : Nat)
  deriving DecidableEq

namespace VerifyError

def code : VerifyError → String
  | .unknownLog .. => "E2001"
  | .invalidLogSignature => "E2002"
  | .insufficientCosignatures .. => "E2003"

def text : VerifyError → String
  | .unknownLog log => "Unknown log: " ++ log.hex ++ " is not in the policy"
  | .invalidLogSignature => "Invalid log signature"
  | .insufficientCosignatures total verified failed =>
      "Insufficient cosignatures: " ++ toString verified ++ " of " ++ toString total ++
        " verified, " ++ toString failed ++ " failed"

def message (e : VerifyError) : String :=
  "[" ++ e.code ++ "] " ++ e.text

/-- Whether more cosignatures could help. -/
def isRetryable : VerifyError → Bool
  | .insufficientCosignatures .. => true
  | _ => false

end VerifyError

namespace Policy

variable (suite : Suite) (p : Policy)

/-- Counts one cosignature, held under the given key hash. -/
def count (origin : String) (head : TreeHead) (tally : Tally) (entry : KeyHash × Cosignature) :
    Tally :=
  match p.witness? entry.1 with
  | none => { tally with ignored := tally.ignored + 1 }
  | some witness =>
      if entry.2.verify suite witness.key origin head then
        { tally with verified := tally.verified ++ [entry.1] }
      else
        { tally with failed := tally.failed + 1 }

def tally (origin : String) (head : CosignedTreeHead) : Tally :=
  head.cosignatures.entries.foldl (p.count suite origin head.signed.head) ⟨[], 0, 0⟩

/-- Judges a tree head of the log with the given key hash. -/
def verify (log : KeyHash) (head : CosignedTreeHead) : Except VerifyError Report :=
  match p.log? log with
  | none => .error (.unknownLog log)
  | some entity =>
      let origin := originOf log
      if head.signed.verifyFor suite entity.key origin then
        let tally := p.tally suite origin head
        let total := head.cosignatures.size
        if p.quorum.isSatisfied tally.verified then
          .ok ⟨total, tally.verified.length, tally.failed, tally.ignored⟩
        else
          .error (.insufficientCosignatures total tally.verified.length tally.failed)
      else
        .error .invalidLogSignature

end Policy

end Witnessed
