import Witnessed.Proofs.Policy.Forest
import Witnessed.Proofs.Quorum.Cost

/-!
What a policy is worth: nobody is counted twice, and the cost of the quorum is the number of
registered witnesses that it takes, no more and no fewer.
-/

namespace Witnessed

/-- A suite in which every key is its own digest, and in which the signature of ones verifies. -/
def Suite.plain : Suite where
  digest := .take .hash
  verify := fun _ _ signature => signature = .fill .signature 1

def Entity.filled (byte : UInt8) : Entity := ⟨.fill .publicKey byte, none⟩

/-- Two of three members, one of which is a group, and one of which is the empty group. -/
def nestedDeclarations : List Declaration :=
  [.log (.filled 1), .witness "a" (.filled 2), .witness "b" (.filled 3), .witness "c" (.filled 4),
    .group "inner" .any ["b", "c"], .group "outer" (.count 2) ["none", "inner", "a"],
    .quorum "outer"]

namespace Policy.Made

variable {suite : Suite} {ds : List Declaration} {p : Policy}

theorem counts_once (h : Made suite ds p) :
    p.quorum.leaves.Nodup ∧ p.quorum.emptyCount ≤ 1 :=
  Quorum.once_of_ends h.sound.once

theorem counts_once_nested :
    ∃ p, Made .plain nestedDeclarations p ∧ p.quorum.leaves.Nodup ∧ p.quorum.emptyCount ≤ 1 := by
  have made : Made .plain nestedDeclarations _ := .built nestedDeclarations rfl
  exact ⟨_, made, made.counts_once⟩

/-- Whoever satisfies the quorum holds as many different registered witnesses as it costs, and
some registered witnesses, just so many, satisfy it. -/
theorem strength (h : Made suite ds p) :
    (∀ verified : List KeyHash, p.quorum.isSatisfied verified = true →
      ∃ held : List KeyHash, held.Nodup ∧ p.quorum.cost ≤ held.length ∧
        ∀ w ∈ held, w ∈ verified ∧ p.witnesses.contains w = true) ∧
    ∃ least : List KeyHash, least.Nodup ∧ least.length = p.quorum.cost ∧
      (∀ w ∈ least, p.witnesses.contains w = true) ∧ p.quorum.isSatisfied least = true := by
  have leaves := (Quorum.once_of_ends h.sound.once).1
  constructor
  · intro verified satisfied
    have cost := Quorum.cost_le_countP satisfied
    rw [List.countP_eq_length_filter] at cost
    refine ⟨_, leaves.filter _, cost, fun w hw => ?_⟩
    obtain ⟨leaf, mem⟩ := List.mem_filter.1 hw
    exact ⟨of_decide_eq_true mem, h.sound.known w leaf⟩
  · obtain ⟨least, sub, len, sat⟩ := Quorum.exists_least h.sound.range
    have once : least.Nodup := by
      obtain ⟨same, perm, sub⟩ := sub
      exact perm.nodup_iff.1 (leaves.sublist sub)
    exact ⟨least, once, len, fun w hw => h.sound.known w (sub.subset hw), sat least fun w hw => hw⟩

theorem strength_nested :
    ∃ p, Made .plain nestedDeclarations p ∧ p.quorum.cost = 1 ∧
      (∀ verified : List KeyHash, p.quorum.isSatisfied verified = true →
        ∃ held : List KeyHash, held.Nodup ∧ p.quorum.cost ≤ held.length ∧
          ∀ w ∈ held, w ∈ verified ∧ p.witnesses.contains w = true) ∧
      ∃ least : List KeyHash, least.Nodup ∧ least.length = p.quorum.cost ∧
        (∀ w ∈ least, p.witnesses.contains w = true) ∧ p.quorum.isSatisfied least = true := by
  have made : Made .plain nestedDeclarations _ := .built nestedDeclarations rfl
  refine ⟨_, made, ?_, made.strength⟩
  simp [Quorum.cost, Quorum.costs, Quorum.none, Quorum.sumOfSmallest, Threshold.resolve,
    List.mergeSort_of_pairwise]

end Policy.Made

end Witnessed
