import Witnessed.Proofs.Quorum.Tree

/-!
The parts of a quorum at every depth. A quorum is in range just when each group among its parts
is, and a quorum in range that has no empty group among its parts asks for its own witnesses: no
others can satisfy it.
-/

namespace Witnessed.Quorum

/-- A quorum is part of itself and of every group that has a member of which it is part. -/
inductive Part (part : Quorum) : Quorum → Prop
  | whole : Part part part
  | member {threshold : Nat} {members : List Quorum} {q : Quorum} (mem : q ∈ members)
      (inner : Part part q) : Part part (.group threshold members)

variable {part q : Quorum} {threshold : Nat} {members : List Quorum}

theorem part_group_iff :
    part.Part (group threshold members) ↔
      part = group threshold members ∨ ∃ q ∈ members, part.Part q := by
  constructor
  · intro inside
    cases inside with
    | whole => exact .inl rfl
    | member mem inner => exact .inr ⟨_, mem, inner⟩
  · rintro (rfl | ⟨q, mem, inner⟩)
    · exact .whole
    · exact .member mem inner

theorem not_part_witness (key : KeyHash) : ¬(group threshold members).Part (witness key) :=
  nofun

/-- A group that asks for nothing has no members, and any other one asks for one member at least
and for no more than there are. -/
theorem inRange_iff_parts :
    q.InRange ↔ ∀ threshold members, (group threshold members).Part q →
      (members = [] ∧ threshold = 0) ∨ (1 ≤ threshold ∧ threshold ≤ members.length) := by
  induction q with
  | witness key =>
      exact ⟨fun _ _ _ inside => absurd inside (not_part_witness key), fun _ => .witness key⟩
  | group threshold members ih =>
      rw [inRange_group_iff]
      constructor
      · rintro ⟨bounds, each⟩ t ms inside
        rcases part_group_iff.1 inside with same | ⟨q, mem, inner⟩
        · cases same
          split at bounds
          · rename_i empty
            exact .inl ⟨empty, bounds⟩
          · exact .inr bounds
        · exact (ih q mem).1 (each q mem) t ms inner
      · intro all
        refine ⟨?_, fun q mem => (ih q mem).2 fun t ms inner => all t ms (.member mem inner)⟩
        rcases all threshold members .whole with ⟨rfl, zero⟩ | ⟨low, high⟩
        · exact zero
        · rw [if_neg (List.ne_nil_of_length_pos (Nat.le_trans low high))]
          exact ⟨low, high⟩

theorem emptyCount_eq_zero_iff : q.emptyCount = 0 ↔ ∀ threshold, ¬(group threshold []).Part q := by
  induction q with
  | witness key => exact ⟨fun _ _ => not_part_witness key, fun _ => rfl⟩
  | group threshold members ih =>
      by_cases empty : members = []
      · subst empty
        exact ⟨nofun, fun absent => absurd .whole (absent threshold)⟩
      · have sum : (group threshold members).emptyCount = (members.map emptyCount).sum := by
          simp [emptyCount, empty, emptyCountOf_eq_sum]
        rw [sum, List.sum_eq_zero_iff_forall_eq_nat, List.forall_mem_map, forall₂_congr ih]
        constructor
        · intro each t inside
          rcases part_group_iff.1 inside with same | ⟨q, mem, inner⟩
          · cases same
            contradiction
          · exact each q mem t inner
        · exact fun absent q mem t inner => absent t (.member mem inner)

/-- A group with members asks for one of them at least, so in a quorum in range without empty
groups every group needs some witness below it. -/
theorem unsatisfied_by_strangers {verified : List KeyHash} (range : q.InRange)
    (inhabited : ∀ threshold, ¬(group threshold []).Part q)
    (strangers : ∀ w ∈ q.leaves, w ∉ verified) : q.isSatisfied verified = false := by
  induction q with
  | witness key =>
      rw [Bool.eq_false_iff, Ne, isSatisfied_witness]
      exact strangers key (by simp)
  | group threshold members ih =>
      have bounds := inRange_iff_parts.1 range threshold members .whole
      have nonempty : members ≠ [] := by
        rintro rfl
        exact inhabited threshold .whole
      have none : members.countP (isSatisfied verified) = 0 := by
        refine List.countP_eq_zero.2 fun q mem => Bool.eq_false_iff.1 ?_
        apply ih q mem
        · exact (inRange_group_iff.1 range).2 q mem
        · exact fun threshold inner => inhabited threshold (.member mem inner)
        · exact fun w leaf => strangers w (by simpa using ⟨q, mem, leaf⟩)
      rw [Bool.eq_false_iff, Ne, isSatisfied_group, none]
      rcases bounds with ⟨empty, _⟩ | ⟨low, _⟩
      · contradiction
      · omega

end Witnessed.Quorum
