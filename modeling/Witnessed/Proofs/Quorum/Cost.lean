import Mathlib.Algebra.Order.BigOperators.Group.List
import Mathlib.Algebra.Order.Ring.Nat
import Mathlib.Data.List.Flatten
import Mathlib.Data.List.Perm.Subperm
import Witnessed.Proofs.Quorum.Tree

/-!
How many different witnesses a quorum takes. A witness costs one, and a group costs what its
cheapest members cost, as many of them as it asks for. No set that satisfies a quorum holds
fewer leaves than it costs, and one with just so many leaves does satisfy it.
-/

namespace Witnessed.Quorum

/-- The sum of the smallest numbers, as many of them as asked for. -/
def sumOfSmallest (count : Nat) (numbers : List Nat) : Nat :=
  (numbers.mergeSort.take count).sum

mutual

def cost : Quorum → Nat
  | .witness _ => 1
  | .group threshold members => sumOfSmallest threshold (costs members)

def costs : List Quorum → List Nat
  | [] => []
  | q :: rest => q.cost :: costs rest

end

theorem costs_eq_map (members : List Quorum) : costs members = members.map cost := by
  induction members with
  | nil => rfl
  | cons q rest ih => rw [costs, ih, List.map_cons]

theorem cost_group (threshold : Nat) (members : List Quorum) :
    (group threshold members).cost = sumOfSmallest threshold (members.map cost) := by
  rw [cost, costs_eq_map]

/-! ## The smallest numbers of a list -/

theorem pairwise_mergeSort_nat (numbers : List Nat) : numbers.mergeSort.Pairwise (· ≤ ·) := by
  have sorted : numbers.mergeSort.Pairwise fun a b => decide (a ≤ b) = true := by
    apply List.pairwise_mergeSort
    · simp only [decide_eq_true_eq]; omega
    · simp only [Bool.or_eq_true, decide_eq_true_eq]; omega
  simpa using sorted

theorem sum_take_succ_le {a count : Nat} {sorted : List Nat}
    (least : ∀ b ∈ sorted, a ≤ b) (enough : count < sorted.length) :
    a + (sorted.take count).sum ≤ (sorted.take (count + 1)).sum := by
  have le := least sorted[count] (List.getElem_mem enough)
  rw [List.take_add_one, List.getElem?_eq_getElem enough, List.sum_append]
  simp only [Option.toList_some, List.sum_cons, List.sum_nil, Nat.add_zero]
  omega

/-- Of ascending numbers, no selection has a smaller sum than the first ones. -/
theorem sum_take_le_of_sublist {chosen sorted : List Nat} (sub : chosen.Sublist sorted)
    (ascending : sorted.Pairwise (· ≤ ·)) : (sorted.take chosen.length).sum ≤ chosen.sum := by
  induction sub with
  | slnil => simp
  | @cons chosen rest a sub ih =>
      obtain ⟨least, later⟩ := List.pairwise_cons.1 ascending
      have tail := ih later
      have fits := sub.length_le
      cases len : chosen.length with
      | zero => simp
      | succ count =>
          rw [len] at tail fits
          rw [List.take_succ_cons, List.sum_cons]
          exact Nat.le_trans (sum_take_succ_le least fits) tail
  | @cons_cons chosen rest a sub ih =>
      have tail := ih (List.pairwise_cons.1 ascending).2
      simp only [List.length_cons, List.take_succ_cons, List.sum_cons]
      omega

theorem sumOfSmallest_le {count : Nat} {chosen numbers : List Nat}
    (sub : chosen.Subperm numbers) (enough : count ≤ chosen.length) :
    sumOfSmallest count numbers ≤ chosen.sum := by
  have sub' : chosen.Subperm numbers.mergeSort :=
    (List.mergeSort_perm numbers _).subperm_left.2 sub
  obtain ⟨sorted, perm, sub'⟩ := sub'
  rw [← perm.sum_nat]
  have first : (numbers.mergeSort.take count).Sublist (numbers.mergeSort.take sorted.length) :=
    List.take_sublist_take_left (perm.length_eq ▸ enough)
  exact Nat.le_trans (first.sum_le_sum fun _ _ => Nat.zero_le _)
    (sum_take_le_of_sublist sub' (pairwise_mergeSort_nat numbers))

/-- Some of the members cost just that much. -/
theorem exists_cheapest {threshold : Nat} {members : List Quorum}
    (enough : threshold ≤ members.length) :
    ∃ chosen : List Quorum, chosen.Subperm members ∧ chosen.length = threshold ∧
      (chosen.map cost).sum = sumOfSmallest threshold (members.map cost) := by
  let sorted := members.mergeSort fun p q => decide (p.cost ≤ q.cost)
  have perm : sorted.Perm members := List.mergeSort_perm members _
  refine ⟨sorted.take threshold, ?_, ?_, ?_⟩
  · exact (List.take_sublist threshold sorted).subperm.trans perm.subperm
  · rw [List.length_take, perm.length_eq]
    omega
  · have costs : sorted.map cost = (members.map cost).mergeSort :=
      List.map_mergeSort fun _ _ _ _ => rfl
    rw [List.map_take, costs, sumOfSmallest]

/-! ## What a satisfying set holds -/

theorem cost_le_countP {verified : List KeyHash} {q : Quorum}
    (h : q.isSatisfied verified = true) : q.cost ≤ q.leaves.countP (· ∈ verified) := by
  induction q with
  | witness key =>
      rw [isSatisfied_witness] at h
      simp [cost, h]
  | group threshold members ih =>
      rw [isSatisfied_group, List.countP_eq_length_filter] at h
      -- The satisfied members are a selection of enough members: it costs no less than the
      -- cheapest one, and its leaves are leaves of the group.
      let satisfied := members.filter (isSatisfied verified)
      have sub : satisfied.Sublist members := List.filter_sublist
      calc (group threshold members).cost
          = sumOfSmallest threshold (members.map cost) := cost_group threshold members
        _ ≤ (satisfied.map cost).sum :=
          sumOfSmallest_le (sub.map cost).subperm (by simpa using h)
        _ ≤ (satisfied.map fun q => q.leaves.countP (· ∈ verified)).sum := by
          refine List.sum_le_sum fun q hq => ?_
          obtain ⟨mem, sat⟩ := List.mem_filter.1 hq
          exact ih q mem sat
        _ ≤ (members.map fun q => q.leaves.countP (· ∈ verified)).sum :=
          (sub.map _).sum_le_sum fun _ _ => Nat.zero_le _
        _ = (group threshold members).leaves.countP (· ∈ verified) := by
          rw [leaves_group, List.countP_flatMap]
          rfl

/-- Leaves that satisfy each of some quorums, taken together. -/
theorem exists_leaves_of_all {chosen : List Quorum}
    (each : ∀ q ∈ chosen, ∃ least : List KeyHash, least.Subperm q.leaves ∧
      least.length = q.cost ∧ ∀ verified, least ⊆ verified → q.isSatisfied verified = true) :
    ∃ least : List KeyHash, least.Subperm (chosen.flatMap leaves) ∧
      least.length = (chosen.map cost).sum ∧
      ∀ verified, least ⊆ verified → ∀ q ∈ chosen, q.isSatisfied verified = true := by
  induction chosen with
  | nil => exact ⟨[], by simp, rfl, by simp⟩
  | cons q rest ih =>
      obtain ⟨first, sub, len, sat⟩ := each q List.mem_cons_self
      obtain ⟨others, subs, lens, sats⟩ := ih fun p hp => each p (List.mem_cons_of_mem q hp)
      refine ⟨first ++ others, ?_, ?_, fun verified le p hp => ?_⟩
      · rw [List.flatMap_cons]
        exact sub.append subs
      · simp [len, lens]
      · obtain ⟨le, les⟩ := List.append_subset.1 le
        rcases List.mem_cons.1 hp with rfl | hp
        · exact sat verified le
        · exact sats verified les p hp

theorem exists_least {q : Quorum} (range : q.InRange) :
    ∃ least : List KeyHash, least.Subperm q.leaves ∧ least.length = q.cost ∧
      ∀ verified, least ⊆ verified → q.isSatisfied verified = true := by
  induction q with
  | witness key =>
      refine ⟨[key], .refl _, rfl, fun verified le => ?_⟩
      exact (isSatisfied_witness verified key).2 (le List.mem_cons_self)
  | group threshold members ih =>
      have ranges := (inRange_group_iff.1 range).2
      obtain ⟨chosen, sub, count, sum⟩ := exists_cheapest range.enough
      obtain ⟨least, leaves, len, sat⟩ := @exists_leaves_of_all chosen
        fun q hq => ih q (sub.subset hq) (ranges q (sub.subset hq))
      refine ⟨least, ?_, ?_, fun verified le => ?_⟩
      · obtain ⟨same, perm, sub⟩ := sub
        rw [leaves_group]
        exact leaves.trans ((perm.symm.flatMap_right _).subperm.trans (sub.flatMap _).subperm)
      · rw [len, sum, cost_group]
      · rw [isSatisfied_group]
        have all : chosen.countP (isSatisfied verified) = threshold :=
          count ▸ List.countP_eq_length.2 (sat verified le)
        exact all ▸ sub.countP_le _

end Witnessed.Quorum
