import Mathlib.Algebra.Order.Ring.Nat
import Mathlib.Data.List.Nodup
import Witnessed.Quorum

/-!
Quorums as trees: induction over them, their counting and collecting functions as functions on
the list of members, and the two ways in which a quorum can be in order. Its ends are the
witnesses at its leaves and the groups without members; in range are the thresholds that ask
for something that the members can give.
-/

namespace Witnessed.Quorum

/-- Induction with the hypothesis for every member of a group. -/
@[elab_as_elim, induction_eliminator]
theorem induct {motive : Quorum → Prop} (witness : ∀ key, motive (.witness key))
    (group : ∀ threshold members, (∀ q ∈ members, motive q) →
      motive (.group threshold members)) : ∀ q, motive q
  | .witness key => witness key
  | .group threshold members => group threshold members fun q _ => induct witness group q

theorem satisfiedCount_eq_countP (verified : List KeyHash) (members : List Quorum) :
    satisfiedCount verified members = members.countP (isSatisfied verified) := by
  induction members with
  | nil => rfl
  | cons q rest ih =>
      rw [satisfiedCount, ih, List.countP_cons]
      omega

theorem isSatisfied_witness (verified : List KeyHash) (key : KeyHash) :
    (witness key).isSatisfied verified = true ↔ key ∈ verified := by
  simp [isSatisfied]

theorem isSatisfied_group (verified : List KeyHash) (threshold : Nat) (members : List Quorum) :
    (group threshold members).isSatisfied verified = true ↔
      threshold ≤ members.countP (isSatisfied verified) := by
  simp [isSatisfied, satisfiedCount_eq_countP]

theorem leavesOf_eq_flatMap (members : List Quorum) :
    leavesOf members = members.flatMap leaves := by
  induction members with
  | nil => rfl
  | cons q rest ih => rw [leavesOf, ih, List.flatMap_cons]

@[simp] theorem leaves_witness (key : KeyHash) : (witness key).leaves = [key] := rfl

@[simp] theorem leaves_group (threshold : Nat) (members : List Quorum) :
    (group threshold members).leaves = members.flatMap leaves :=
  leavesOf_eq_flatMap members

mutual

/-- How many groups without members a quorum holds, itself included. -/
def emptyCount : Quorum → Nat
  | .witness _ => 0
  | .group _ members => if members.isEmpty then 1 else emptyCountOf members

def emptyCountOf : List Quorum → Nat
  | [] => 0
  | q :: rest => q.emptyCount + emptyCountOf rest

end

mutual

/-- Where branches end, from left to right: at a witness, or at a group without members. -/
def ends : Quorum → List (Option KeyHash)
  | .witness key => [some key]
  | .group _ members => if members.isEmpty then [Option.none] else endsOf members

def endsOf : List Quorum → List (Option KeyHash)
  | [] => []
  | q :: rest => q.ends ++ endsOf rest

end

theorem endsOf_eq_flatMap (members : List Quorum) : endsOf members = members.flatMap ends := by
  induction members with
  | nil => rfl
  | cons q rest ih => rw [endsOf, ih, List.flatMap_cons]

@[simp] theorem ends_witness (key : KeyHash) : (witness key).ends = [some key] := rfl

@[simp] theorem ends_none : none.ends = [Option.none] := rfl

theorem ends_group (threshold : Nat) {members : List Quorum} (some : members ≠ []) :
    (group threshold members).ends = members.flatMap ends := by
  simp [ends, some, endsOf_eq_flatMap]

theorem emptyCountOf_eq_sum (members : List Quorum) :
    emptyCountOf members = (members.map emptyCount).sum := by
  induction members with
  | nil => rfl
  | cons q rest ih => rw [emptyCountOf, ih, List.map_cons, List.sum_cons]

/-- The leaves are the ends that are witnesses. -/
theorem leaves_eq_ends (q : Quorum) : q.leaves = q.ends.filterMap id := by
  induction q with
  | witness key => rfl
  | group threshold members ih =>
      by_cases empty : members = []
      · simp [empty, ends]
      · rw [leaves_group, ends_group threshold empty, List.filterMap_flatMap]
        exact List.flatMap_congr ih

theorem emptyCount_eq_ends (q : Quorum) : q.emptyCount = q.ends.count Option.none := by
  induction q with
  | witness key => rfl
  | group threshold members ih =>
      by_cases empty : members = []
      · simp [empty, ends, emptyCount]
      · have each : members.map emptyCount = members.map (List.count Option.none ∘ ends) :=
          List.map_congr_left ih
        rw [ends_group threshold empty, List.count_flatMap, ← each, emptyCount,
          emptyCountOf_eq_sum]
        simp [empty]

/-- Quorums that end nowhere twice have no leaf twice and hold the empty group at most once. -/
theorem once_of_ends {q : Quorum} (h : q.ends.Nodup) : q.leaves.Nodup ∧ q.emptyCount ≤ 1 := by
  constructor
  · rw [leaves_eq_ends]
    exact h.filterMap fun a b key ha hb => by simp_all
  · rw [emptyCount_eq_ends]
    exact List.nodup_iff_count_le_one.1 h Option.none

theorem mem_leaves_iff {q : Quorum} {key : KeyHash} : key ∈ q.leaves ↔ some key ∈ q.ends := by
  simp [leaves_eq_ends]

/-- Every group is empty and asks for nothing, or asks for one or more of its members. -/
inductive InRange : Quorum → Prop
  | witness (key : KeyHash) : InRange (.witness key)
  | none : InRange .none
  | group (threshold : Nat) (members : List Quorum) (low : 1 ≤ threshold)
      (high : threshold ≤ members.length) (each : ∀ q ∈ members, InRange q) :
      InRange (.group threshold members)

theorem inRange_group_iff {threshold : Nat} {members : List Quorum} :
    (group threshold members).InRange ↔
      (if members = [] then threshold = 0 else 1 ≤ threshold ∧ threshold ≤ members.length) ∧
        ∀ q ∈ members, q.InRange := by
  constructor
  · intro range
    cases range with
    | none => simp
    | group _ _ low high each =>
        have some : members ≠ [] := List.ne_nil_of_length_pos (Nat.le_trans low high)
        rw [if_neg some]
        exact ⟨⟨low, high⟩, each⟩
  · rintro ⟨bounds, each⟩
    split at bounds
    · rename_i empty
      subst empty bounds
      exact .none
    · exact .group threshold members bounds.1 bounds.2 each

/-- No group in range asks for more members than it has. -/
theorem InRange.enough {threshold : Nat} {members : List Quorum}
    (range : (Quorum.group threshold members).InRange) : threshold ≤ members.length := by
  have bounds := (inRange_group_iff.1 range).1
  split at bounds
  · omega
  · exact bounds.2

/-- More witnesses never stop a quorum from being satisfied, and no others matter than those
at its leaves. -/
theorem isSatisfied_mono {fewer more : List KeyHash} {q : Quorum}
    (sub : ∀ w ∈ q.leaves, w ∈ fewer → w ∈ more) (h : q.isSatisfied fewer = true) :
    q.isSatisfied more = true := by
  induction q with
  | witness key =>
      rw [isSatisfied_witness] at h ⊢
      exact sub key (by simp) h
  | group threshold members ih =>
      rw [isSatisfied_group] at h ⊢
      refine Nat.le_trans h (List.countP_mono_left fun q hq hs => ih q hq (fun w hw => ?_) hs)
      exact sub w (by simpa using ⟨q, hq, hw⟩)

theorem isSatisfied_perm {as bs : List KeyHash} (perm : as.Perm bs) (q : Quorum) :
    q.isSatisfied as = q.isSatisfied bs := by
  rw [Bool.eq_iff_iff]
  constructor
  · exact isSatisfied_mono fun w _ => perm.mem_iff.1
  · exact isSatisfied_mono fun w _ => perm.mem_iff.2

theorem mem_witnesses_iff {q : Quorum} {key : KeyHash} : key ∈ q.witnesses ↔ key ∈ q.leaves :=
  mem_ascending

/-- Of what satisfies a quorum, the quorum's own witnesses are enough, and whatever comes with
them does no harm. That goes for all quorums, in range or not. -/
theorem satisfied_by_own (q : Quorum) {as bs : List KeyHash}
    (own : as.filter (· ∈ q.witnesses) ⊆ bs) (satisfied : q.isSatisfied as = true) :
    q.isSatisfied bs = true := by
  refine isSatisfied_mono (fun w leaf mem => own ?_) satisfied
  have counts : w ∈ q.witnesses := mem_witnesses_iff.2 leaf
  exact List.mem_filter.2 ⟨mem, decide_eq_true counts⟩

/-- One group has its witness twice, another one asks for more than it has. -/
theorem satisfied_by_own_nested :
    let key := Octets.fill .keyHash
    let q := group 2 [group 2 [witness (key 1), witness (key 1)], group 9 [witness (key 2)], none]
    ¬[key 1, key 3] ⊆ [key 2, key 1] ∧ q.isSatisfied [key 1, key 3] = true ∧
      q.isSatisfied [key 2, key 1] = true := by
  intro key q
  have satisfied : q.isSatisfied [key 1, key 3] = true := by decide
  exact ⟨by decide, satisfied, satisfied_by_own q (by decide) satisfied⟩

/-- All the witnesses at its leaves together satisfy a quorum that is in range. -/
theorem InRange.isSatisfied {verified : List KeyHash} {q : Quorum} (range : q.InRange)
    (all : q.leaves ⊆ verified) : q.isSatisfied verified = true := by
  induction q with
  | witness key =>
      rw [isSatisfied_witness]
      exact all (by simp)
  | group threshold members ih =>
      have each := (inRange_group_iff.1 range).2
      have every : members.countP (Quorum.isSatisfied verified) = members.length := by
        refine List.countP_eq_length.2 fun q hq => ih q hq (each q hq) fun w hw => all ?_
        simpa using ⟨q, hq, hw⟩
      rw [isSatisfied_group, every]
      exact range.enough

end Witnessed.Quorum
