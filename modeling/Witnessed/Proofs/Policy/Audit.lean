import Witnessed.Policy.Audit
import Witnessed.Proofs.Policy.Strength
import Witnessed.Proofs.Quorum.Parts

/-!
What the checks of a policy check. Each of them passes just when the quorum is as it should be,
and whatever comes of declarations, accepted as they are or read from a text, passes them all.
-/

namespace Witnessed

namespace Quorum

theorem checkAllThresholds_ok_iff {members : List Quorum} :
    checkAllThresholds members = .ok () ↔ ∀ q ∈ members, q.checkThresholds = .ok () := by
  induction members with
  | nil => simp [checkAllThresholds]
  | cons q rest ih =>
      rw [checkAllThresholds, bind_ok_iff, List.forall_mem_cons, ← ih]
      constructor
      · rintro ⟨⟨⟩, first, others⟩
        exact ⟨first, others⟩
      · rintro ⟨first, others⟩
        exact ⟨(), first, others⟩

theorem checkThresholds_ok_iff {q : Quorum} : q.checkThresholds = .ok () ↔ q.InRange := by
  induction q with
  | witness key => exact ⟨fun _ => .witness key, fun _ => rfl⟩
  | group threshold members ih =>
      rw [checkThresholds, inRange_group_iff]
      by_cases empty : members = []
      · by_cases nothing : threshold = 0 <;> simp [empty, nothing]
      · by_cases bounds : 1 ≤ threshold ∧ threshold ≤ members.length
        · have each : (∀ q ∈ members, q.checkThresholds = .ok ()) ↔ ∀ q ∈ members, q.InRange :=
            forall₂_congr ih
          simp [empty, bounds, checkAllThresholds_ok_iff, each]
        · simp [empty, bounds]

/-- The check of thresholds looks at every group at every depth. What passes it can be satisfied,
by the quorum's own witnesses, and unless it has an empty group it cannot be satisfied by others,
and least of all by nobody. -/
theorem guards_thresholds (q : Quorum) :
    (q.checkThresholds = .ok () ↔ ∀ threshold members, (group threshold members).Part q →
      (members = [] ∧ threshold = 0) ∨ (1 ≤ threshold ∧ threshold ≤ members.length)) ∧
    (q.checkThresholds = .ok () → q.isSatisfied q.witnesses = true) ∧
    (q.checkThresholds = .ok () → (∀ threshold, ¬(group threshold []).Part q) →
      (∀ verified : List KeyHash, (∀ w ∈ verified, w ∉ q.witnesses) →
        q.isSatisfied verified = false) ∧
      q.isSatisfied [] = false) := by
  rw [checkThresholds_ok_iff]
  refine ⟨inRange_iff_parts, fun range => ?_, fun range inhabited => ?_⟩
  · exact range.isSatisfied fun w leaf => mem_witnesses_iff.2 leaf
  · have strangers : ∀ verified : List KeyHash, (∀ w ∈ verified, w ∉ q.witnesses) →
        q.isSatisfied verified = false := by
      intro verified apart
      apply unsatisfied_by_strangers range inhabited
      exact fun w leaf mem => apart w mem (mem_witnesses_iff.2 leaf)
    exact ⟨strangers, strangers [] nofun⟩

/-- One witness stands in two groups, and the set of others is larger than the quorum. -/
theorem guards_thresholds_nested :
    let key := Octets.fill .keyHash
    let inner := group 1 [witness (key 1), witness (key 2)]
    let q := group 2 [inner, group 2 [witness (key 1), inner], witness (key 3)]
    q.checkThresholds = .ok () ∧ q.isSatisfied q.witnesses = true ∧
      (∀ threshold, ¬(group threshold []).Part q) ∧
      (∀ w ∈ [key 4, key 5, key 6, key 7], w ∉ q.witnesses) ∧
      q.isSatisfied [key 4, key 5, key 6, key 7] = false ∧ q.isSatisfied [] = false := by
  intro key inner q
  obtain ⟨_, own, others⟩ := guards_thresholds q
  have passes : q.checkThresholds = .ok () := by decide
  have inhabited := (@emptyCount_eq_zero_iff q).1 rfl
  have apart : ∀ w ∈ [key 4, key 5, key 6, key 7], w ∉ q.witnesses := by decide
  obtain ⟨unsatisfied, nobody⟩ := others passes inhabited
  exact ⟨passes, own passes, inhabited, apart, unsatisfied _ apart, nobody⟩

end Quorum

namespace Policy

variable {suite : Suite} {ds : List Declaration} {p : Policy}

/-- The check of two sets of witnesses finds nothing but sets that are not one within the other. -/
theorem checkMonotone_ok_iff {fewer more : List KeyHash} :
    p.checkMonotone fewer more = .ok () ↔ fewer ⊆ more := by
  have within : fewer.all more.contains = true ↔ fewer ⊆ more := by
    simp [List.subset_def]
  by_cases sub : fewer ⊆ more
  · have kept : p.quorum.isSatisfied fewer = true → p.quorum.isSatisfied more = true :=
      Quorum.isSatisfied_mono fun w _ mem => sub mem
    have same : (p.quorum.isSatisfied fewer && !p.quorum.isSatisfied more) = false := by
      rw [Bool.and_eq_false_imp]
      intro satisfied
      rw [kept satisfied]
      rfl
    simp [checkMonotone, within.2 sub, same, sub]
  · simp [checkMonotone, within, sub]

theorem checkRegistered_ok_iff :
    p.checkRegistered = .ok () ↔ ∀ w ∈ p.quorum.leaves, p.witnesses.contains w = true := by
  rw [checkRegistered]
  split
  · rename_i w found
    have absent := List.find?_some found
    have mem := Quorum.mem_witnesses_iff.1 (List.mem_of_find?_eq_some found)
    refine ⟨nofun, fun known => ?_⟩
    simp [known w mem] at absent
  · rename_i none
    refine ⟨fun _ w mem => ?_, fun _ => rfl⟩
    simpa using List.find?_eq_none.1 none w (Quorum.mem_witnesses_iff.2 mem)

theorem checkReachable_ok_iff :
    p.checkReachable = .ok () ↔ p.quorum.isSatisfied p.witnesses.keys = true := by
  by_cases satisfied : p.quorum.isSatisfied p.witnesses.keys = true <;>
    simp [checkReachable, satisfied]

/-- Every policy that comes about refers to registered witnesses only, asks every group for what
it can give, and can be satisfied by the witnesses that are registered: it passes all checks. -/
theorem Made.passes_checks (h : Made suite ds p) :
    ((∀ w ∈ p.quorum.leaves, p.witnesses.contains w = true) ∧ p.quorum.InRange ∧
      p.quorum.isSatisfied p.witnesses.keys = true) ∧
    p.checkRegistered = .ok () ∧ p.quorum.checkThresholds = .ok () ∧
      p.checkReachable = .ok () := by
  obtain ⟨_, known, range⟩ := h.sound
  have reachable : p.quorum.isSatisfied p.witnesses.keys = true :=
    range.isSatisfied fun w leaf => KeyMap.mem_keys_iff.2 (known w leaf)
  exact ⟨⟨known, range, reachable⟩, checkRegistered_ok_iff.2 known,
    Quorum.checkThresholds_ok_iff.2 range, checkReachable_ok_iff.2 reachable⟩

/-- The quorum here is a group over a group and over the empty group. -/
theorem Made.passes_checks_nested :
    ∃ p, Made .plain nestedDeclarations p ∧ p.quorum.leaves.length = 3 ∧
      p.quorum.isSatisfied p.witnesses.keys = true ∧ p.checkRegistered = .ok () ∧
      p.quorum.checkThresholds = .ok () ∧ p.checkReachable = .ok () := by
  have made : Made .plain nestedDeclarations _ := .built nestedDeclarations rfl
  obtain ⟨⟨_, _, reachable⟩, checks⟩ := made.passes_checks
  exact ⟨_, made, rfl, reachable, checks⟩

end Policy

end Witnessed
