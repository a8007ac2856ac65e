import Witnessed.Proofs.Except
import Witnessed.Proofs.KeyMap
import Witnessed.TreeHead

/-!
Collecting cosignatures. A collection holds just the cosignatures added to it, each under the key
hash of its witness and in the order of the key hashes, whatever the order they came in.
-/

namespace Witnessed.CosignedTreeHead

variable {head head' : CosignedTreeHead} {cs : List Cosignature}

/-- Every cosignature is held under the key hash of its own witness. -/
def Own (head : CosignedTreeHead) : Prop :=
  ∀ entry ∈ head.cosignatures.entries, entry.1 = entry.2.witness

/-- What a call answers, and what it leaves. -/
theorem run_enter (c : Cosignature) (head : CosignedTreeHead) :
    (enter c).run head =
      if head.cosignatures.contains c.witness then
        .error (.duplicateCosignature c.witness) head
      else
        .ok () { head with cosignatures := head.cosignatures.insert c.witness c } := by
  unfold enter
  by_cases known : head.cosignatures.contains c.witness <;> simp [known]

theorem add_eq (head : CosignedTreeHead) (c : Cosignature) :
    head.add c =
      if head.cosignatures.contains c.witness then .error (.duplicateCosignature c.witness)
      else .ok { head with cosignatures := head.cosignatures.insert c.witness c } := by
  unfold add
  rw [run_enter]
  by_cases known : head.cosignatures.contains c.witness
  · rw [if_pos known, if_pos known]
  · rw [if_neg known, if_neg known]

theorem add_ok_iff {c : Cosignature} :
    head.add c = .ok head' ↔ head.cosignatures.contains c.witness = false ∧
      head' = { head with cosignatures := head.cosignatures.insert c.witness c } := by
  cases known : head.cosignatures.contains c.witness <;> simp [add_eq, known, eq_comm]

theorem add_error_iff {c : Cosignature} {e : TreeHeadError} :
    head.add c = .error e ↔ head.cosignatures.contains c.witness = true ∧
      e = .duplicateCosignature c.witness := by
  cases known : head.cosignatures.contains c.witness <;> simp [add_eq, known, eq_comm]

/-- Cosignatures can be added when they are of different witnesses, all of them new. -/
theorem exists_addAll_iff :
    (∃ head', head.addAll cs = .ok head') ↔
      (cs.map (·.witness)).Nodup ∧
        ∀ c ∈ cs, head.cosignatures.contains c.witness = false := by
  induction cs generalizing head with
  | nil => simp [addAll]
  | cons c rest ih =>
      simp only [addAll, bind_ok_iff, add_ok_iff, List.map_cons, List.nodup_cons,
        List.forall_mem_cons, List.mem_map]
      constructor
      · rintro ⟨head', next, ⟨absent, rfl⟩, added⟩
        obtain ⟨distinct, others⟩ := ih.1 ⟨head', added⟩
        simp only [KeyMap.contains_insert, Bool.or_eq_false_iff, decide_eq_false_iff_not] at others
        exact ⟨⟨fun ⟨d, mem, same⟩ => (others d mem).1 same, distinct⟩, absent,
          fun d mem => (others d mem).2⟩
      · rintro ⟨⟨new, distinct⟩, absent, others⟩
        have later : ∀ d ∈ rest,
            (head.cosignatures.insert c.witness c).contains d.witness = false := by
          intro d mem
          rw [KeyMap.contains_insert, others d mem, Bool.or_false, decide_eq_false_iff_not]
          exact fun same => new ⟨d, mem, same⟩
        obtain ⟨head', added⟩ := (@ih { head with
          cosignatures := head.cosignatures.insert c.witness c }).2 ⟨distinct, later⟩
        exact ⟨head', _, ⟨absent, rfl⟩, added⟩

theorem exists_ofList_iff {signed : SignedTreeHead} :
    (∃ head, ofList signed cs = .ok head) ↔ (cs.map (·.witness)).Nodup := by
  rw [ofList, exists_addAll_iff]
  simp [ofSigned, KeyMap.contains]

theorem addAll_signed (h : head.addAll cs = .ok head') : head'.signed = head.signed := by
  induction cs generalizing head with
  | nil => cases h; rfl
  | cons c rest ih =>
      obtain ⟨next, added, h⟩ := bind_ok_iff.1 h
      obtain ⟨_, rfl⟩ := add_ok_iff.1 added
      have signed := ih h
      exact signed

/-- Nothing is lost, and nothing else is held. -/
theorem addAll_perm (h : head.addAll cs = .ok head') :
    head'.cosignatures.entries.Perm
      (cs.map (fun c => (c.witness, c)) ++ head.cosignatures.entries) := by
  induction cs generalizing head with
  | nil => cases h; exact .refl _
  | cons c rest ih =>
      obtain ⟨next, added, h⟩ := bind_ok_iff.1 h
      obtain ⟨absent, rfl⟩ := add_ok_iff.1 added
      have first := KeyMap.insert_perm absent c
      exact (ih h).trans ((first.append_left _).trans List.perm_middle)

theorem ofList_perm {signed : SignedTreeHead} (h : ofList signed cs = .ok head) :
    head.cosignatures.entries.Perm (cs.map fun c => (c.witness, c)) := by
  simpa [ofSigned, KeyMap.empty] using addAll_perm h

/-- Cosignatures are refused for the first of them that cannot be added. -/
theorem addAll_error_iff {e : TreeHeadError} :
    head.addAll cs = .error e ↔ ∃ before c after head', cs = before ++ c :: after ∧
      head.addAll before = .ok head' ∧ head'.add c = .error e := by
  induction cs generalizing head with
  | nil => simp [addAll]
  | cons c rest ih =>
      simp only [addAll, bind_error_iff, ih]
      constructor
      · rintro (refused | ⟨next, added, before, d, after, head', rfl, others, refused⟩)
        · exact ⟨[], c, rest, head, rfl, rfl, refused⟩
        · exact ⟨c :: before, d, after, head', rfl, bind_ok_iff.2 ⟨next, added, others⟩, refused⟩
      · rintro ⟨before, d, after, head', split, others, refused⟩
        cases before with
        | nil =>
            obtain ⟨rfl, rfl⟩ := List.cons.inj split
            cases others
            exact .inl refused
        | cons first before =>
            obtain ⟨rfl, rfl⟩ := List.cons.inj split
            obtain ⟨next, added, others⟩ := bind_ok_iff.1 others
            exact .inr ⟨next, added, before, d, after, head', rfl, others, refused⟩

theorem ofList_contains_iff {signed : SignedTreeHead} (h : ofList signed cs = .ok head)
    {key : KeyHash} :
    head.cosignatures.contains key = true ↔ key ∈ cs.map (·.witness) := by
  have keys := (ofList_perm h).map (·.1)
  rw [List.map_map] at keys
  rw [← KeyMap.mem_keys_iff]
  exact keys.mem_iff

/-- A list is refused for the first position that has the key hash of an earlier one. -/
theorem ofList_error_iff {signed : SignedTreeHead} {e : TreeHeadError} :
    ofList signed cs = .error e ↔ ∃ before c after, cs = before ++ c :: after ∧
      (before.map (·.witness)).Nodup ∧ c.witness ∈ before.map (·.witness) ∧
        e = .duplicateCosignature c.witness := by
  rw [ofList, addAll_error_iff]
  constructor
  · rintro ⟨before, c, after, head', split, collected, refused⟩
    obtain ⟨held, rfl⟩ := add_error_iff.1 refused
    have distinct := exists_ofList_iff.1 ⟨head', collected⟩
    exact ⟨before, c, after, split, distinct, (ofList_contains_iff collected).1 held, rfl⟩
  · rintro ⟨before, c, after, split, distinct, again, rfl⟩
    obtain ⟨head', collected⟩ := (@exists_ofList_iff before signed).2 distinct
    have held := (ofList_contains_iff collected).2 again
    exact ⟨before, c, after, head', split, collected, add_error_iff.2 ⟨held, rfl⟩⟩

theorem ofList_signed {signed : SignedTreeHead} (h : ofList signed cs = .ok head) :
    head.signed = signed :=
  addAll_signed h

theorem ofList_own {signed : SignedTreeHead} (h : ofList signed cs = .ok head) : head.Own := by
  intro entry mem
  obtain ⟨c, _, rfl⟩ := List.mem_map.1 ((ofList_perm h).mem_iff.1 mem)
  rfl

theorem ofList_values_perm {signed : SignedTreeHead} (h : ofList signed cs = .ok head) :
    head.cosignatures.values.Perm cs := by
  have perm := (ofList_perm h).map (·.2)
  simpa [KeyMap.values, Function.comp_def] using perm

theorem Own.ascending (own : head.Own) :
    head.cosignatures.values.Pairwise fun a b => a.witness < b.witness := by
  refine List.pairwise_map.2 (head.cosignatures.ascending.imp_of_mem fun ha hb lt => ?_)
  rwa [own _ ha, own _ hb] at lt

/-- The cosignatures come out as they went in when they went in ascending. -/
theorem ofList_values_eq_iff {signed : SignedTreeHead} (h : ofList signed cs = .ok head) :
    head.cosignatures.values = cs ↔ cs.Pairwise fun a b => a.witness < b.witness := by
  have ascending := (ofList_own h).ascending
  constructor
  · intro same
    exact same ▸ ascending
  · intro sorted
    refine (ofList_values_perm h).eq_of_pairwise (fun a b _ _ ab ba => ?_) ascending sorted
    exact absurd (Octets.lt_trans ab ba) (Octets.lt_irrefl a.witness)

theorem ofSigned_own (signed : SignedTreeHead) : (ofSigned signed).Own :=
  fun _ mem => absurd mem List.not_mem_nil

theorem Own.add {c : Cosignature} (own : head.Own) (added : head.add c = .ok head') :
    head'.Own := by
  obtain ⟨absent, rfl⟩ := add_ok_iff.1 added
  intro entry mem
  rcases List.mem_cons.1 ((KeyMap.insert_perm absent c).mem_iff.1 mem) with rfl | mem
  · rfl
  · exact own entry mem

/-- Collected once more, the cosignatures of a collection make the same collection. -/
theorem Own.ofList_values (own : head.Own) :
    ofList head.signed head.cosignatures.values = .ok head := by
  have distinct : (head.cosignatures.values.map (·.witness)).Nodup := by
    refine List.pairwise_map.2 (own.ascending.imp fun lt eq => ?_)
    exact Octets.lt_irrefl _ (eq ▸ lt)
  obtain ⟨head', collected⟩ := exists_ofList_iff.2 distinct
  have entries : head.cosignatures.values.map (fun c => (c.witness, c)) =
      head.cosignatures.entries := by
    rw [KeyMap.values, List.map_map]
    refine (List.map_congr_left fun e mem => ?_).trans (List.map_id _)
    exact Prod.ext (own e mem).symm rfl
  have same : head'.cosignatures = head.cosignatures :=
    KeyMap.eq_of_perm (entries ▸ ofList_perm collected)
  have signed := ofList_signed collected
  rw [collected]
  obtain ⟨_, _⟩ := head
  obtain ⟨_, _⟩ := head'
  simp only at same signed
  rw [same, signed]

end Witnessed.CosignedTreeHead
