import Witnessed.Proofs.TreeHead.Fields

/-!
Calls that put cosignatures into one tree head. A witness that has been heard before is refused and
nothing changes, so of each witness the first cosignature stays. What is collected from a list does
not depend on the order of the list, and neither does its text.
-/

namespace Witnessed.CosignedTreeHead

open Fields

variable {head : CosignedTreeHead} {signed : SignedTreeHead} {cs cs' : List Cosignature}
  {key : KeyHash}

/-! ## Calls -/

/-- What a call leaves, whether it is refused or not. -/
def leave (head : CosignedTreeHead) (c : Cosignature) : CosignedTreeHead :=
  match (enter c).run head with
  | .ok _ left => left
  | .error _ left => left

/-- What calls leave that come one after the other. -/
def after (head : CosignedTreeHead) (cs : List Cosignature) : CosignedTreeHead :=
  cs.foldl leave head

theorem leave_eq (head : CosignedTreeHead) (c : Cosignature) :
    head.leave c = { head with cosignatures := head.cosignatures.keep (·.witness) c } := by
  unfold leave KeyMap.keep
  rw [run_enter]
  cases head.cosignatures.contains c.witness <;> rfl

theorem after_eq (head : CosignedTreeHead) (cs : List Cosignature) :
    head.after cs = { head with cosignatures := head.cosignatures.keepAll (·.witness) cs } := by
  induction cs generalizing head with
  | nil => rfl
  | cons c rest ih =>
      rw [after, List.foldl_cons, ← after, ih, leave_eq]
      rfl

theorem after_concat (head : CosignedTreeHead) (cs : List Cosignature) (c : Cosignature) :
    head.after (cs ++ [c]) = (head.after cs).leave c :=
  List.foldl_append

theorem after_signed (head : CosignedTreeHead) (cs : List Cosignature) :
    (head.after cs).signed = head.signed := by
  rw [after_eq]

theorem Own.after (own : head.Own) (cs : List Cosignature) : (head.after cs).Own := by
  rw [after_eq]
  exact KeyMap.Own.keepAll own cs

/-- A lookup finds what was there before the calls, or else the first cosignature that comes. -/
theorem find?_after (head : CosignedTreeHead) (cs : List Cosignature) (key : KeyHash) :
    (head.after cs).cosignatures.find? key =
      (head.cosignatures.find? key).or (cs.find? fun c => c.witness = key) := by
  rw [after_eq]
  exact KeyMap.find?_keepAll ..

theorem contains_after (signed : SignedTreeHead) (cs : List Cosignature) (key : KeyHash) :
    ((ofSigned signed).after cs).cosignatures.contains key = true ↔
      key ∈ cs.map (·.witness) := by
  unfold KeyMap.contains
  rw [find?_after, ofSigned, KeyMap.find?_empty, Option.none_or, List.find?_isSome, List.mem_map]
  simp

/-- A call is refused just when an earlier one had the same key hash, and then it leaves everything
as it was. -/
theorem run_after (signed : SignedTreeHead) (before : List Cosignature) (c : Cosignature) :
    (enter c).run ((ofSigned signed).after before) =
      if c.witness ∈ before.map (·.witness) then
        .error (.duplicateCosignature c.witness) ((ofSigned signed).after before)
      else
        .ok () ((ofSigned signed).after (before ++ [c])) := by
  rw [run_enter, after_concat]
  by_cases again : c.witness ∈ before.map (·.witness)
  · rw [if_pos again, if_pos ((contains_after ..).2 again)]
  · have new : ((ofSigned signed).after before).cosignatures.contains c.witness = false := by
      rw [Bool.eq_false_iff]
      intro known
      exact again ((contains_after ..).1 known)
    rw [if_neg again, if_neg (Bool.eq_false_iff.1 new), leave_eq, KeyMap.keep, new]
    rfl

/-! ## Lists -/

theorem ofList_of_perm (perm : cs'.Perm cs) (h : ofList signed cs = .ok head) :
    ofList signed cs' = .ok head := by
  have distinct : (cs'.map (·.witness)).Nodup :=
    (perm.map _).nodup_iff.2 (exists_ofList_iff.1 ⟨head, h⟩)
  obtain ⟨head', collected⟩ := (@exists_ofList_iff cs' signed).2 distinct
  have entries : head'.cosignatures.entries.Perm head.cosignatures.entries :=
    ((ofList_perm collected).trans (perm.map _)).trans (ofList_perm h).symm
  have same : head' = head := by
    obtain ⟨_, _⟩ := head
    obtain ⟨_, _⟩ := head'
    rw [CosignedTreeHead.mk.injEq]
    exact ⟨(ofList_signed collected).trans (ofList_signed h).symm, KeyMap.eq_of_perm entries⟩
  rw [collected, same]

/-- What is collected has the text of its cosignatures in the order of their key hashes. -/
theorem render_of_ofList (h : ofList signed cs = .ok head) :
    ∃ sorted : List Cosignature, sorted.Perm cs ∧
      sorted.Pairwise (fun a b => a.witness < b.witness) ∧
      head.render = textOf signed sorted := by
  obtain rfl := ofList_signed h
  exact ⟨head.cosignatures.values, ofList_values_perm h, (ofList_own h).ascending, rfl⟩

/-- Of each witness the first cosignature is kept, under its own key hash; a call that brings
another one is refused and changes nothing. A list is taken when its key hashes differ, and then
every order of it makes the same collection with the same text; else it is refused for the first
key hash that comes again. -/
theorem keeps_first (signed : SignedTreeHead) :
    (∀ (before : List Cosignature) (c : Cosignature),
      (enter c).run ((ofSigned signed).after before) =
        if c.witness ∈ before.map (·.witness) then
          .error (.duplicateCosignature c.witness) ((ofSigned signed).after before)
        else
          .ok () ((ofSigned signed).after (before ++ [c]))) ∧
    (∀ cs : List Cosignature,
      let head := (ofSigned signed).after cs
      head.signed = signed ∧ head.Own ∧
        ∀ key, head.cosignatures.find? key = cs.find? fun c => c.witness = key) ∧
    (∀ cs : List Cosignature, (∃ head, ofList signed cs = .ok head) ↔
      (cs.map (·.witness)).Nodup) ∧
    (∀ cs : List Cosignature, (cs.map (·.witness)).Nodup →
      ∃ (head : CosignedTreeHead) (sorted : List Cosignature),
        sorted.Perm cs ∧ sorted.Pairwise (fun a b => a.witness < b.witness) ∧
        head.render = textOf signed sorted ∧
        ∀ cs' : List Cosignature, cs'.Perm cs → ofList signed cs' = .ok head) ∧
    ∀ (cs : List Cosignature) (e : TreeHeadError), ofList signed cs = .error e ↔
      ∃ before c after, cs = before ++ c :: after ∧ (before.map (·.witness)).Nodup ∧
        c.witness ∈ before.map (·.witness) ∧ e = .duplicateCosignature c.witness := by
  refine ⟨run_after signed, ?_, fun cs => exists_ofList_iff, ?_, fun cs e => ofList_error_iff⟩
  · intro cs head
    refine ⟨after_signed _ cs, (ofSigned_own signed).after cs, fun key => ?_⟩
    exact find?_after (ofSigned signed) cs key
  · intro cs distinct
    obtain ⟨head, collected⟩ := (@exists_ofList_iff cs signed).2 distinct
    obtain ⟨sorted, perm, ascending, text⟩ := render_of_ofList collected
    exact ⟨head, sorted, perm, ascending, text, fun cs' perm => ofList_of_perm perm collected⟩

/-- The first witness comes again, with a later time, behind a second one. -/
theorem keeps_first_again :
    let again : Cosignature := ⟨.fill .keyHash 2, 9, .fill .signature 1⟩
    let head := (ofSigned blank).after unsorted
    (enter again).run head = .error (.duplicateCosignature (.fill .keyHash 2)) head ∧
      ofList blank (unsorted ++ [again]) = .error (.duplicateCosignature (.fill .keyHash 2)) ∧
      ((unsorted.map (·.witness)).Nodup ∧ unsorted.reverse.Perm unsorted ∧
        ∃ collected sorted, ofList blank unsorted = .ok collected ∧
          ofList blank unsorted.reverse = .ok collected ∧ sorted.Perm unsorted ∧
          collected.render = textOf blank sorted) := by
  intro again head
  obtain ⟨calls, _, _, orders, refusals⟩ := keeps_first blank
  have distinct : (unsorted.map (·.witness)).Nodup := by decide
  obtain ⟨collected, sorted, perm, _, text, all⟩ := orders unsorted distinct
  refine ⟨calls unsorted again, ?_, distinct, unsorted.reverse_perm, collected, sorted,
    all unsorted (.refl _), all _ unsorted.reverse_perm, perm, text⟩
  exact (refusals _ _).2 ⟨unsorted, again, [], rfl, distinct, by decide, rfl⟩

end Witnessed.CosignedTreeHead
