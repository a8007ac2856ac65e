import Witnessed.Policy.Verdict
import Witnessed.Proofs.Policy.Strength

/-!
The verdict of a policy in terms of the declarations that it comes from. Registries and tallies
do not occur in it: a log or a witness is known when it was declared, and a cosignature counts
when the one declared witness of its key hash made it.
-/

namespace Witnessed.Policy

variable {suite : Suite} {p : Policy} {known : List Entity} {origin : String} {head : TreeHead}

/-! ## One cosignature -/

/-- Whether one of the entities has the key with the given hash. -/
def knows (suite : Suite) (known : List Entity) (key : KeyHash) : Bool :=
  known.any fun entity => suite.keyHash entity.key = key

/-- Whether the one entity with the key that a cosignature is held under did sign the tree head
at the time that the cosignature gives. -/
def vouches (suite : Suite) (known : List Entity) (origin : String) (head : TreeHead)
    (entry : KeyHash × Cosignature) : Bool :=
  known.any fun entity => suite.keyHash entity.key = entry.1 &&
    suite.verify entity.key (utf8 (head.cosigned origin entry.2.time)) entry.2.signature

theorem knows_of_vouches {entry : KeyHash × Cosignature}
    (h : vouches suite known origin head entry = true) : knows suite known entry.1 = true := by
  simp only [vouches, knows, List.any_eq_true, Bool.and_eq_true] at h ⊢
  obtain ⟨entity, mem, same, _⟩ := h
  exact ⟨entity, mem, same⟩

theorem knows_of_found (held : p.witnesses.Holds suite known) {key : KeyHash} {witness : Entity}
    (found : p.witness? key = some witness) : knows suite known key = true := by
  obtain ⟨mem, same⟩ := (held key witness).1 found
  exact List.any_eq_true.2 ⟨witness, mem, decide_eq_true same⟩

theorem vouches_of_found (held : p.witnesses.Holds suite known)
    {entry : KeyHash × Cosignature} {witness : Entity}
    (found : p.witness? entry.1 = some witness) :
    vouches suite known origin head entry = entry.2.verify suite witness.key origin head := by
  obtain ⟨mem, same⟩ := (held entry.1 witness).1 found
  rw [Bool.eq_iff_iff]
  simp only [vouches, List.any_eq_true, Bool.and_eq_true, decide_eq_true_eq]
  constructor
  · rintro ⟨entity, mem', same', signed⟩
    rwa [held.unique mem' mem (same'.trans same.symm)] at signed
  · intro signed
    exact ⟨witness, mem, same, signed⟩

theorem knows_of_absent (held : p.witnesses.Holds suite known) {key : KeyHash}
    (absent : p.witness? key = none) : knows suite known key = false := by
  rw [knows, List.any_eq_false]
  intro entity mem same
  have found := (held key entity).2 ⟨mem, of_decide_eq_true same⟩
  rw [← witness?, absent] at found
  contradiction

/-- What one cosignature adds to a tally. -/
theorem count_eq (held : p.witnesses.Holds suite known) (tally : Tally)
    (entry : KeyHash × Cosignature) :
    p.count suite origin head tally entry =
      ⟨tally.verified ++ if vouches suite known origin head entry then [entry.1] else [],
        tally.failed +
          if knows suite known entry.1 && !vouches suite known origin head entry then 1 else 0,
        tally.ignored + if !knows suite known entry.1 then 1 else 0⟩ := by
  cases found : p.witness? entry.1 with
  | none =>
      have unknown := knows_of_absent held found
      have mute : vouches suite known origin head entry = false := by
        cases speaks : vouches suite known origin head entry with
        | false => rfl
        | true => exact absurd (knows_of_vouches speaks) (by simp [unknown])
      simp [count, found, unknown, mute]
  | some witness =>
      have known := knows_of_found held found
      have speaks := @vouches_of_found _ _ _ origin head held _ _ found
      cases signed : entry.2.verify suite witness.key origin head <;>
        simp [count, found, known, speaks, signed]

/-! ## All cosignatures -/

/-- The known witnesses among those that cosigned, without the ones whose cosignature does not
verify. -/
def vouching (suite : Suite) (known : List Entity) (origin : String) (head : CosignedTreeHead) :
    List KeyHash :=
  (head.cosignatures.entries.filter (vouches suite known origin head.signed.head)).map (·.1)

/-- How many known witnesses have a cosignature that does not verify. -/
def failing (suite : Suite) (known : List Entity) (origin : String) (head : CosignedTreeHead) :
    Nat :=
  head.cosignatures.entries.countP fun entry =>
    knows suite known entry.1 && !vouches suite known origin head.signed.head entry

/-- How many cosignatures are of witnesses that are not known. -/
def unknown (suite : Suite) (known : List Entity) (head : CosignedTreeHead) : Nat :=
  head.cosignatures.entries.countP fun entry => !knows suite known entry.1

theorem vouching_nodup (head : CosignedTreeHead) :
    (vouching suite known origin head).Nodup := by
  have sub := (List.filter_sublist (l := head.cosignatures.entries)
    (p := vouches suite known origin head.signed.head)).map (·.1)
  exact head.cosignatures.nodup_keys.sublist sub

theorem mem_vouching_iff {head : CosignedTreeHead} {key : KeyHash} :
    key ∈ vouching suite known origin head ↔
      ∃ c, head.cosignatures.find? key = some c ∧ ∃ entity ∈ known,
        suite.keyHash entity.key = key ∧
        suite.verify entity.key (utf8 (head.signed.head.cosigned origin c.time)) c.signature := by
  simp [vouching, vouches, KeyMap.mem_entries_iff]

theorem fold_count (held : p.witnesses.Holds suite known) (entries : List (KeyHash × Cosignature))
    (tally : Tally) :
    entries.foldl (p.count suite origin head) tally =
      ⟨tally.verified ++ (entries.filter (vouches suite known origin head)).map (·.1),
        tally.failed + entries.countP fun entry =>
          knows suite known entry.1 && !vouches suite known origin head entry,
        tally.ignored + entries.countP fun entry => !knows suite known entry.1⟩ := by
  induction entries generalizing tally with
  | nil => simp
  | cons entry rest ih =>
      rw [List.foldl_cons, ih, count_eq held]
      simp only [List.countP_cons, List.filter_cons, Tally.mk.injEq]
      refine ⟨?_, by omega, by omega⟩
      split <;> simp

theorem tally_eq (held : p.witnesses.Holds suite known) (head : CosignedTreeHead) :
    p.tally suite origin head =
      ⟨vouching suite known origin head, failing suite known origin head,
        unknown suite known head⟩ := by
  rw [tally, fold_count held]
  simp [vouching, failing, unknown]

/-- Every cosignature is counted in one way. -/
theorem size_eq_counts (suite : Suite) (known : List Entity) (origin : String)
    (head : CosignedTreeHead) :
    head.cosignatures.size = (vouching suite known origin head).length +
      failing suite known origin head + unknown suite known head := by
  simp only [KeyMap.size, vouching, failing, unknown, List.length_map,
    ← List.countP_eq_length_filter]
  induction head.cosignatures.entries with
  | nil => rfl
  | cons entry rest ih =>
      have knows := @knows_of_vouches suite known origin head.signed.head entry
      simp only [List.length_cons, List.countP_cons]
      grind

/-! ## The verdict -/

section Verify

variable {log : KeyHash} {entity : Entity} {head : CosignedTreeHead}

theorem verify_of_absent (absent : p.log? log = none) :
    p.verify suite log head = .error (.unknownLog log) := by
  rw [verify, absent]

theorem verify_of_forged (found : p.log? log = some entity)
    (forged : head.signed.verifyFor suite entity.key (originOf log) = false) :
    p.verify suite log head = .error .invalidLogSignature := by
  simp [verify, found, forged]

theorem verify_of_signed (held : p.witnesses.Holds suite known)
    (found : p.log? log = some entity)
    (signed : head.signed.verifyFor suite entity.key (originOf log) = true) :
    p.verify suite log head =
      if p.quorum.isSatisfied (vouching suite known (originOf log) head) then
        .ok ⟨head.cosignatures.size, (vouching suite known (originOf log) head).length,
          failing suite known (originOf log) head, unknown suite known head⟩
      else
        .error (.insufficientCosignatures head.cosignatures.size
          (vouching suite known (originOf log) head).length
          (failing suite known (originOf log) head)) := by
  simp only [verify, found, signed, tally_eq held, ↓reduceIte]

end Verify

/-- A log is unknown when none of the declared keys has its hash, and its signature is invalid
when the key with its hash did not make it. Otherwise it all depends on the witnesses that
vouch for the tree head, and no cosignature is left out of the counts. -/
theorem Made.verdict {ds : List Declaration} (h : Made suite ds p) (log : KeyHash)
    (head : CosignedTreeHead) :
    let origin := originOf log
    let signs := fun entity : Entity =>
      suite.verify entity.key (utf8 (head.signed.head.body origin)) head.signed.signature
    let verified := vouching suite (witnessesOf ds) origin head
    let failed := failing suite (witnessesOf ds) origin head
    let ignored := unknown suite (witnessesOf ds) head
    (p.verify suite log head = .error (.unknownLog log) ↔
      ∀ entity ∈ logsOf ds, suite.keyHash entity.key ≠ log) ∧
    (p.verify suite log head = .error .invalidLogSignature ↔
      ∃ entity ∈ logsOf ds, suite.keyHash entity.key = log ∧ signs entity = false) ∧
    (∀ entity ∈ logsOf ds, suite.keyHash entity.key = log → signs entity = true →
      p.verify suite log head =
        if p.quorum.isSatisfied verified then
          .ok ⟨head.cosignatures.size, verified.length, failed, ignored⟩
        else
          .error (.insufficientCosignatures head.cosignatures.size verified.length failed)) ∧
    head.cosignatures.size = verified.length + failed + ignored ∧ verified.Nodup ∧
    ∀ key, key ∈ verified ↔ ∃ c, head.cosignatures.find? key = some c ∧
      ∃ entity ∈ witnessesOf ds, suite.keyHash entity.key = key ∧
        suite.verify entity.key (utf8 (head.signed.head.cosigned origin c.time))
          c.signature = true := by
  intro origin signs verified failed ignored
  have held : ∀ entity, p.log? log = some entity ↔
      entity ∈ logsOf ds ∧ suite.keyHash entity.key = log := h.logs log
  refine ⟨?_, ?_, ?_, size_eq_counts .., vouching_nodup head, fun key => mem_vouching_iff⟩
  · constructor
    · intro unknown entity mem same
      have found := (held entity).2 ⟨mem, same⟩
      cases signed : signs entity with
      | false => simp [verify_of_forged found signed] at unknown
      | true =>
          rw [verify_of_signed h.witnesses found signed] at unknown
          split at unknown <;> simp at unknown
    · intro none
      apply verify_of_absent
      rw [Option.eq_none_iff_forall_ne_some]
      intro entity found
      obtain ⟨mem, same⟩ := (held entity).1 found
      exact none entity mem same
  · constructor
    · intro invalid
      cases found : p.log? log with
      | none => simp [verify_of_absent found] at invalid
      | some entity =>
          obtain ⟨mem, same⟩ := (held entity).1 found
          cases signed : signs entity with
          | false => exact ⟨entity, mem, same, signed⟩
          | true =>
              rw [verify_of_signed h.witnesses found signed] at invalid
              split at invalid <;> simp at invalid
    · rintro ⟨entity, mem, same, forged⟩
      exact verify_of_forged ((held entity).2 ⟨mem, same⟩) forged
  · intro entity mem same signed
    exact verify_of_signed h.witnesses ((held entity).2 ⟨mem, same⟩) signed

/-- One cosignature that verifies, one that does not, and one of a witness nobody declared. -/
def cosignedByThree : CosignedTreeHead where
  signed := ⟨⟨5, .fill .hash 0⟩, .fill .signature 1⟩
  cosignatures := [(2, 1), (3, 0), (9, 1)].foldl (fun cosignatures entry =>
    let witness := Suite.plain.keyHash (.fill .publicKey entry.1)
    cosignatures.insert witness ⟨witness, 7, .fill .signature entry.2⟩) .empty

theorem verdict_nested :
    ∃ p, Made .plain nestedDeclarations p ∧
      p.verify .plain (Suite.plain.keyHash (.fill .publicKey 1)) cosignedByThree =
        .ok ⟨3, 1, 1, 1⟩ := by
  have made : Made .plain nestedDeclarations _ := .built nestedDeclarations rfl
  refine ⟨_, made, ?_⟩
  have verdict := (made.verdict (Suite.plain.keyHash (.fill .publicKey 1)) cosignedByThree).2.2.1
    (.filled 1) (by decide) rfl rfl
  rw [verdict]
  rfl

end Witnessed.Policy
