import Witnessed.Proofs.Policy.Verdict

/-!
Verdicts on one tree head with fewer and with more cosignatures. What the log did is settled
before any cosignature is looked at. What speaks for the tree head keeps speaking for it, so that
a quorum is never lost, and cosignatures of strangers are counted and do nothing else.
-/

namespace Witnessed.Policy

variable {suite : Suite} {p : Policy} {known : List Entity} {log : KeyHash} {origin : String}
  {signed : SignedTreeHead} {fewer more : KeyMap Cosignature}

/-! ## The log's part -/

/-- Whether the log is known and did sign the tree head. -/
def logSigned (suite : Suite) (p : Policy) (log : KeyHash) (signed : SignedTreeHead) : Prop :=
  ∃ entity, p.log? log = some entity ∧
    signed.verifyFor suite entity.key (originOf log) = true

/-- Unless the log is known and did sign, there is one and the same final error, whatever the
cosignatures are. -/
theorem refused_of_not_logSigned (unsigned : ¬p.logSigned suite log signed) :
    ∃ e : VerifyError, e.isRetryable = false ∧
      ∀ cosignatures, p.verify suite log ⟨signed, cosignatures⟩ = .error e := by
  cases found : p.log? log with
  | none => exact ⟨.unknownLog log, rfl, fun _ => verify_of_absent found⟩
  | some entity =>
      have forged : signed.verifyFor suite entity.key (originOf log) = false := by
        rw [← Bool.not_eq_true]
        intro verifies
        exact unsigned ⟨entity, found, verifies⟩
      exact ⟨.invalidLogSignature, rfl, fun _ => verify_of_forged found forged⟩

section Signed

variable (held : p.witnesses.Holds suite known) (logs : p.logSigned suite log signed)

include held logs

/-- Once the log is known to have signed, the witnesses that vouch for the tree head decide. -/
theorem verify_of_logSigned (cosignatures : KeyMap Cosignature) :
    let head : CosignedTreeHead := ⟨signed, cosignatures⟩
    let verified := vouching suite known (originOf log) head
    let failed := failing suite known (originOf log) head
    p.verify suite log head =
      if p.quorum.isSatisfied verified then
        .ok ⟨cosignatures.size, verified.length, failed, unknown suite known head⟩
      else
        .error (.insufficientCosignatures cosignatures.size verified.length failed) := by
  intro head verified failed
  obtain ⟨entity, found, verifies⟩ := logs
  exact @verify_of_signed _ _ _ _ _ head held found verifies

theorem ok_iff_of_logSigned {cosignatures : KeyMap Cosignature} :
    (∃ r, p.verify suite log ⟨signed, cosignatures⟩ = .ok r) ↔
      p.quorum.isSatisfied (vouching suite known (originOf log) ⟨signed, cosignatures⟩) = true := by
  rw [verify_of_logSigned held logs]
  split
  · rename_i satisfied
    exact ⟨fun _ => satisfied, fun _ => ⟨_, rfl⟩⟩
  · rename_i missed
    exact ⟨nofun, fun satisfied => absurd satisfied missed⟩

theorem isRetryable_of_logSigned {cosignatures : KeyMap Cosignature} {e : VerifyError}
    (refused : p.verify suite log ⟨signed, cosignatures⟩ = .error e) : e.isRetryable = true := by
  rw [verify_of_logSigned held logs] at refused
  split at refused
  · contradiction
  · cases refused
    rfl

end Signed

/-! ## The witnesses' part -/

/-- Whoever vouches for a tree head still does so when there are more cosignatures. -/
theorem vouching_mono (sub : fewer.entries ⊆ more.entries) :
    vouching suite known origin ⟨signed, fewer⟩ ⊆ vouching suite known origin ⟨signed, more⟩ :=
  List.map_subset _ (List.filter_subset _ sub)

/-- With a cosignature of every registered witness that verifies, the quorum is satisfied. -/
theorem isSatisfied_of_all (sound : p.quorum.Sound p.witnesses)
    (held : p.witnesses.Holds suite known)
    (all : ∀ key witness, p.witness? key = some witness →
      ∃ c, more.find? key = some c ∧ c.verify suite witness.key origin signed.head = true) :
    p.quorum.isSatisfied (vouching suite known origin ⟨signed, more⟩) = true := by
  apply sound.range.isSatisfied
  intro key leaf
  obtain ⟨witness, found⟩ := Option.isSome_iff_exists.1 (sound.known key leaf)
  obtain ⟨c, cosigned, verifies⟩ := all key witness found
  obtain ⟨mem, same⟩ := (held key witness).1 found
  exact mem_vouching_iff.2 ⟨c, cosigned, witness, mem, same, verifies⟩

section Strangers

variable (held : p.witnesses.Holds suite known) (sub : fewer.entries ⊆ more.entries)
  (strangers : ∀ entry ∈ more.beyond fewer, p.witness? entry.1 = none)

include held sub strangers

theorem vouching_strangers :
    (vouching suite known origin ⟨signed, more⟩).Perm
      (vouching suite known origin ⟨signed, fewer⟩) := by
  have mute : (more.beyond fewer).filter (vouches suite known origin signed.head) = [] := by
    rw [List.filter_eq_nil_iff]
    intro entry new speaks
    have unknown := knows_of_absent held (strangers entry new)
    rw [knows_of_vouches speaks] at unknown
    contradiction
  have split := (KeyMap.entries_perm_beyond sub).filter (vouches suite known origin signed.head)
  rw [List.filter_append, mute, List.append_nil] at split
  exact split.map _

theorem failing_strangers :
    failing suite known origin ⟨signed, more⟩ = failing suite known origin ⟨signed, fewer⟩ := by
  have none : (more.beyond fewer).countP (fun entry =>
      knows suite known entry.1 && !vouches suite known origin signed.head entry) = 0 := by
    rw [List.countP_eq_zero]
    intro entry new
    simp [knows_of_absent held (strangers entry new)]
  rw [failing, (KeyMap.entries_perm_beyond sub).countP_eq, List.countP_append, none, failing,
    Nat.add_zero]

theorem unknown_strangers :
    unknown suite known ⟨signed, more⟩ =
      unknown suite known ⟨signed, fewer⟩ + (more.beyond fewer).length := by
  have all : (more.beyond fewer).countP (fun entry => !knows suite known entry.1) =
      (more.beyond fewer).length := by
    rw [List.countP_eq_length]
    intro entry new
    simp [knows_of_absent held (strangers entry new)]
  rw [unknown, (KeyMap.entries_perm_beyond sub).countP_eq, List.countP_append, all, unknown]

end Strangers

/-! ## The verdict -/

/-- The verdict when so many more cosignatures are passed over. -/
def passingOver (count : Nat) : Except VerifyError Report → Except VerifyError Report
  | .ok r => .ok { r with total := r.total + count, ignored := r.ignored + count }
  | .error (.insufficientCosignatures total verified failed) =>
      .error (.insufficientCosignatures (total + count) verified failed)
  | .error e => .error e

theorem passingOver_error (count : Nat) {e : VerifyError} (final : e.isRetryable = false) :
    passingOver count (.error e) = .error e := by
  cases e with
  | unknownLog | invalidLogSignature => rfl
  | insufficientCosignatures => contradiction

theorem verify_strangers (held : p.witnesses.Holds suite known)
    (sub : fewer.entries ⊆ more.entries)
    (strangers : ∀ entry ∈ more.beyond fewer, p.witness? entry.1 = none) :
    p.verify suite log ⟨signed, more⟩ =
      passingOver (more.beyond fewer).length (p.verify suite log ⟨signed, fewer⟩) := by
  by_cases logs : p.logSigned suite log signed
  · have same := @vouching_strangers _ _ _ (originOf log) signed _ _ held sub strangers
    rw [verify_of_logSigned held logs, verify_of_logSigned held logs,
      p.quorum.isSatisfied_perm same, same.length_eq, failing_strangers held sub strangers,
      unknown_strangers held sub strangers, KeyMap.size_eq_add_beyond sub]
    split <;> rfl
  · obtain ⟨e, final, refused⟩ := refused_of_not_logSigned logs
    rw [refused, refused, passingOver_error _ final]

/-- An error that is not to be retried has nothing to do with the cosignatures. -/
theorem final_iff (held : p.witnesses.Holds suite known) {e : VerifyError}
    (final : e.isRetryable = false) :
    p.verify suite log ⟨signed, fewer⟩ = .error e ↔
      p.verify suite log ⟨signed, more⟩ = .error e := by
  by_cases logs : p.logSigned suite log signed
  · have retry : ∀ cosignatures, p.verify suite log ⟨signed, cosignatures⟩ ≠ .error e := by
      intro cosignatures refused
      rw [isRetryable_of_logSigned held logs refused] at final
      contradiction
    exact iff_of_false (retry fewer) (retry more)
  · obtain ⟨other, _, refused⟩ := refused_of_not_logSigned logs
    rw [refused, refused]

theorem accepts_more (held : p.witnesses.Holds suite known) (sub : fewer.entries ⊆ more.entries)
    (accepted : ∃ r, p.verify suite log ⟨signed, fewer⟩ = .ok r) :
    ∃ r, p.verify suite log ⟨signed, more⟩ = .ok r := by
  by_cases logs : p.logSigned suite log signed
  · rw [ok_iff_of_logSigned held logs] at accepted ⊢
    exact Quorum.isSatisfied_mono (fun w _ mem => vouching_mono sub mem) accepted
  · obtain ⟨e, _, refused⟩ := refused_of_not_logSigned logs
    obtain ⟨r, accepted⟩ := accepted
    rw [refused] at accepted
    contradiction

/-- What may be retried is accepted with a cosignature of every registered witness that verifies. -/
theorem accepts_all (held : p.witnesses.Holds suite known) (sound : p.quorum.Sound p.witnesses)
    {e : VerifyError} (refused : p.verify suite log ⟨signed, fewer⟩ = .error e)
    (retry : e.isRetryable = true)
    (all : ∀ key witness, p.witness? key = some witness → ∃ c, more.find? key = some c ∧
      c.verify suite witness.key (originOf log) signed.head = true) :
    ∃ r, p.verify suite log ⟨signed, more⟩ = .ok r := by
  have logs : p.logSigned suite log signed := by
    by_contra unsigned
    obtain ⟨other, final, same⟩ := refused_of_not_logSigned unsigned
    rw [same, Except.error.injEq] at refused
    rw [refused, retry] at final
    contradiction
  exact (ok_iff_of_logSigned held logs).2 (isSatisfied_of_all sound held all)

/-- More cosignatures for a tree head change nothing about an error that is not to be retried, and
take no acceptance back. A tree head that may be retried is accepted once there is a cosignature of
every registered witness that verifies, and cosignatures of strangers raise the total, and the
number of those passed over, by how many they are. -/
theorem Made.verdict_grows {ds : List Declaration} (h : Made suite ds p) (log : KeyHash)
    (signed : SignedTreeHead) {fewer more : KeyMap Cosignature}
    (sub : fewer.entries ⊆ more.entries) :
    let before := p.verify suite log ⟨signed, fewer⟩
    let after := p.verify suite log ⟨signed, more⟩
    (∀ e : VerifyError, e.isRetryable = false → (before = .error e ↔ after = .error e)) ∧
    ((∃ r, before = .ok r) → ∃ r, after = .ok r) ∧
    (∀ e : VerifyError, before = .error e → e.isRetryable = true →
      (∀ key witness, p.witness? key = some witness → ∃ c, more.find? key = some c ∧
        c.verify suite witness.key (originOf log) signed.head = true) →
      ∃ r, after = .ok r) ∧
    ((∀ entry ∈ more.beyond fewer, p.witness? entry.1 = none) →
      after = passingOver (more.beyond fewer).length before) := by
  have held := h.witnesses
  exact ⟨fun _ => final_iff held, accepts_more held sub, fun _ => accepts_all held h.sound,
    verify_strangers held sub⟩

/-- Cosignatures under the key hashes of some keys, made of the given bytes. -/
def cosignedWith (signatures : List (UInt8 × UInt8)) : KeyMap Cosignature :=
  signatures.foldl (fun cosignatures entry =>
    let witness := Suite.plain.keyHash (.fill .publicKey entry.1)
    cosignatures.insert witness ⟨witness, 7, .fill .signature entry.2⟩) .empty

/-- A tree head with the cosignature of a stranger only is refused. It still is with that of another
stranger, and no longer is with good ones of all three registered witnesses. -/
theorem verdict_grows_nested :
    let log := Suite.plain.keyHash (.fill .publicKey 1)
    let signed := cosignedByThree.signed
    ∃ p, Made .plain nestedDeclarations p ∧
      p.verify .plain log ⟨signed, cosignedWith [(9, 1)]⟩ =
        .error (.insufficientCosignatures 1 0 0) ∧
      p.verify .plain log ⟨signed, cosignedWith [(9, 1), (8, 1)]⟩ =
        .error (.insufficientCosignatures 2 0 0) ∧
      ∃ r, p.verify .plain log ⟨signed, cosignedWith [(9, 1), (2, 1), (3, 1), (4, 1)]⟩ = .ok r := by
  intro log signed
  have made : Made .plain nestedDeclarations _ := .built nestedDeclarations rfl
  have two : (cosignedWith [(9, 1)]).entries ⊆ (cosignedWith [(9, 1), (8, 1)]).entries := by decide
  have four : (cosignedWith [(9, 1)]).entries ⊆
    (cosignedWith [(9, 1), (2, 1), (3, 1), (4, 1)]).entries := by decide
  obtain ⟨_, _, _, strangers⟩ := made.verdict_grows log signed two
  obtain ⟨_, _, retried, _⟩ := made.verdict_grows log signed four
  have all : ∀ w ∈ witnessesOf nestedDeclarations, ∃ c,
      (cosignedWith [(9, 1), (2, 1), (3, 1), (4, 1)]).find? (Suite.plain.keyHash w.key) = some c ∧
        c.verify .plain w.key (originOf log) signed.head = true :=
    List.forall_mem_cons.2 ⟨⟨_, rfl, rfl⟩,
      List.forall_mem_cons.2 ⟨⟨_, rfl, rfl⟩, List.forall_mem_singleton.2 ⟨_, rfl, rfl⟩⟩⟩
  refine ⟨_, made, rfl, strangers (by decide), retried _ rfl rfl ?_⟩
  intro key witness found
  obtain ⟨mem, rfl⟩ := (made.witnesses key witness).1 found
  exact all witness mem

end Witnessed.Policy
