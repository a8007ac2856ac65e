import Mathlib.Tactic.Choose
import Witnessed.Proofs.Checkpoint.Signers
import Witnessed.Proofs.Policy.Messages
import Witnessed.Proofs.TreeHead.Format
import Witnessed.Sample

/-!
Tree heads on their way from a log over its witnesses to a reader. Nothing that honest parties
sign is lost on the way or refused: unless key hashes collide, what the reader gets is judged by
who signed it alone.
-/

namespace Witnessed

variable {suite : Suite} {head : TreeHead} {log : Signer}

/-- The signer gives a signature on the statement, and it verifies under the signer's own key. -/
def Signer.Signs (suite : Suite) (signer : Signer) (statement : Statement) : Prop :=
  ∃ signature, signer.sign statement.message = .ok signature ∧
    suite.verify signer.publicKey statement.message signature = true

instance (suite : Suite) (signer : Signer) (statement : Statement) :
    Decidable (signer.Signs suite statement) :=
  match signed : signer.sign statement.message with
  | .ok signature =>
      decidable_of_iff (suite.verify signer.publicKey statement.message signature = true)
        (by simp [Signer.Signs, signed])
  | .error _ => isFalse (by simp [Signer.Signs, signed])

/-- Whether an entity with the key is registered. -/
def Registry.hasKey (r : Registry) (key : PublicKey) : Bool :=
  r.entities.values.any fun entity => entity.key = key

/-- Somebody who cosigns, and when. -/
structure Endorser where
  signer : Signer
  time : UInt64

def Endorser.keyHash (suite : Suite) (w : Endorser) : KeyHash :=
  suite.keyHash w.signer.publicKey

/-- The way of a tree head: the log signs it and writes a checkpoint, endorsers read that, check it
and cosign what they read, and the cosignatures are collected, written and read. -/
structure Exchange (suite : Suite) (log : Signer) (head : TreeHead)
    (endorsers : List Endorser) where
  signed : SignedTreeHead
  checkpoint : Checkpoint
  cosignatures : List Cosignature
  collected : CosignedTreeHead
  received : CosignedTreeHead
  sign : head.sign suite log = .ok signed
  publish : Checkpoint.parse (Checkpoint.forLog suite signed log.publicKey).render = .ok checkpoint
  verify : checkpoint.verify suite log.publicKey = .ok ()
  cosign : (endorsers.mapM fun w => checkpoint.signed.head.cosign suite w.signer
    (originOf (suite.keyHash log.publicKey)) w.time) = .ok cosignatures
  collect : CosignedTreeHead.ofList checkpoint.signed cosignatures = .ok collected
  receive : CosignedTreeHead.parse collected.render = .ok received

/-! ## Honest signers -/

theorem exists_sign (signs : log.Signs suite ⟨.log, head, suite.keyHash log.publicKey⟩) :
    ∃ signed, head.sign suite log = .ok signed ∧ signed.head = head ∧
      signed.verify suite log.publicKey = true := by
  obtain ⟨signature, made, verifies⟩ := signs
  refine ⟨⟨head, signature⟩, ?_, rfl, verifies⟩
  have made : log.sign (utf8 (head.body (originOf (suite.keyHash log.publicKey)))) =
    .ok signature := made
  rw [TreeHead.sign, TreeHead.signFor, made, Except.map]

theorem exists_cosign {w : Endorser} {origin : KeyHash}
    (signs : w.signer.Signs suite ⟨.witness w.time, head, origin⟩) :
    ∃ c, head.cosign suite w.signer (originOf origin) w.time = .ok c ∧
      c.witness = w.keyHash suite ∧
      c.verify suite w.signer.publicKey (originOf origin) head = true := by
  obtain ⟨signature, made, verifies⟩ := signs
  refine ⟨⟨w.keyHash suite, w.time, signature⟩, ?_, rfl, verifies⟩
  have made : w.signer.sign (utf8 (head.cosigned (originOf origin) w.time)) = .ok signature := made
  rw [TreeHead.cosign, made, Except.map]
  rfl

/-! ## The way -/

variable {endorsers : List Endorser}

/-- Nothing fails on the way, and the reader gets what the log and the endorsers signed. -/
theorem exists_exchange (distinct : (endorsers.map (·.keyHash suite)).Nodup)
    (signs : log.Signs suite ⟨.log, head, suite.keyHash log.publicKey⟩)
    (cosign : ∀ w ∈ endorsers,
      w.signer.Signs suite ⟨.witness w.time, head, suite.keyHash log.publicKey⟩) :
    ∃ (e : Exchange suite log head endorsers) (made : Endorser → Cosignature),
      e.received.signed.head = head ∧ e.received.signed.verify suite log.publicKey = true ∧
      (∀ w ∈ endorsers, (made w).verify suite w.signer.publicKey
        (originOf (suite.keyHash log.publicKey)) e.received.signed.head = true) ∧
      e.received.cosignatures.entries.Perm (endorsers.map fun w => (w.keyHash suite, made w)) := by
  obtain ⟨signed, sign, rfl, verifies⟩ := exists_sign signs
  have publish := Checkpoint.parse_render (c := .forLog suite signed log.publicKey)
    (originOf_isName (suite.keyHash log.publicKey))
  have : Nonempty Cosignature := ⟨⟨.fill .keyHash 0, 0, .fill .signature 0⟩⟩
  choose! made cosigned own good using fun w hw => exists_cosign (cosign w hw)
  have witnesses : (endorsers.map made).map (·.witness) = endorsers.map (·.keyHash suite) := by
    rw [List.map_map]
    exact List.map_congr_left own
  obtain ⟨collected, collect⟩ := (@CosignedTreeHead.exists_ofList_iff (endorsers.map made) signed).2
    (witnesses ▸ distinct)
  have receive := CosignedTreeHead.parse_render_ok_iff.2 (CosignedTreeHead.ofList_own collect)
  obtain rfl := CosignedTreeHead.ofList_signed collect
  have accepts := Checkpoint.verify_forLog_iff.2 verifies
  refine ⟨⟨collected.signed, _, _, collected, collected, sign, publish, accepts,
    mapM_eq_ok cosigned, collect, receive⟩, made, rfl, verifies, good, ?_⟩
  have entries := CosignedTreeHead.ofList_perm collect
  rw [List.map_map] at entries
  have own : endorsers.map ((fun c : Cosignature => (c.witness, c)) ∘ made) =
      endorsers.map fun w => (w.keyHash suite, made w) :=
    List.map_congr_left fun w hw => Prod.ext (own w hw) rfl
  exact own ▸ entries

/-! ## The verdict -/

namespace Registry

variable {r : Registry} {known : List Entity}

theorem Holds.mem_values_iff (held : r.Holds suite known) {entity : Entity} :
    entity ∈ r.entities.values ↔ entity ∈ known := by
  constructor
  · intro mem
    obtain ⟨⟨key, _⟩, entry, rfl⟩ := List.mem_map.1 mem
    exact ((held key _).1 (KeyMap.mem_entries_iff.1 entry)).1
  · intro mem
    have found := (held (suite.keyHash entity.key) entity).2 ⟨mem, rfl⟩
    exact List.mem_map.2 ⟨_, KeyMap.mem_entries_iff.2 found, rfl⟩

theorem Holds.hasKey_iff (held : r.Holds suite known) {key : PublicKey} :
    r.hasKey key = true ↔ ∃ entity ∈ known, entity.key = key := by
  simp [hasKey, held.mem_values_iff]

end Registry

namespace Policy

variable {p : Policy} {known : List Entity} {origin : String}

/-- No registered witness shares the key hash of an endorser without sharing its key. That is so
unless the digest has the same value at the key of an endorser and at another, registered one. -/
def KeysApart (suite : Suite) (p : Policy) (endorsers : List Endorser) : Prop :=
  ∀ w ∈ endorsers, ∀ entity ∈ p.witnesses.entities.values,
    suite.keyHash entity.key = w.keyHash suite → entity.key = w.signer.publicKey

instance (suite : Suite) (p : Policy) (endorsers : List Endorser) :
    Decidable (p.KeysApart suite endorsers) :=
  inferInstanceAs (Decidable (∀ w ∈ endorsers, ∀ entity ∈ p.witnesses.entities.values,
    suite.keyHash entity.key = w.keyHash suite → entity.key = w.signer.publicKey))

/-- The endorsers whose keys are registered. -/
def registered (p : Policy) (endorsers : List Endorser) : List Endorser :=
  endorsers.filter fun w => p.witnesses.hasKey w.signer.publicKey

theorem knows_endorser (held : p.witnesses.Holds suite known) (apart : p.KeysApart suite endorsers)
    {w : Endorser} (hw : w ∈ endorsers) :
    knows suite known (w.keyHash suite) = p.witnesses.hasKey w.signer.publicKey := by
  rw [Bool.eq_iff_iff, held.hasKey_iff]
  simp only [knows, List.any_eq_true, decide_eq_true_eq]
  constructor
  · rintro ⟨entity, mem, same⟩
    exact ⟨entity, mem, apart w hw entity (held.mem_values_iff.2 mem) same⟩
  · rintro ⟨entity, mem, key⟩
    exact ⟨entity, mem, by rw [key, Endorser.keyHash]⟩

/-- An endorser whose cosignature verifies vouches for the tree head just when it is registered. -/
theorem vouches_endorser (held : p.witnesses.Holds suite known)
    (apart : p.KeysApart suite endorsers) {w : Endorser} (hw : w ∈ endorsers) {c : Cosignature}
    (good : c.verify suite w.signer.publicKey origin head = true) :
    vouches suite known origin head (w.keyHash suite, c) =
      p.witnesses.hasKey w.signer.publicKey := by
  rw [Bool.eq_iff_iff, held.hasKey_iff]
  simp only [vouches, List.any_eq_true, Bool.and_eq_true, decide_eq_true_eq]
  constructor
  · rintro ⟨entity, mem, same, _⟩
    exact ⟨entity, mem, apart w hw entity (held.mem_values_iff.2 mem) same⟩
  · rintro ⟨entity, mem, key⟩
    refine ⟨entity, mem, by rw [key, Endorser.keyHash], ?_⟩
    rw [key]
    exact good

/-- How many endorsers have keys that are not registered. -/
def strangers (p : Policy) (endorsers : List Endorser) : Nat :=
  endorsers.countP fun w => !p.witnesses.hasKey w.signer.publicKey

section Counts

variable {received : CosignedTreeHead} {made : Endorser → Cosignature}

theorem vouching_endorsed (held : p.witnesses.Holds suite known)
    (apart : p.KeysApart suite endorsers)
    (good : ∀ w ∈ endorsers,
      (made w).verify suite w.signer.publicKey origin received.signed.head = true)
    (entries : received.cosignatures.entries.Perm
      (endorsers.map fun w => (w.keyHash suite, made w))) :
    (vouching suite known origin received).Perm
      ((p.registered endorsers).map (·.keyHash suite)) := by
  have same : (endorsers.filter fun w =>
      vouches suite known origin received.signed.head (w.keyHash suite, made w)) =
        p.registered endorsers :=
    List.filter_congr fun w hw => vouches_endorser held apart hw (good w hw)
  have kept := (entries.filter (vouches suite known origin received.signed.head)).map (·.1)
  rw [List.filter_map, List.map_map] at kept
  exact same ▸ kept

theorem failing_endorsed (held : p.witnesses.Holds suite known)
    (apart : p.KeysApart suite endorsers)
    (good : ∀ w ∈ endorsers,
      (made w).verify suite w.signer.publicKey origin received.signed.head = true)
    (entries : received.cosignatures.entries.Perm
      (endorsers.map fun w => (w.keyHash suite, made w))) :
    failing suite known origin received = 0 := by
  rw [failing, entries.countP_eq, List.countP_map, List.countP_eq_zero]
  intro w hw
  simp [knows_endorser held apart hw, vouches_endorser held apart hw (good w hw)]

theorem unknown_endorsed (held : p.witnesses.Holds suite known)
    (apart : p.KeysApart suite endorsers)
    (entries : received.cosignatures.entries.Perm
      (endorsers.map fun w => (w.keyHash suite, made w))) :
    unknown suite known received = p.strangers endorsers := by
  rw [unknown, entries.countP_eq, List.countP_map, strangers]
  apply List.countP_congr
  intro w hw
  simp [knows_endorser held apart hw]

end Counts

/-- Between honest parties a tree head gets through: when the endorsers have different key hashes,
none of their steps fails. A policy that knows the log then counts every endorser that it knows as
verified, every other one as ignored, and none as failed, and its quorum decides, as long as no key
hash of an endorser is that of a registered witness with another key (`KeysApart`). Where two such
keys collide under the digest, a good cosignature is checked with the wrong one of them. -/
theorem Made.exchange_judged {ds : List Declaration} (h : Made suite ds p)
    (known : p.logs.hasKey log.publicKey = true)
    (distinct : (endorsers.map (·.keyHash suite)).Nodup)
    (signs : log.Signs suite ⟨.log, head, suite.keyHash log.publicKey⟩)
    (cosign : ∀ w ∈ endorsers,
      w.signer.Signs suite ⟨.witness w.time, head, suite.keyHash log.publicKey⟩) :
    ∃ e : Exchange suite log head endorsers, e.received.signed.head = head ∧
      (p.KeysApart suite endorsers → p.verify suite (suite.keyHash log.publicKey) e.received =
        if p.quorum.isSatisfied ((p.registered endorsers).map (·.keyHash suite)) then
          .ok ⟨endorsers.length, (p.registered endorsers).length, 0, p.strangers endorsers⟩
        else
          .error
            (.insufficientCosignatures endorsers.length (p.registered endorsers).length 0)) := by
  obtain ⟨e, made, kept, signed, good, entries⟩ := exists_exchange distinct signs cosign
  refine ⟨e, kept, fun apart => ?_⟩
  obtain ⟨entity, mem, key⟩ := h.logs.hasKey_iff.1 known
  have found : p.log? (suite.keyHash log.publicKey) = some entity :=
    (h.logs _ entity).2 ⟨mem, by rw [key]⟩
  rw [← key] at signed
  have verified := vouching_endorsed h.witnesses apart good entries
  have total : e.received.cosignatures.size = endorsers.length := by
    rw [KeyMap.size, entries.length_eq, List.length_map]
  rw [verify_of_signed h.witnesses found (key ▸ signed), Quorum.isSatisfied_perm verified,
    verified.length_eq, List.length_map, failing_endorsed h.witnesses apart good entries,
    unknown_endorsed h.witnesses apart entries, total]

/-- A log and one of the two witnesses below. -/
def oneOfTwo : List Declaration :=
  [.log ⟨Sample.log.publicKey, none⟩, .witness "a" ⟨(Sample.signer 0x20).publicKey, none⟩,
    .quorum "a"]

def two : List Endorser :=
  [⟨Sample.signer 0x20, Sample.defaultTime⟩, ⟨Sample.signer 0x21, 0⟩]

theorem exchange_judged_two :
    ∃ p, Made .standard oneOfTwo p ∧
      ∃ e : Exchange .standard Sample.log ⟨42, .fill .hash 7⟩ two,
        p.verify .standard (Suite.standard.keyHash Sample.log.publicKey) e.received =
          .ok ⟨2, 1, 0, 1⟩ := by
  have made : Made .standard oneOfTwo _ := .built oneOfTwo rfl
  have distinct : (two.map (·.keyHash .standard)).Nodup := by decide +kernel
  have signs : Sample.log.Signs .standard ⟨.log, ⟨42, .fill .hash 7⟩,
    Suite.standard.keyHash Sample.log.publicKey⟩ := by decide +kernel
  have cosign : ∀ w ∈ two, w.signer.Signs .standard ⟨.witness w.time, ⟨42, .fill .hash 7⟩,
    Suite.standard.keyHash Sample.log.publicKey⟩ := by decide +kernel
  obtain ⟨e, _, judged⟩ := made.exchange_judged (by decide +kernel) distinct signs cosign
  refine ⟨_, made, e, ?_⟩
  rw [judged (by decide +kernel)]
  decide +kernel

end Policy

end Witnessed
