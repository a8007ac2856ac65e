import Witnessed.Command.Run
import Witnessed.Proofs.Checkpoint.Signers
import Witnessed.Proofs.Policy.Growth

/-!
The two commands that look at the signature of a log. One reads a checkpoint, with an origin and a
key id in it, and the other a cosigned tree head, which has neither; still what the one takes for
signed by the log is what the other does.
-/

namespace Witnessed

variable {suite : Suite} {p : Policy} {log : KeyHash}

namespace Policy

/-- Whether a verdict is that the log is unknown or did not sign. -/
def blamesLog : Except VerifyError Report → Bool
  | .error (.unknownLog _) | .error .invalidLogSignature => true
  | .error (.insufficientCosignatures ..) | .ok _ => false

theorem blamesLog_verify_iff {head : CosignedTreeHead} :
    blamesLog (p.verify suite log head) = false ↔ p.logSigned suite log head.signed := by
  constructor
  · intro clear
    by_contra unsigned
    obtain ⟨e, final, refused⟩ := refused_of_not_logSigned unsigned
    have refused : p.verify suite log head = .error e := refused head.cosignatures
    rw [refused] at clear
    cases e <;> contradiction
  · rintro ⟨entity, found, signed⟩
    simp only [verify, found, signed, ↓reduceIte]
    split <;> rfl

end Policy

namespace Command

/-- What is printed about a tree head that the log signed. -/
def sizeLine (head : TreeHead) : String :=
  "size=" ++ String.ofList (Decimal.render head.size.toNat) ++ "\n"

theorem checkpointText_ok_iff {text output : String} :
    checkpointText suite p log text = .ok output ↔
      ∃ c entity, Checkpoint.parse text = .ok c ∧ p.log? log = some entity ∧
        c.origin = originOf log ∧ c.verify suite entity.key = .ok () ∧
        output = sizeLine c.signed.head := by
  rw [checkpointText]
  cases read : Checkpoint.parse text with
  | error e => simp
  | ok c =>
      cases found : p.log? log with
      | none => simp
      | some entity =>
          by_cases origin : c.origin = originOf log
          · cases verdict : c.verify suite entity.key with
            | error e => simp [origin, verdict]
            | ok u => simp [origin, verdict, sizeLine, eq_comm]
          · simp [origin]

/-- Under the origin of the log, what a checkpoint is checked for is whether the log signed. -/
theorem logSigned_of_verify {c : Checkpoint} {entity : Entity} (found : p.log? log = some entity)
    (origin : c.origin = originOf log) (accepted : c.verify suite entity.key = .ok ()) :
    p.logSigned suite log c.signed := by
  obtain ⟨_, verifies⟩ := Checkpoint.verify_ok_iff.1 accepted
  rw [origin] at verifies
  exact ⟨entity, found, verifies⟩

/-- A head that the log signed is accepted as the checkpoint of the log, with up to fifteen lines of
witnesses as without. -/
theorem checkpointText_of_signed {signed : SignedTreeHead} {entity : Entity}
    {lines : List NamedCosignature} (found : p.log? log = some entity)
    (own : suite.keyHash entity.key = log)
    (verifies : signed.verifyFor suite entity.key (originOf log) = true)
    (names : ∀ w ∈ lines, Note.IsName w.name.toList) (few : lines.length ≤ 15) :
    checkpointText suite p log ((Checkpoint.forLog suite signed entity.key).render ++
      String.join (lines.map (·.line suite))) = .ok (sizeLine signed.head) := by
  subst own
  have name := originOf_isName (suite.keyHash entity.key)
  have read :=
    @Checkpoint.parse_cosigned suite (.forLog suite signed entity.key) lines name names few
  exact checkpointText_ok_iff.2
    ⟨_, entity, read, found, rfl, Checkpoint.verify_forLog_iff.2 verifies, rfl⟩

end Command

open Command in
/-- Of a checkpoint that is accepted the tree head is never blamed on the log, whoever cosigned it;
and a tree head that is not blamed on the log is accepted as a checkpoint of the log, whatever lines
of witnesses are added, up to the fifteen that there is room for. -/
theorem Policy.Made.checkpoint_agrees {ds : List Declaration} (h : Made suite ds p)
    (log : KeyHash) :
    (∀ text output, checkpointText suite p log text = .ok output →
      ∃ c entity, Checkpoint.parse text = .ok c ∧ p.log? log = some entity ∧
        c.origin = originOf log ∧ c.verify suite entity.key = .ok () ∧
        output = sizeLine c.signed.head ∧
        ∀ cosignatures, blamesLog (p.verify suite log ⟨c.signed, cosignatures⟩) = false) ∧
    ∀ head : CosignedTreeHead, blamesLog (p.verify suite log head) = false →
      ∃ entity, p.log? log = some entity ∧
        ∀ lines : List NamedCosignature, (∀ w ∈ lines, Note.IsName w.name.toList) →
          lines.length ≤ 15 →
          checkpointText suite p log ((Checkpoint.forLog suite head.signed entity.key).render ++
            String.join (lines.map (·.line suite))) = .ok (sizeLine head.signed.head) := by
  constructor
  · intro text output accepted
    obtain ⟨c, entity, read, found, origin, verdict, size⟩ := checkpointText_ok_iff.1 accepted
    refine ⟨c, entity, read, found, origin, verdict, size, ?_⟩
    intro cosignatures
    exact blamesLog_verify_iff.2 (logSigned_of_verify found origin verdict)
  · intro head clear
    obtain ⟨entity, found, verifies⟩ := blamesLog_verify_iff.1 clear
    have own := ((h.logs log entity).1 found).2
    exact ⟨entity, found, fun lines => checkpointText_of_signed found own verifies⟩

/-- A cosignature for a line under the name of the log itself. -/
def Policy.underLogName : NamedCosignature where
  name := originOf (Suite.plain.keyHash (.fill .publicKey 1))
  key := .fill .publicKey 2
  cosignature := ⟨.fill .keyHash 2, 7, .fill .signature 1⟩

theorem Policy.checkpoint_agrees_nested :
    let log := Suite.plain.keyHash (.fill .publicKey 1)
    ∃ p, Made .plain nestedDeclarations p ∧
      blamesLog (p.verify .plain log cosignedByThree) = false ∧
      ∃ text c, Command.checkpointText .plain p log text = .ok "size=5\n" ∧
        Checkpoint.parse text = .ok c ∧
        ∀ cosignatures, blamesLog (p.verify .plain log ⟨c.signed, cosignatures⟩) = false := by
  intro log
  have made : Made .plain nestedDeclarations _ := .built nestedDeclarations rfl
  have named : ∀ w ∈ [underLogName], Note.IsName w.name.toList :=
    List.forall_mem_singleton.2 (originOf_isName log)
  obtain ⟨clears, accepts⟩ := made.checkpoint_agrees log
  obtain ⟨entity, _, accepted⟩ := accepts cosignedByThree rfl
  have accepted := accepted [underLogName] named (by decide)
  obtain ⟨c, _, read, _, _, _, _, all⟩ := clears _ _ accepted
  exact ⟨_, made, rfl, _, c, accepted, read, all⟩

end Witnessed
