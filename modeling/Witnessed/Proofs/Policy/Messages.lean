import Mathlib.Data.List.Basic
import Witnessed.Proofs.Policy.Verdict
import Witnessed.Proofs.TreeHead.Messages

/-!
The signatures that a verdict rests on. They are all about the tree head and the log that are
judged, and none of them would do for another log, tree head, time or role.
-/

namespace Witnessed

/-- What somebody signs: in some role, the tree head of a log. -/
structure Statement where
  role : Role
  head : TreeHead
  log : KeyHash

def Statement.message (s : Statement) : List UInt8 :=
  utf8 (s.role.message s.head (originOf s.log))

theorem Statement.message_inj {s t : Statement} : s.message = t.message ↔ s = t := by
  obtain ⟨role, head, log⟩ := s
  obtain ⟨role', head', log'⟩ := t
  rw [message, message, utf8_inj, Witnessed.message_inj (originOf_plain _) (originOf_plain _),
    originOf_inj, Statement.mk.injEq]

/-- A signature to be checked: whose it is to be, and what it is to be of. -/
structure Check where
  key : PublicKey
  statement : Statement
  signature : Signature

def Check.passes (suite : Suite) (c : Check) : Bool :=
  suite.verify c.key c.statement.message c.signature

namespace Policy

variable {p : Policy} {suite suite' : Suite} {log : KeyHash}

/-- The check of a cosignature, if the witness is known. -/
def checkOf? (p : Policy) (log : KeyHash) (head : TreeHead) (entry : KeyHash × Cosignature) :
    Option Check :=
  (p.witness? entry.1).map fun witness =>
    ⟨witness.key, ⟨.witness entry.2.time, head, log⟩, entry.2.signature⟩

/-- All checks that judging a tree head can take: of the log's signature, if the log is known, and
then of the cosignatures of known witnesses, whether the log's signature is good or not. -/
def checks (p : Policy) (log : KeyHash) (head : CosignedTreeHead) : List Check :=
  match p.log? log with
  | none => []
  | some entity =>
      ⟨entity.key, ⟨.log, head.signed.head, log⟩, head.signed.signature⟩ ::
        head.cosignatures.entries.filterMap (p.checkOf? log head.signed.head)

theorem log_mem_checks {entity : Entity} {head : CosignedTreeHead}
    (found : p.log? log = some entity) :
    ⟨entity.key, ⟨.log, head.signed.head, log⟩, head.signed.signature⟩ ∈ p.checks log head := by
  rw [checks, found]
  exact List.mem_cons_self

theorem statement_of_mem_checks {head : CosignedTreeHead} {c : Check}
    (mem : c ∈ p.checks log head) :
    c.statement.head = head.signed.head ∧ c.statement.log = log := by
  rw [checks] at mem
  split at mem
  · contradiction
  · rcases List.mem_cons.1 mem with rfl | mem
    · exact ⟨rfl, rfl⟩
    · obtain ⟨entry, _, made⟩ := List.mem_filterMap.1 mem
      obtain ⟨witness, _, rfl⟩ := Option.map_eq_some_iff.1 made
      exact ⟨rfl, rfl⟩

/-! ## Nothing else is checked -/

theorem count_congr {head : TreeHead} {entry : KeyHash × Cosignature}
    (agree : ∀ c ∈ p.checkOf? log head entry, c.passes suite = c.passes suite') (tally : Tally) :
    p.count suite (originOf log) head tally entry =
      p.count suite' (originOf log) head tally entry := by
  cases found : p.witness? entry.1 with
  | none => simp only [count, found]
  | some witness =>
      have same : entry.2.verify suite witness.key (originOf log) head =
          entry.2.verify suite' witness.key (originOf log) head :=
        agree ⟨witness.key, ⟨.witness entry.2.time, head, log⟩, entry.2.signature⟩
          (by simp [checkOf?, found])
      simp only [count, found, same]

theorem verify_congr {head : CosignedTreeHead}
    (agree : ∀ c ∈ p.checks log head, c.passes suite = c.passes suite') :
    p.verify suite log head = p.verify suite' log head := by
  cases found : p.log? log with
  | none => simp only [verify, found]
  | some entity =>
      simp only [checks, found, List.forall_mem_cons] at agree
      obtain ⟨own, others⟩ := agree
      have signed : head.signed.verifyFor suite entity.key (originOf log) =
          head.signed.verifyFor suite' entity.key (originOf log) := own
      have tally : p.tally suite (originOf log) head = p.tally suite' (originOf log) head := by
        refine List.foldl_ext _ _ _ fun tally entry mem => count_congr (fun c made => ?_) tally
        exact others c (List.mem_filterMap.2 ⟨entry, mem, made⟩)
      simp only [verify, found, signed, tally]

/-- A message tells the role, the origin, the tree head and the time that it is signed for. A
verdict rests on the checks of its run alone, and no two checks of any two runs are of one message
unless they are of one log, tree head, time and role. -/
theorem messages_unambiguous :
    (∀ (origin origin' : String) (head head' : TreeHead),
      '\n' ∉ origin.toList → '\n' ∉ origin'.toList →
      (head.body origin = head'.body origin' → origin = origin' ∧ head = head') ∧
      (∀ time time', head.cosigned origin time = head'.cosigned origin' time' →
        origin = origin' ∧ head = head' ∧ time = time') ∧
      ∀ time, head.body origin ≠ head'.cosigned origin' time) ∧
    (Function.Injective originOf ∧ ∀ log, '\n' ∉ (originOf log).toList) ∧
    (∀ (p : Policy) (log : KeyHash) (head : CosignedTreeHead) (suite suite' : Suite),
      (∀ c ∈ p.checks log head, c.passes suite = c.passes suite') →
      p.verify suite log head = p.verify suite' log head) ∧
    ∀ (p p' : Policy) (log log' : KeyHash) (head head' : CosignedTreeHead),
      ∀ c ∈ p.checks log head, ∀ c' ∈ p'.checks log' head',
        c.statement.message = c'.statement.message →
        log = log' ∧ head.signed.head = head'.signed.head ∧
          c.statement.role = c'.statement.role := by
  refine ⟨fun origin origin' head head' plain plain' => ⟨eq_of_body_eq plain plain',
      fun _ _ => eq_of_cosigned_eq plain plain', fun _ => body_ne_cosigned plain plain'⟩,
    ⟨fun _ _ => originOf_inj.1, originOf_plain⟩, fun _ _ _ _ _ => verify_congr, ?_⟩
  intro p p' log log' head head' c mem c' mem' same
  obtain ⟨judged, logged⟩ := statement_of_mem_checks mem
  obtain ⟨judged', logged'⟩ := statement_of_mem_checks mem'
  rw [← judged, ← logged, ← judged', ← logged', Statement.message_inj.1 same]
  exact ⟨rfl, rfl, rfl⟩

/-- A policy that asks nothing of witnesses. -/
def bareDeclarations : List Declaration := [.log (.filled 1), .quorum "none"]

theorem messages_unambiguous_nested :
    let log := Suite.plain.keyHash (.fill .publicKey 1)
    let head := cosignedByThree.signed.head
    let other : Suite := ⟨fun _ => .fill .hash 0, Suite.plain.verify⟩
    ('\n' ∉ "cosignature/v1".toList ∧ '\n' ∉ (originOf log).toList ∧
      (∀ time, head.body "cosignature/v1" ≠ head.cosigned (originOf log) time) ∧
      (head.body "cosignature/v1" = (⟨5, .fill .hash 0⟩ : TreeHead).body "cosignature/v1" ∧
        head = ⟨5, .fill .hash 0⟩) ∧
      head.cosigned "cosignature/v1" 7 =
        (⟨5, .fill .hash 0⟩ : TreeHead).cosigned "cosignature/v1" 7 ∧
        head = ⟨5, .fill .hash 0⟩) ∧
    ∃ p p', Made .plain nestedDeclarations p ∧ Made .plain bareDeclarations p' ∧
      (p.checks log cosignedByThree).length = 3 ∧
      p.verify .plain log cosignedByThree = p.verify other log cosignedByThree ∧
      ∃ c ∈ p.checks log cosignedByThree, ∃ c' ∈ p'.checks log cosignedByThree,
        c.statement.message = c'.statement.message ∧ c.statement.role = c'.statement.role := by
  intro log head other
  have clean : '\n' ∉ "cosignature/v1".toList := by decide
  have apart := messages_unambiguous.1 "cosignature/v1" (originOf log) head head clean
    (originOf_plain log)
  have same := messages_unambiguous.1 "cosignature/v1" "cosignature/v1" head ⟨5, .fill .hash 0⟩
    clean clean
  have made : Made .plain nestedDeclarations _ := .built nestedDeclarations rfl
  have bare : Made .plain bareDeclarations _ := .built bareDeclarations rfl
  have found := (made.logs log (.filled 1)).2 ⟨by decide, rfl⟩
  have found' := (bare.logs log (.filled 1)).2 ⟨by decide, rfl⟩
  have mem := @log_mem_checks _ log _ cosignedByThree found
  have mem' := @log_mem_checks _ log _ cosignedByThree found'
  refine ⟨⟨clean, originOf_plain log, apart.2.2, ⟨rfl, (same.1 rfl).2⟩, rfl,
    (same.2.1 7 7 rfl).2.1⟩, _, _, made, bare, rfl, ?_, _, mem, _, mem', rfl, ?_⟩
  · exact messages_unambiguous.2.2.1 _ log cosignedByThree .plain other fun c _ => rfl
  · exact (messages_unambiguous.2.2.2 _ _ log log cosignedByThree cosignedByThree _ mem _ mem'
      rfl).2.2

end Policy

end Witnessed
