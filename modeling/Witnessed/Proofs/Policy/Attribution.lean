import Witnessed.Proofs.Policy.Causes
import Witnessed.Proofs.Policy.Characters
import Witnessed.Proofs.Policy.Declarations

/-!
Where a policy text is at fault. Lines are taken one after the other up to the first one that is
refused, and the error names that line: nothing that stands behind it matters, and what stands
before it is all right by itself. What is taken to the end has been looked at character by
character, so it is plain.
-/

namespace Witnessed

namespace Script

variable {suite : Suite} {d d' : Draft} {bytes line : List UInt8}
  {lines before after : List (List UInt8)} {e : PolicyError}

/-! ## Lines that are accepted -/

theorem follow_ok_iff {x : Option Declaration} :
    follow suite d x = .ok d' ↔ d.Takes suite x.toList ∧ d' = d.declareAll suite x.toList := by
  cases x with
  | none => simp [follow, Draft.takes_nil, Draft.declareAll, eq_comm]
  | some x =>
      rw [follow, Option.toList_some, Draft.takes_cons_iff, Draft.declareAll_cons]
      rcases d.declare suite x with ⟨answer, after⟩
      cases answer <;> simp [Draft.takes_nil, Draft.declareAll, eq_comm]

/-- A line is accepted when it can be read and what it declares is. -/
theorem takeLine_ok_iff :
    takeLine suite d line = .ok d' ↔ (∃ x, reading line = .ok x) ∧
      d.Takes suite (declares? line).toList ∧ d' = d.declareAll suite (declares? line).toList := by
  rw [takeLine_eq, bind_ok_iff]
  constructor
  · rintro ⟨x, read, followed⟩
    rw [declares?_of_reading read]
    exact ⟨⟨x, read⟩, follow_ok_iff.1 followed⟩
  · rintro ⟨⟨x, read⟩, taken⟩
    rw [declares?_of_reading read] at taken
    exact ⟨x, read, follow_ok_iff.2 taken⟩

theorem takeLines_ok_iff {number : Nat} :
    takeLines suite d number lines = .ok d' ↔ (∀ line ∈ lines, ∃ x, reading line = .ok x) ∧
      d.Takes suite (lines.filterMap declares?) ∧
      d' = d.declareAll suite (lines.filterMap declares?) := by
  induction lines generalizing d number with
  | nil => simp [takeLines, Draft.takes_nil, Draft.declareAll, eq_comm]
  | cons line rest ih =>
      have step : takeLines suite d number (line :: rest) = .ok d' ↔
          ∃ next, takeLine suite d line = .ok next ∧
            takeLines suite next (number + 1) rest = .ok d' := by
        cases taken : takeLine suite d line <;> simp [takeLines, taken]
      have split : (line :: rest).filterMap declares? =
          (declares? line).toList ++ rest.filterMap declares? := by
        cases said : declares? line <;> simp [said]
      rw [step, split, List.forall_mem_cons, Draft.takes_append_iff, Draft.declareAll_append]
      simp only [takeLine_ok_iff, ih]
      constructor
      · rintro ⟨_, ⟨read, taken, rfl⟩, reads, more, same⟩
        exact ⟨⟨read, reads⟩, ⟨taken, more⟩, same⟩
      · rintro ⟨⟨read, reads⟩, ⟨taken, more⟩, same⟩
        exact ⟨_, ⟨read, taken, rfl⟩, reads, more, same⟩

/-- Lines none of which is refused: each can be read, and all that they declare is accepted. -/
structure Accepted (suite : Suite) (lines : List (List UInt8)) : Prop where
  read : ∀ line ∈ lines, ∃ x, reading line = .ok x
  taken : Draft.new.Takes suite (lines.filterMap declares?)

/-- The draft that lines lead to. -/
def draftOf (suite : Suite) (lines : List (List UInt8)) : Draft :=
  Draft.new.declareAll suite (lines.filterMap declares?)

theorem takeLines_new_ok_iff {number : Nat} :
    takeLines suite .new number lines = .ok d ↔ Accepted suite lines ∧ d = draftOf suite lines := by
  rw [takeLines_ok_iff, ← and_assoc, draftOf]
  exact and_congr_left' ⟨fun h => ⟨h.1, h.2⟩, fun h => ⟨h.read, h.taken⟩⟩

theorem Accepted.good (h : Accepted suite lines) : (draftOf suite lines).poisoned = false :=
  (Draft.good_iff_takes rfl).2 h.taken

theorem filterMap_blank (count : Nat) :
    (List.replicate count []).filterMap declares? = [] := by
  rw [List.filterMap_eq_nil_iff]
  intro line hl
  rw [List.eq_of_mem_replicate hl]
  exact declares?_of_reading reading_blank

theorem draftOf_append_blank (count : Nat) :
    draftOf suite (lines ++ List.replicate count []) = draftOf suite lines := by
  rw [draftOf, List.filterMap_append, filterMap_blank, List.append_nil, draftOf]

theorem Accepted.append_blank (h : Accepted suite lines) (count : Nat) :
    Accepted suite (lines ++ List.replicate count []) := by
  constructor
  · rw [List.forall_mem_append]
    refine ⟨h.read, fun line hl => ⟨none, ?_⟩⟩
    rw [List.eq_of_mem_replicate hl]
    exact reading_blank
  · rw [List.filterMap_append, filterMap_blank, List.append_nil]
    exact h.taken

/-! ## The line that is refused -/

theorem takeLines_append (number : Nat) (front rest : List (List UInt8)) :
    takeLines suite d number (front ++ rest) =
      takeLines suite d number front >>= fun d =>
        takeLines suite d (number + front.length) rest := by
  induction front generalizing d number with
  | nil => rfl
  | cons bytes others ih =>
      rw [List.cons_append, takeLines, takeLines]
      cases takeLine suite d bytes with
      | error e => rfl
      | ok d =>
          simp only [ih, List.length_cons]
          rw [Nat.add_right_comm]
          rfl

/-- Lines fail with the first of them that is refused. -/
theorem takeLines_error_iff {number : Nat} :
    takeLines suite d number lines = .error e ↔
      ∃ before line after d' cause, lines = before ++ line :: after ∧
        takeLines suite d number before = .ok d' ∧ takeLine suite d' line = .error cause ∧
        e = .atLine (number + before.length) cause := by
  induction lines generalizing d number with
  | nil => simp [takeLines]
  | cons line rest ih =>
      constructor
      · intro failed
        cases taken : takeLine suite d line with
        | error cause =>
            simp only [takeLines, taken, Except.error.injEq] at failed
            exact ⟨[], line, rest, d, cause, rfl, rfl, taken, failed.symm⟩
        | ok next =>
            simp only [takeLines, taken] at failed
            obtain ⟨before, bad, after, d', cause, rfl, passed, refused, rfl⟩ := ih.1 failed
            refine ⟨line :: before, bad, after, d', cause, rfl, ?_, refused, ?_⟩
            · simp only [takeLines, taken, passed]
            · rw [List.length_cons, Nat.add_right_comm]
              rfl
      · rintro ⟨before, bad, after, d', cause, split, passed, refused, rfl⟩
        rw [split, takeLines_append, passed]
        simp only [bind, Except.bind, takeLines, refused]

/-- The line behind some accepted lines is refused with an error. -/
structure Refused (suite : Suite) (before : List (List UInt8)) (line : List UInt8)
    (e : PolicyError) : Prop where
  accepted : Accepted suite before
  refused : takeLine suite (draftOf suite before) line = .error e

theorem Refused.isOfLine (h : Refused suite before line e) : e.IsOfLine :=
  isOfLine_of_takeLine h.accepted.good h.refused

/-! ## The text -/

/-- The text is taken to its end; all that can be missing is the quorum. -/
def Passes (suite : Suite) (bytes : List UInt8) : Prop :=
  (∃ p, Policy.parse suite bytes = .ok p) ∨ Policy.parse suite bytes = .error .missingQuorum

theorem parse_of_accepted (h : Accepted suite (bytes.splitOn 10)) :
    Policy.parse suite bytes = (draftOf suite (bytes.splitOn 10)).build := by
  rw [Policy.parse, takeLines_new_ok_iff.2 ⟨h, rfl⟩]
  rfl

theorem parse_of_refused (split : bytes.splitOn 10 = before ++ line :: after)
    (h : Refused suite before line e) :
    Policy.parse suite bytes = .error (.atLine (before.length + 1) e) := by
  have failed : takeLines suite .new 1 (bytes.splitOn 10) =
      .error (.atLine (1 + before.length) e) :=
    takeLines_error_iff.2 ⟨before, line, after, _, e, split,
      takeLines_new_ok_iff.2 ⟨h.accepted, rfl⟩, h.refused, rfl⟩
  rw [Policy.parse, failed, Nat.add_comm 1]
  rfl

/-- Texts that begin with the same lines, the last of which is refused, fail the same way. -/
theorem parse_of_take (same : (bytes.splitOn 10).take (before.length + 1) = before ++ [line])
    (h : Refused suite before line e) :
    Policy.parse suite bytes = .error (.atLine (before.length + 1) e) := by
  have split : bytes.splitOn 10 =
      before ++ line :: (bytes.splitOn 10).drop (before.length + 1) := by
    rw [List.append_cons, ← same, List.take_append_drop]
  exact parse_of_refused split h

theorem accepted_or_refused (suite : Suite) (lines : List (List UInt8)) :
    Accepted suite lines ∨
      ∃ before line after e, lines = before ++ line :: after ∧ Refused suite before line e := by
  cases taken : takeLines suite .new 1 lines with
  | ok d => exact .inl (takeLines_new_ok_iff.1 taken).1
  | error e =>
      right
      obtain ⟨before, line, after, d, cause, split, passed, refused, _⟩ :=
        takeLines_error_iff.1 taken
      obtain ⟨accepted, rfl⟩ := takeLines_new_ok_iff.1 passed
      exact ⟨before, line, after, cause, split, accepted, refused⟩

theorem Accepted.passes (h : Accepted suite (bytes.splitOn 10)) : Passes suite bytes := by
  rw [Passes, parse_of_accepted h]
  cases built : (draftOf suite (bytes.splitOn 10)).build with
  | ok p => exact .inl ⟨p, rfl⟩
  | error e => exact .inr (congrArg _ (Draft.missing_of_build h.good built))

theorem passes_iff : Passes suite bytes ↔ Accepted suite (bytes.splitOn 10) := by
  refine ⟨fun passes => ?_, Accepted.passes⟩
  rcases accepted_or_refused suite (bytes.splitOn 10) with accepted | ⟨_, _, _, _, split, refused⟩
  · exact accepted
  · rw [Passes, parse_of_refused split refused] at passes
    simp at passes

theorem parse_atLine_iff {n : Nat} :
    Policy.parse suite bytes = .error (.atLine n e) ↔
      ∃ before line after, bytes.splitOn 10 = before ++ line :: after ∧ n = before.length + 1 ∧
        Refused suite before line e := by
  constructor
  · intro failed
    rcases accepted_or_refused suite (bytes.splitOn 10) with
      accepted | ⟨before, line, after, cause, split, refused⟩
    · rw [parse_of_accepted accepted] at failed
      have missing := Draft.missing_of_build accepted.good failed
      contradiction
    · rw [parse_of_refused split refused] at failed
      cases failed
      exact ⟨before, line, after, split, rfl, refused⟩
  · rintro ⟨before, line, after, split, rfl, refused⟩
    exact parse_of_refused split refused

theorem parse_cases (suite : Suite) (bytes : List UInt8) :
    (∃ p, Policy.parse suite bytes = .ok p) ∨ Policy.parse suite bytes = .error .missingQuorum ∨
      ∃ n e, Policy.parse suite bytes = .error (.atLine n e) ∧ 1 ≤ n ∧
        n ≤ (bytes.splitOn 10).length ∧ e.IsOfLine := by
  rcases accepted_or_refused suite (bytes.splitOn 10) with
    accepted | ⟨before, line, after, e, split, refused⟩
  · rcases accepted.passes with built | missing
    · exact .inl built
    · exact .inr (.inl missing)
  · refine .inr (.inr ⟨before.length + 1, e, parse_of_refused split refused, by omega, ?_,
      refused.isOfLine⟩)
    rw [split, List.length_append, List.length_cons]
    omega

/-- No quorum is set when no line sets one. -/
theorem quorumsOf_declares_iff :
    quorumsOf (lines.filterMap declares?) = [] ↔
      ∀ line ∈ lines, ∀ name, declares? line ≠ some (.quorum name) := by
  rw [quorumsOf, List.filterMap_filterMap, List.filterMap_eq_nil_iff]
  refine forall₂_congr fun line _ => ?_
  cases declares? line with
  | none => simp
  | some x => cases x <;> simp

theorem parse_missing_iff :
    Policy.parse suite bytes = .error .missingQuorum ↔ Accepted suite (bytes.splitOn 10) ∧
      ∀ line ∈ bytes.splitOn 10, ∀ name, declares? line ≠ some (.quorum name) := by
  constructor
  · intro missing
    have accepted := passes_iff.1 (.inr missing)
    refine ⟨accepted, quorumsOf_declares_iff.1 ?_⟩
    by_contra set
    obtain ⟨p, built⟩ := (Draft.builds_iff accepted.taken).2 set
    rw [parse_of_accepted accepted, draftOf, built] at missing
    contradiction
  · rintro ⟨accepted, none⟩
    rcases accepted.passes with ⟨p, built⟩ | missing
    · rw [parse_of_accepted accepted] at built
      exact absurd (quorumsOf_declares_iff.2 none) ((Draft.builds_iff accepted.taken).1 ⟨p, built⟩)
    · exact missing

/-- Lines before the one that is refused are a text of their own that is taken to its end. -/
theorem Accepted.passes_joined (h : Accepted suite lines) (clean : ∀ line ∈ lines, 10 ∉ line)
    {ending : List UInt8} (ends : ending ∈ [[], [10]]) :
    Passes suite ([10].intercalate lines ++ ending) := by
  obtain ⟨count, split⟩ := exists_splitOn_intercalate clean ends
  rw [passes_iff, split]
  exact h.append_blank count

theorem reading_quorum : reading (bytesOf "quorum none") = .ok (some (.quorum "none")) := by
  rw [reading, bytesOf, lineText_ok_iff.2 ⟨rfl, by simp [isForbidden, isControl]⟩]
  rfl

theorem accepted_quorum : Accepted .plain [bytesOf "quorum none"] where
  read := List.forall_mem_singleton.2 ⟨_, reading_quorum⟩
  taken := by
    rw [List.filterMap_cons, declares?_of_reading reading_quorum]
    exact (Draft.good_iff_takes rfl).1 rfl

end Script

open Script

/-- A text becomes a policy, or lacks a quorum and nothing else, or is put down to one of its lines
for something that a line can be refused for. It lacks the quorum when all lines are accepted and
none of them sets it. The line at fault is the first one that is: with it at the same place a text
fails the same way whatever follows, and the lines before it fail in nothing. -/
theorem Policy.blames_first_line (suite : Suite) (bytes : List UInt8) :
    let lines := bytes.splitOn 10
    ((∃ p, parse suite bytes = .ok p) ∨ parse suite bytes = .error .missingQuorum ∨
      ∃ n e, parse suite bytes = .error (.atLine n e) ∧ 1 ≤ n ∧ n ≤ lines.length ∧
        e.line? = none ∧ e.code ∈ PolicyError.lineCodes) ∧
    (parse suite bytes = .error .missingQuorum ↔
      Accepted suite lines ∧ ∀ line ∈ lines, ∀ name, declares? line ≠ some (.quorum name)) ∧
    ∀ n e, parse suite bytes = .error (.atLine n e) →
      (∀ other : List UInt8, (other.splitOn 10).take n = lines.take n →
        parse suite other = .error (.atLine n e)) ∧
      ∀ ending ∈ [[], [10]], Passes suite ([10].intercalate (lines.take (n - 1)) ++ ending) := by
  intro lines
  refine ⟨?_, parse_missing_iff, ?_⟩
  · rcases parse_cases suite bytes with built | missing | ⟨n, e, failed, least, most, ofLine⟩
    · exact .inl built
    · exact .inr (.inl missing)
    · exact .inr (.inr ⟨n, e, failed, least, most, PolicyError.isOfLine_iff.1 ofLine⟩)
  · intro n e failed
    obtain ⟨before, line, after, split, rfl, refused⟩ := parse_atLine_iff.1 failed
    change lines = before ++ line :: after at split
    have upTo : lines.take (before.length + 1) = before ++ [line] := by
      rw [split, List.take_length_add_append, List.take_one, List.head?_cons]
      rfl
    have front : lines.take (before.length + 1 - 1) = before := by
      rw [split, Nat.add_sub_cancel, List.take_left]
    constructor
    · intro other same
      exact parse_of_take (same.trans upTo) refused
    · intro ending ends
      rw [front]
      apply refused.accepted.passes_joined _ ends
      intro piece hp
      exact not_mem_of_mem_splitOn (split ▸ List.mem_append_left _ hp)

/-- The quorum is set twice, and that the keyword behind it has no key is not reached. -/
theorem Policy.blames_first_line_set_again :
    let twice := bytesOf "quorum none\nquorum none\n"
    parse .plain twice = .error (.atLine 2 .quorumAlreadySet) ∧
      parse .plain (twice ++ bytesOf "log") = .error (.atLine 2 .quorumAlreadySet) ∧
      Passes .plain (bytesOf "quorum none") := by
  intro twice
  have refused : takeLine .plain (draftOf .plain [bytesOf "quorum none"])
      (bytesOf "quorum none") = .error .quorumAlreadySet := by
    rw [takeLine_eq, reading_quorum, draftOf, List.filterMap_cons,
      declares?_of_reading reading_quorum]
    rfl
  have again : parse .plain twice = .error (.atLine 2 .quorumAlreadySet) :=
    parse_of_refused (show twice.splitOn 10 = [_] ++ bytesOf "quorum none" :: [[]] from rfl)
      ⟨accepted_quorum, refused⟩
  obtain ⟨_, _, blamed⟩ := blames_first_line .plain twice
  obtain ⟨whatever, front⟩ := blamed 2 _ again
  exact ⟨again, whatever _ rfl, front [] (by simp)⟩

/-- A text that is taken to its end is plain as a whole, comments included. A line that is not,
behind lines that are accepted, is refused for what is wrong with its characters. -/
theorem Policy.passes_plain_only (suite : Suite) (bytes : List UInt8) :
    (Passes suite bytes → IsPlain bytes) ∧
    ∀ before line after, bytes.splitOn 10 = before ++ line :: after → Accepted suite before →
      ¬IsPlain line → ∃ e, Fault line e ∧
        parse suite bytes = .error (.atLine (before.length + 1) e) := by
  constructor
  · intro passes
    have accepted := passes_iff.1 passes
    have whole : [10].intercalate (bytes.splitOn 10) = bytes := List.intercalate_splitOn 10
    rw [← whole]
    refine isPlain_joined fun line mem => ?_
    obtain ⟨x, read⟩ := accepted.read line mem
    exact isPlain_of_reading (not_mem_of_mem_splitOn mem) read
  · intro before line after split accepted bad
    have whole : 10 ∉ line := not_mem_of_mem_splitOn (split ▸ by simp : line ∈ bytes.splitOn 10)
    obtain ⟨e, fault, failed⟩ := fault_of_not_plain whole bad
    refine ⟨e, fault, parse_of_refused split ⟨accepted, ?_⟩⟩
    rw [takeLine_eq, failed]
    rfl

/-- The comment has a next line control, and behind it is a byte that is no better. -/
theorem Policy.passes_plain_only_comment :
    parse .plain (bytesOf "quorum none\n# a\u0085b\n\x01") =
        .error (.atLine 2 (.invalidCharacter '\u0085')) ∧
      Passes .plain (bytesOf "quorum none") ∧ IsPlain (bytesOf "quorum none") := by
  have fault : Fault (bytesOf "# a\u0085b") (.invalidCharacter '\u0085') :=
    .high (find?_forbiddenByte_none.1 rfl)
      (show _ = utf8 ("# a".toList ++ '\u0085' :: ['b']) from rfl) (by decide)
      (by simp [IsHighControl])
  obtain ⟨e, found, failed⟩ :=
    (passes_plain_only .plain (bytesOf "quorum none\n# a\u0085b\n\x01")).2
      [bytesOf "quorum none"] _ [[1]] rfl accepted_quorum (fault.not_plain (by decide))
  have same := (lineText_error_iff.2 found).symm.trans (lineText_error_iff.2 fault)
  rw [Except.error.inj same] at failed
  have passes : Passes .plain (bytesOf "quorum none") := Accepted.passes accepted_quorum
  exact ⟨failed, passes, (passes_plain_only .plain _).1 passes⟩

end Witnessed
