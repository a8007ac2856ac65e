import Witnessed.Proofs.TreeHead.Fields

/-!
Signed tree heads as text, beside cosigned ones. The two readers go through the same three lines
and find the same faults there; they part behind the third line, where the one wants the end of the
text and the other cosignatures. A signed tree head has one text only.
-/

namespace Witnessed

open Fields

variable {text : String} {signed : SignedTreeHead} {e : TreeHeadError}

namespace Fields

/-- The first lines of a text. -/
def firstLines (n : Nat) (text : String) : String :=
  asText ((linesIn text).take n)

theorem linesIn_textOf (signed : SignedTreeHead) (cs : List Cosignature) :
    linesIn (textOf signed cs) = signedLines signed ++ cs.map cosignatureLine :=
  linesIn_asText (lines_clean signed cs)

end Fields

/-! ## The reader of signed tree heads -/

namespace SignedTreeHead

theorem render_eq (signed : SignedTreeHead) : signed.render = textOf signed [] := by
  rw [textOf, List.map_nil, List.append_nil, render]

/-- Exactly one text is read as a signed tree head: the one that it is written as. -/
theorem parse_ok_iff : parse text = .ok signed ↔ text = signed.render := by
  unfold parse
  constructor
  · intro read
    obtain ⟨lines, ended, read⟩ := bind_ok_iff.1 read
    obtain ⟨⟨head, rest⟩, taken, read⟩ := bind_ok_iff.1 read
    cases rest with
    | nil =>
        cases read
        rw [takeSigned_ok_iff, List.append_nil] at taken
        rw [(split_ok_iff.1 ended).2.1, taken, render]
    | cons surplus rest => contradiction
  · rintro rfl
    refine bind_ok_iff.2 ⟨signedLines signed ++ [], ?_, ?_⟩
    · rw [render_eq]
      exact split_textOf signed []
    · exact bind_ok_iff.2 ⟨(signed, []), takeSigned_ok_iff.2 rfl, rfl⟩

/-- The faults: of the text as a whole, of one of the three lines, or that there is a fourth. -/
theorem parse_error_iff :
    parse text = .error e ↔ split text = .error e ∨ ∃ lines, split text = .ok lines ∧
      (takeSigned lines = .error e ∨ ∃ signed surplus rest,
        takeSigned lines = .ok (signed, surplus :: rest) ∧
          e = .malformedLine 4 (Fault.surplus surplus).reason) := by
  unfold parse
  simp only [bind_error_iff, Prod.exists]
  constructor
  · rintro (unended | ⟨lines, ended, fault | ⟨signed, rest, taken, failed⟩⟩)
    · exact .inl unended
    · exact .inr ⟨lines, ended, .inl fault⟩
    · cases rest with
      | nil => contradiction
      | cons surplus rest =>
          cases failed
          exact .inr ⟨lines, ended, .inr ⟨signed, surplus, rest, taken, rfl⟩⟩
  · rintro (unended | ⟨lines, ended, fault | ⟨signed, surplus, rest, taken, rfl⟩⟩)
    · exact .inl unended
    · exact .inr ⟨lines, ended, .inl fault⟩
    · exact .inr ⟨lines, ended, .inr ⟨signed, surplus :: rest, taken, rfl⟩⟩

end SignedTreeHead

/-! ## The reader of cosigned tree heads -/

namespace CosignedTreeHead

/-- The faults: of the text as a whole, of one of the first three lines, or of a later one. -/
theorem parse_error_iff :
    parse text = .error e ↔ split text = .error e ∨ ∃ lines, split text = .ok lines ∧
      (takeSigned lines = .error e ∨ ∃ signed rest, takeSigned lines = .ok (signed, rest) ∧
        addLines 4 (.ofSigned signed) rest = .error e) := by
  unfold parse
  simp only [bind_error_iff, Prod.exists]

theorem parse_ofSigned_iff :
    parse text = .ok (.ofSigned signed) ↔ text = signed.render := by
  rw [parse_ok_iff, SignedTreeHead.render_eq]
  constructor
  · rintro ⟨cs, rfl, collected⟩
    have none : cs = [] := List.Perm.nil_eq (ofList_values_perm collected) |>.symm
    rw [none, ofSigned]
  · rintro rfl
    exact ⟨[], rfl, rfl⟩

/-- A text with cosignatures has lines beyond the three of its signed tree head. -/
theorem exists_cosignature_line {head : CosignedTreeHead} (read : parse text = .ok head)
    (some : head.cosignatures ≠ .empty) :
    ∃ c cs, text = textOf head.signed (c :: cs) := by
  obtain ⟨cs, rfl, collected⟩ := parse_ok_iff.1 read
  cases cs with
  | nil =>
      have bare : ofSigned head.signed = head := Except.ok.inj collected
      rw [← bare] at some
      exact absurd rfl some
  | cons c cs => exact ⟨c, cs, rfl⟩

end CosignedTreeHead

/-! ## Both readers -/

/-- A text is read as a signed tree head just when it is read as that tree head with no
cosignatures. It is then the only text of the tree head. -/
theorem SignedTreeHead.readers_agree :
    (∀ text signed, parse text = .ok signed ↔
      ∃ head, CosignedTreeHead.parse text = .ok head ∧ head.signed = signed ∧
        head.cosignatures = .empty) ∧
    (∀ text signed, parse text = .ok signed → signed.render = text) ∧
    (∀ signed, parse signed.render = .ok signed) ∧
    (∀ text line reason, parse text = .error (.malformedLine line reason) → line ≤ 3 →
      CosignedTreeHead.parse text = .error (.malformedLine line reason)) ∧
    ∀ text head, CosignedTreeHead.parse text = .ok head → head.cosignatures ≠ .empty →
      parse (firstLines 3 text) = .ok head.signed ∧
        ∃ fourth, (linesIn text)[3]? = some fourth ∧
          parse text = .error (.malformedLine 4 (Fault.surplus fourth).reason) := by
  refine ⟨?_, ?_, ?_, ?_, ?_⟩
  · intro text signed
    rw [parse_ok_iff, ← CosignedTreeHead.parse_ofSigned_iff]
    constructor
    · intro read
      exact ⟨_, read, rfl, rfl⟩
    · rintro ⟨⟨_, _⟩, read, rfl, rfl⟩
      exact read
  · intro text signed read
    exact (parse_ok_iff.1 read).symm
  · intro signed
    exact parse_ok_iff.2 rfl
  · intro text line reason failed early
    rw [CosignedTreeHead.parse_error_iff]
    rcases parse_error_iff.1 failed with unended | ⟨lines, ended, fault | ⟨_, _, _, _, blamed⟩⟩
    · exact .inl unended
    · exact .inr ⟨lines, ended, .inl fault⟩
    · cases blamed
      contradiction
  · intro text head read some
    obtain ⟨c, cs, rfl⟩ := CosignedTreeHead.exists_cosignature_line read some
    have lines := linesIn_textOf head.signed (c :: cs)
    constructor
    · rw [parse_ok_iff, firstLines, lines]
      rfl
    · refine ⟨cosignatureLine c, by rw [lines]; rfl, ?_⟩
      rw [parse_error_iff]
      refine .inr ⟨_, split_textOf head.signed (c :: cs), .inr ?_⟩
      exact ⟨head.signed, cosignatureLine c, cs.map cosignatureLine, takeSigned_ok_iff.2 rfl, rfl⟩

/-- A line alone is too little for either reader, and cosignatures are too much for the one. -/
theorem SignedTreeHead.readers_agree_unsorted :
    let lone := "size=7\n"
    let text := textOf CosignedTreeHead.blank CosignedTreeHead.unsorted
    (parse lone = .error (.malformedLine 2 "missing key \"root_hash\"") ∧
      CosignedTreeHead.parse lone = .error (.malformedLine 2 "missing key \"root_hash\"")) ∧
    (∃ head, CosignedTreeHead.parse text = .ok head ∧ head.cosignatures ≠ .empty ∧
      parse (firstLines 3 text) = .ok head.signed ∧
      ∃ fourth, (linesIn text)[3]? = some fourth ∧
        parse text = .error (.malformedLine 4 (Fault.surplus fourth).reason)) ∧
    ∃ signed, parse (firstLines 3 text) = .ok signed ∧ signed.render = firstLines 3 text := by
  intro lone text
  obtain ⟨_, written, _, early, late⟩ := readers_agree
  have short : parse "size=7\n" = .error (.malformedLine 2 "missing key \"root_hash\"") := by rfl
  obtain ⟨head, collected⟩ : ∃ head, CosignedTreeHead.ofList CosignedTreeHead.blank
    CosignedTreeHead.unsorted = .ok head := ⟨_, rfl⟩
  have read := CosignedTreeHead.parse_textOf collected
  have some : head.cosignatures ≠ .empty := by
    cases collected
    decide
  obtain ⟨front, surplus⟩ := late text head read some
  exact ⟨⟨short, early _ _ _ short (by decide)⟩, ⟨head, read, some, front, surplus⟩,
    head.signed, front, written _ _ front⟩

end Witnessed
