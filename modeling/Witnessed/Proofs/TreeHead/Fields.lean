import Witnessed.Proofs.Text.Lines
import Witnessed.Proofs.Text.Numerals
import Witnessed.Proofs.TreeHead.Collect
import Witnessed.TreeHead.Fields

/-!
What the readers of `key=value` lines accept. Each of them takes a text just when its writer
gives it back, so the only freedom that a whole text has is the order of its cosignature lines.
-/

namespace Witnessed

theorem Octets.ofHex_ok_iff {kind : Kind} {cs : List Char} {o : Octets kind}
    (lower : ∀ c ∈ cs, c.isUpper = false) :
    ofHex kind cs = .ok o ↔ cs = Hex.encode o.bytes := by
  rw [← Hex.decode_ok_iff lower o.length_bytes]
  cases read : Hex.decode kind.size (utf8 cs) with
  | error fault => simp [ofHex, read]
  | ok bytes =>
      by_cases length : bytes.length = kind.size
      · simp [ofHex, read, ofBytes?, length, ← Octets.bytes_inj]
      · have other : bytes ≠ o.bytes := fun eq => length (eq ▸ o.length_bytes)
        simp [ofHex, read, ofBytes?, length, other]

namespace Fields

/-! ## Values -/

theorem onLine_ok_iff {α : Type} {position : Nat} {result : Except Fault α} {a : α} :
    onLine position result = .ok a ↔ result = .ok a := by
  cases result <;> simp [onLine]

theorem line_inj {key : Key} {v w : List Char} : line key v = line key w ↔ v = w := by
  simp [line]

theorem valueOf_ok_iff {key : Key} {text v : List Char} :
    valueOf key text = .ok v ↔ text = line key v := by
  have split : line key v = line key [] ++ v := by simp [line]
  rw [split, ← after?_eq_some_iff]
  cases rest : after? (line key []) text <;> simp [valueOf, rest]

theorem number_ok_iff {fault : Fault} {text : List Char} {n : UInt64} :
    number fault text = .ok n ↔ text = Decimal.render n.toNat := by
  rw [← Decimal.parse?_eq_some_iff]
  cases read : Decimal.parse? text <;> simp [number, read]

theorem octets_ok_iff {kind : Kind} {text : List Char} {o : Octets kind} :
    octets kind text = .ok o ↔ text = Hex.encode o.bytes := by
  by_cases upper : text.any Char.isUpper = true
  · have other : text ≠ Hex.encode o.bytes := by
      rintro rfl
      obtain ⟨c, mem, upper⟩ := List.any_eq_true.1 upper
      rw [Hex.encode_lower o.bytes c mem] at upper
      contradiction
    simp [octets, upper, other]
  · have lower : ∀ c ∈ text, c.isUpper = false := by simpa using upper
    rw [← Octets.ofHex_ok_iff lower]
    cases read : Octets.ofHex kind text <;> simp [octets, upper, read]

/-! ## Lines -/

theorem takeLine_ok_iff {position : Nat} {key : Key} {lines rest : List (List Char)}
    {v : List Char} :
    takeLine position key lines = .ok (v, rest) ↔ lines = line key v :: rest := by
  cases lines with
  | nil => simp [takeLine, onLine]
  | cons text later =>
      rw [List.cons.injEq, ← valueOf_ok_iff, ← @onLine_ok_iff _ position]
      cases read : onLine position (valueOf key text) <;> simp [takeLine, read, Except.map]

theorem takeSigned_ok_iff {lines rest : List (List Char)} {signed : SignedTreeHead} :
    takeSigned lines = .ok (signed, rest) ↔ lines = signedLines signed ++ rest := by
  obtain ⟨⟨size, root⟩, signature⟩ := signed
  simp only [takeSigned, bind_ok_iff, pure_ok_iff, Prod.exists, takeLine_ok_iff, onLine_ok_iff,
    number_ok_iff, octets_ok_iff, signedLines, Prod.mk.injEq, SignedTreeHead.mk.injEq,
    TreeHead.mk.injEq]
  constructor
  · rintro ⟨_, _, rfl, _, rfl, _, _, rfl, _, rfl, _, _, rfl, _, rfl, ⟨⟨rfl, rfl⟩, rfl⟩, rfl⟩
    rfl
  · rintro rfl
    exact ⟨_, _, rfl, _, rfl, _, _, rfl, _, rfl, _, _, rfl, _, rfl, ⟨⟨rfl, rfl⟩, rfl⟩, rfl⟩

theorem splitOn_space_iff {text a b c : List Char} :
    text.splitOn ' ' = [a, b, c] ↔
      text = a ++ ' ' :: b ++ ' ' :: c ∧ ' ' ∉ a ∧ ' ' ∉ b ∧ ' ' ∉ c := by
  simp [splitOn_eq_iff, List.intercalate]

theorem cosignatureOfLine_ok_iff {text : List Char} {c : Cosignature} :
    cosignatureOfLine text = .ok c ↔ text = cosignatureLine c := by
  obtain ⟨witness, time, signature⟩ := c
  have split : ∀ v : List Char, v.splitOn ' ' = [Hex.encode witness.bytes,
      Decimal.render time.toNat, Hex.encode signature.bytes] ↔
      line .cosignature v = cosignatureLine ⟨witness, time, signature⟩ := by
    intro v
    simp [splitOn_space_iff, cosignatureLine, line_inj, Hex.not_mem_encode,
      Decimal.not_mem_render]
  simp only [cosignatureOfLine, bind_ok_iff, valueOf_ok_iff]
  constructor
  · rintro ⟨v, rfl, h⟩
    rw [← split]
    split at h
    · rename_i fields
      simp only [bind_ok_iff, pure_ok_iff, octets_ok_iff, number_ok_iff] at h
      obtain ⟨_, rfl, _, rfl, _, rfl, eq⟩ := h
      cases eq
      exact fields
    · contradiction
  · rintro rfl
    refine ⟨_, rfl, ?_⟩
    rw [(split _).2 rfl]
    simp only [bind_ok_iff, pure_ok_iff, octets_ok_iff, number_ok_iff]
    exact ⟨_, rfl, _, rfl, _, rfl, rfl⟩

theorem cosignatureLine_inj {c d : Cosignature} :
    cosignatureLine c = cosignatureLine d ↔ c = d := by
  constructor
  · intro same
    have left := cosignatureOfLine_ok_iff.2 same
    rw [cosignatureOfLine_ok_iff.2 rfl] at left
    exact Except.ok.inj left
  · rintro rfl
    rfl

/-- Written cosignature lines add just what adding the cosignatures does. -/
theorem addLines_map (position : Nat) (head : CosignedTreeHead) (cs : List Cosignature) :
    addLines position head (cs.map cosignatureLine) = head.addAll cs := by
  induction cs generalizing position head with
  | nil => rfl
  | cons c rest ih =>
      rw [List.map_cons, addLines, cosignatureOfLine_ok_iff.2 rfl]
      simp only [ih]
      rfl

theorem addLines_ok_iff {position : Nat} {lines : List (List Char)}
    {head head' : CosignedTreeHead} :
    addLines position head lines = .ok head' ↔
      ∃ cs : List Cosignature, lines = cs.map cosignatureLine ∧ head.addAll cs = .ok head' := by
  constructor
  · intro h
    induction lines generalizing position head with
    | nil => exact ⟨[], rfl, h⟩
    | cons text rest ih =>
        simp only [addLines, bind_ok_iff, onLine_ok_iff, cosignatureOfLine_ok_iff] at h
        obtain ⟨c, rfl, next, added, later⟩ := h
        obtain ⟨cs, rfl, others⟩ := ih later
        exact ⟨c :: cs, rfl, bind_ok_iff.2 ⟨next, added, others⟩⟩
  · rintro ⟨cs, rfl, all⟩
    rw [addLines_map, all]

/-! ## Whole texts -/

/-- The text of a signed tree head and cosignatures, in the order given. -/
def textOf (signed : SignedTreeHead) (cs : List Cosignature) : String :=
  String.ofList (unlines (signedLines signed ++ cs.map cosignatureLine))

theorem not_mem_line {key : Key} {v : List Char} (clean : '\n' ∉ v) : '\n' ∉ line key v := by
  cases key <;> simp [line, Key.name, clean]

theorem lines_clean (signed : SignedTreeHead) (cs : List Cosignature) :
    ∀ text ∈ signedLines signed ++ cs.map cosignatureLine, '\n' ∉ text := by
  simp only [signedLines, cosignatureLine, List.forall_mem_append, List.forall_mem_cons,
    List.forall_mem_map]
  refine ⟨⟨not_mem_line ?_, not_mem_line ?_, not_mem_line ?_, by simp⟩, fun c _ => not_mem_line ?_⟩
  all_goals simp [Hex.not_mem_encode, Decimal.not_mem_render]

theorem split_ok_iff {text : String} {lines : List (List Char)} :
    split text = .ok lines ↔
      lines ≠ [] ∧ text = String.ofList (unlines lines) ∧ ∀ line ∈ lines, '\n' ∉ line := by
  have same : text = String.ofList (unlines lines) ↔ text.toList = unlines lines := by
    rw [← String.toList_inj, String.toList_ofList]
  rw [same, ← linesOf_ok_iff]
  cases read : linesOf text.toList <;> simp [split, read, onLine]

theorem split_textOf (signed : SignedTreeHead) (cs : List Cosignature) :
    split (textOf signed cs) = .ok (signedLines signed ++ cs.map cosignatureLine) :=
  split_ok_iff.2 ⟨List.cons_ne_nil _ _, rfl, lines_clean signed cs⟩

theorem textOf_inj {signed : SignedTreeHead} {cs ds : List Cosignature} :
    textOf signed cs = textOf signed ds ↔ cs = ds := by
  constructor
  · intro same
    have lines := unlines_inj (lines_clean signed cs) (lines_clean signed ds)
      (String.ofList_injective same)
    exact (List.map_inj_right fun _ _ => cosignatureLine_inj.1).1
      (List.append_cancel_left lines)
  · rintro rfl
    rfl

end Fields

namespace CosignedTreeHead

open Fields

/-- The text of cosignatures is read just as they are collected. -/
theorem parse_textOf_eq (signed : SignedTreeHead) (cs : List Cosignature) :
    parse (textOf signed cs) = ofList signed cs := by
  unfold parse
  rw [split_textOf]
  simp only [bind, Except.bind, takeSigned_ok_iff.2 rfl, addLines_map, ofList]

theorem parse_ok_iff {text : String} {head : CosignedTreeHead} :
    parse text = .ok head ↔
      ∃ cs : List Cosignature, text = textOf head.signed cs ∧ ofList head.signed cs = .ok head := by
  constructor
  · simp only [parse, bind_ok_iff, Prod.exists, takeSigned_ok_iff, addLines_ok_iff, split_ok_iff]
    rintro ⟨_, ⟨_, rfl, _⟩, signed, _, rfl, cs, rfl, added⟩
    have signed : head.signed = signed := ofList_signed added
    subst signed
    exact ⟨cs, rfl, added⟩
  · rintro ⟨cs, rfl, added⟩
    rw [parse_textOf_eq, added]

theorem parse_textOf {signed : SignedTreeHead} {cs : List Cosignature} {head : CosignedTreeHead}
    (h : ofList signed cs = .ok head) : parse (textOf signed cs) = .ok head := by
  rw [parse_textOf_eq, h]

theorem render_eq_textOf_iff {signed : SignedTreeHead} {cs : List Cosignature}
    {head : CosignedTreeHead} (h : ofList signed cs = .ok head) :
    head.render = textOf signed cs ↔ cs.Pairwise fun a b => a.witness < b.witness := by
  rw [← ofList_values_eq_iff h, ← ofList_signed h]
  exact textOf_inj

/-- Read and written again, a text is the same when its cosignature lines ascend, and only
then. The order of these lines is all that reading forgets. -/
theorem render_parse_iff {text : String} {head : CosignedTreeHead} (h : parse text = .ok head) :
    ∃ cs : List Cosignature, text = textOf head.signed cs ∧ head.cosignatures.values.Perm cs ∧
      (head.render = text ↔ cs.Pairwise fun a b => a.witness < b.witness) := by
  obtain ⟨cs, rfl, collected⟩ := parse_ok_iff.1 h
  exact ⟨cs, rfl, ofList_values_perm collected, render_eq_textOf_iff collected⟩

def blank : SignedTreeHead := ⟨⟨5, .fill .hash 0⟩, .fill .signature 0⟩

/-- Two cosignatures, that of the later key hash first. -/
def unsorted : List Cosignature :=
  [⟨.fill .keyHash 2, 7, .fill .signature 0⟩, ⟨.fill .keyHash 1, 8, .fill .signature 0⟩]

theorem render_parse_unsorted :
    ∃ head, parse (textOf blank unsorted) = .ok head ∧
      ∃ cs : List Cosignature, textOf blank unsorted = textOf head.signed cs ∧
        head.cosignatures.values.Perm cs ∧
        (head.render = textOf blank unsorted ↔ cs.Pairwise fun a b => a.witness < b.witness) := by
  obtain ⟨head, collected⟩ : ∃ head, ofList blank unsorted = .ok head := ⟨_, rfl⟩
  exact ⟨head, parse_textOf collected, render_parse_iff (parse_textOf collected)⟩

theorem unsorted_not_canonical :
    ∃ head, parse (textOf blank unsorted) = .ok head ∧
      head.render ≠ textOf blank unsorted := by
  obtain ⟨head, collected⟩ : ∃ head, ofList blank unsorted = .ok head := ⟨_, rfl⟩
  refine ⟨head, parse_textOf collected, fun same => ?_⟩
  have ascending := (render_eq_textOf_iff collected).1 same
  revert ascending
  decide

end CosignedTreeHead

end Witnessed
