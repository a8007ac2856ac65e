import Witnessed.Proofs.Checkpoint.Signers
import Witnessed.Suite.Ed25519

/-!
Lines of witnesses among the signature lines of a checkpoint. Wherever such a line is put in, the
checkpoint that is read stays what it was. Only the number of lines counts: a line more than the
sixteen that may stand there makes the text one of too many signatures.
-/

namespace Witnessed

variable {suite : Suite}

namespace Checkpoint

open Note

/-- The signature lines: those after the header and the empty line. -/
def paragraph (text : String) : List (List Char) :=
  (linesIn text).drop 4

/-- Puts an ended line into the text after `i` signature lines, or after all if there are fewer. -/
def insertLine (text : String) (i : Nat) (line : String) : String :=
  asText ((linesIn text).take (4 + i)) ++ line ++ asText ((linesIn text).drop (4 + i))

variable {text : String} {c : Checkpoint} {entries : List Entry}

theorem linesIn_of (name : IsName c.origin.toList) (wellFormed : ∀ e ∈ entries, e.WellFormed) :
    linesIn (Written.of c entries).text =
      c.signed.head.lines c.origin.toList ++ [] :: entries.map (·.line) := by
  rw [text_of]
  exact linesIn_asText (lines_clean name wellFormed c.signed.head)

theorem paragraph_of (name : IsName c.origin.toList) (wellFormed : ∀ e ∈ entries, e.WellFormed) :
    paragraph (Written.of c entries).text = entries.map (·.line) := by
  unfold paragraph
  rw [linesIn_of name wellFormed]
  rfl

theorem paragraph_text {w : Written} (wellFormed : w.WellFormed) :
    paragraph w.text = w.entries.map (·.line) := by
  obtain ⟨c, _, fields⟩ := exists_parse wellFormed
  obtain ⟨entries, rfl, name, others, _⟩ := wellFormed_says_iff.1 ⟨wellFormed, fields⟩
  exact paragraph_of name others

/-- A witness's line in the text is its entry among the others. -/
theorem insertLine_of (name : IsName c.origin.toList) (wellFormed : ∀ e ∈ entries, e.WellFormed)
    (i : Nat) (w : NamedCosignature) :
    insertLine (Written.of c entries).text i (w.line suite) =
      (Written.of c (entries.take i ++ w.entry suite :: entries.drop i)).text := by
  have before : (linesIn (Written.of c entries).text).take (4 + i) =
      c.signed.head.lines c.origin.toList ++ [] :: (entries.take i).map (·.line) := by
    rw [linesIn_of name wellFormed, List.map_take, Nat.add_comm]
    rfl
  have after : (linesIn (Written.of c entries).text).drop (4 + i) =
      (entries.drop i).map (·.line) := by
    rw [linesIn_of name wellFormed, List.map_drop, ← List.drop_drop]
    rfl
  unfold insertLine
  rw [before, after, text_of, ← String.toList_inj]
  simp only [asText, String.toList_append, String.toList_ofList, w.toList_line,
    List.map_append, List.map_cons, unlines_append, unlines_cons, List.append_assoc]

theorem wellFormed_insert {w : NamedCosignature} (names : IsName w.name.toList)
    (wellFormed : ∀ e ∈ entries, e.WellFormed) (i : Nat) :
    ∀ e ∈ entries.take i ++ w.entry suite :: entries.drop i, e.WellFormed := by
  rw [List.forall_mem_append, List.forall_mem_cons]
  refine ⟨?_, w.entry_wellFormed names, ?_⟩
  · intro e mem
    exact wellFormed e (List.mem_of_mem_take mem)
  · intro e mem
    exact wellFormed e (List.mem_of_mem_drop mem)

theorem filterMap_held_insert (w : NamedCosignature) (origin : List Char) (i : Nat) :
    (entries.take i ++ w.entry suite :: entries.drop i).filterMap (·.held origin) =
      entries.filterMap (·.held origin) := by
  rw [List.filterMap_append, List.filterMap_cons_none (w.held_entry origin),
    ← List.filterMap_append, List.take_append_drop]

theorem parse_tooMany (name : IsName c.origin.toList) (wellFormed : ∀ e ∈ entries, e.WellFormed)
    (many : maxSignatures < entries.length)
    (own : entries.filterMap (·.held c.origin.toList) = [(c.keyId, c.signed.signature)]) :
    parse (Written.of c entries).text = .error (.tooManySignatures maxSignatures) := by
  have few : entries.filterMap (·.held c.origin.toList) =
      (some (c.keyId, c.signed.signature)).toList := own
  rw [text_of, parse_lines name wellFormed, findLog_tooMany wellFormed many few]
  rfl

/-- Lines of witnesses never disturb a checkpoint. Put in at any place among the signature lines
of an accepted text, under any name, the log's own too, such a line is skipped, unless it is one
too many. -/
theorem keeps_under_witnesses (read : parse text = .ok c) :
    asText (linesIn text) = text ∧
    1 ≤ (paragraph text).length ∧ (paragraph text).length ≤ 16 ∧
    ∀ (i : Nat) (name : String) (key : PublicKey) (cosignature : Cosignature),
      IsName name.toList →
        ((paragraph text).length < 16 →
          parse (insertLine text i (cosignature.line suite name key)) = .ok c) ∧
        ((paragraph text).length = 16 →
          parse (insertLine text i (cosignature.line suite name key)) =
            .error (.tooManySignatures 16)) := by
  obtain ⟨entries, rfl, origin, wellFormed, few, own⟩ := parse_text_iff.1 read
  have some : entries ≠ [] := by
    rintro rfl
    contradiction
  have whole : asText (linesIn (Written.of c entries).text) = (Written.of c entries).text := by
    rw [linesIn_of origin wellFormed, text_of]
    rfl
  rw [paragraph_of origin wellFormed, List.length_map]
  refine ⟨whole, List.length_pos_iff.2 some, few, ?_⟩
  intro i name key cosignature names
  let w : NamedCosignature := ⟨name, key, cosignature⟩
  have others := @wellFormed_insert suite entries w names wellFormed i
  have same := (@filterMap_held_insert suite entries w c.origin.toList i).trans own
  have count : (entries.take i ++ w.entry suite :: entries.drop i).length = entries.length + 1 := by
    rw [List.length_append, List.length_cons, List.length_take, List.length_drop]
    omega
  have line : cosignature.line suite name key = w.line suite := rfl
  rw [line, insertLine_of origin wellFormed]
  constructor
  · intro room
    apply parse_text_iff.2
    exact ⟨_, rfl, origin, others, by omega, same⟩
  · intro full
    apply parse_tooMany origin others ?_ same
    rw [count, full]
    decide

/-- As many signature lines as there may be. -/
def full : Written :=
  { crowded with entries := crowded.entries ++ List.replicate 13 ⟨['b'], [1]⟩ }

theorem full_wellFormed : full.WellFormed := by
  refine ⟨by decide, by decide, rfl, by decide, ?_, rfl⟩
  apply List.forall_mem_append.2 ⟨crowded_wellFormed.entries, ?_⟩
  intro e mem
  rw [List.eq_of_mem_replicate mem]
  exact ⟨by decide, nofun⟩

theorem keeps_under_witnesses_own_name :
    let line := Cosignature.line .standard
      ⟨.fill .keyHash 1, 7, .fill .signature 2⟩ "a" (.fill .publicKey 3)
    (∃ c, parse crowded.text = .ok c ∧ (paragraph crowded.text).length = 3 ∧
      parse (insertLine crowded.text 0 line) = .ok c ∧
      parse (insertLine crowded.text 2 line) = .ok c) ∧
    ∃ c, parse full.text = .ok c ∧ (paragraph full.text).length = 16 ∧
      parse (insertLine full.text 16 line) = .error (.tooManySignatures 16) := by
  intro line
  have name : IsName "a".toList := by decide
  obtain ⟨c, read, _⟩ := exists_parse crowded_wellFormed
  obtain ⟨d, reads, _⟩ := exists_parse full_wellFormed
  have three : (paragraph crowded.text).length = 3 := by
    rw [paragraph_text crowded_wellFormed]
    rfl
  have sixteen : (paragraph full.text).length = 16 := by
    rw [paragraph_text full_wellFormed]
    rfl
  obtain ⟨_, _, _, kept⟩ := @keeps_under_witnesses .standard _ _ read
  obtain ⟨_, _, _, refused⟩ := @keeps_under_witnesses .standard _ _ reads
  refine ⟨⟨c, read, three, ?_, ?_⟩, d, reads, sixteen, ?_⟩
  · exact (kept 0 _ _ _ name).1 (by omega)
  · exact (kept 2 _ _ _ name).1 (by omega)
  · exact (refused 16 _ _ _ name).2 sixteen

end Checkpoint

end Witnessed
