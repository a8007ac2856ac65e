import Witnessed.Proofs.Checkpoint.Grammar

/-!
Checkpoints written and read again. Reading gives back what was written when the origin can name a
key, and nothing otherwise: an origin of several lines pushes the empty line down from where
every accepted text has it. Writing what was read leaves only the log's signature line.
-/

namespace Witnessed.Checkpoint

open Note

variable {c d : Checkpoint}

theorem render_eq (c : Checkpoint) : c.render = (Written.of c [.of c]).text := by
  simp [render, TreeHead.body, Written.of, Written.text, unlines, Entry.line, Entry.of, Entry.log,
    signatureLine, dash]

theorem nil_notMem_lines {origin : List Char} (some : origin ≠ []) (head : TreeHead) :
    [] ∉ head.lines origin := by
  have size : Decimal.render head.size.toNat ≠ [] := (Decimal.isNumeral_iff.2 ⟨_, rfl⟩).nonempty
  have root : Base64.encode head.root.bytes ≠ [] := by
    intro none
    have length := head.root.length_bytes
    rw [Base64.encode_eq_nil_iff.1 none] at length
    contradiction
  simp [TreeHead.lines, some.symm, size.symm, root.symm]

/-- The lines of a rendering, those that the origin brings in among them. -/
theorem render_lines (c : Checkpoint) :
    ∃ front tail, front = c.origin.toList.splitOn '\n' ++ (c.signed.head.lines []).tail ∧
      c.render.toList = unlines (front ++ [] :: tail) ∧
      ∀ line ∈ front ++ [] :: tail, '\n' ∉ line := by
  obtain ⟨ended, clean⟩ := unlines_splitOn c.origin.toList
  obtain ⟨ended', clean'⟩ := unlines_splitOn (Entry.of c).line
  refine ⟨_, (Entry.of c).line.splitOn '\n', rfl, ?_, ?_⟩
  · rw [render_eq, text_of, String.toList_ofList]
    simp only [TreeHead.lines, List.map_cons, List.map_nil, List.tail_cons, unlines_append,
      unlines_cons, ended, ended']
    simp [unlines]
  · have plain : ∀ line ∈ (c.signed.head.lines []).tail, '\n' ∉ line :=
      fun line mem => head_lines_clean List.not_mem_nil _ line (List.mem_of_mem_tail mem)
    simp only [List.forall_mem_append, List.forall_mem_cons]
    exact ⟨⟨clean, plain⟩, List.not_mem_nil, clean'⟩

theorem isName_of_parse (read : parse c.render = .ok d) : IsName c.origin.toList := by
  obtain ⟨entries, same, name, wellFormed, _, _⟩ := parse_text_iff.1 read
  obtain ⟨front, tail, rfl, shape, ours⟩ := render_lines c
  rw [same, text_of, String.toList_ofList] at shape
  have lines := unlines_inj (lines_clean name wellFormed d.signed.head) ours shape
  -- The read text has one empty line, so it is the one that ends the header on either side.
  have written : [] ∉ entries.map (·.line) := by
    simp [Entry.line]
  obtain ⟨header, _, _⟩ := (List.append_cons_inj_of_notMem
    (nil_notMem_lines name.nonempty d.signed.head) written).1 lines
  have origin : [d.origin.toList] = c.origin.toList.splitOn '\n' :=
    List.append_inj_left' header rfl
  have whole := (splitOn_eq_iff.1 origin.symm).2.1
  rw [List.intercalate_singleton] at whole
  exact whole ▸ name

theorem wellFormed_of (name : IsName c.origin.toList) : (Entry.of c).WellFormed := by
  refine ⟨name, fun none => ?_⟩
  have length : (Entry.of c).blob.length = 68 := length_log ..
  rw [none] at length
  contradiction

theorem parse_render (name : IsName c.origin.toList) : parse c.render = .ok c := by
  refine parse_text_iff.2 ⟨[.of c], render_eq c, name, ?_, by simp, ?_⟩
  · exact List.forall_mem_singleton.2 (wellFormed_of name)
  · exact List.filterMap_cons_some (held_eq_some_iff.2 rfl)

theorem render_of_parse {text : String} (read : parse text = .ok c) :
    ∃ w : Written, w.WellFormed ∧ text = w.text ∧
      c.render = { w with entries := w.entries.filter (·.isLogs w.origin) }.text ∧
      (w.entries.length = 1 → c.render = text) := by
  obtain ⟨w, wellFormed, rfl, fields⟩ := parse_ok_iff.1 read
  obtain ⟨entries, rfl, _, _, _, own⟩ := wellFormed_says_iff.1 ⟨wellFormed, fields⟩
  have kept : entries.filter (·.isLogs c.origin.toList) = [.of c] := by
    rw [filter_isLogs, own]
    rfl
  have render : c.render = (Written.of c (entries.filter (·.isLogs c.origin.toList))).text := by
    rw [kept, render_eq]
  refine ⟨_, wellFormed, rfl, render, fun single => ?_⟩
  have all : entries.filter (·.isLogs c.origin.toList) = entries := by
    refine List.filter_sublist.eq_of_length ?_
    rw [kept]
    exact single.symm
  rw [render, all]

/-- Reading and writing undo each other. A checkpoint whose origin names no key is read as no
checkpoint at all, and of an accepted text writing drops the signature lines that are not the
log's, and nothing else. -/
theorem renders_read :
    (∀ c : Checkpoint, IsName c.origin.toList → parse c.render = .ok c) ∧
    (∀ c : Checkpoint, ¬IsName c.origin.toList → ∃ e, parse c.render = .error e) ∧
    ∀ text c, parse text = .ok c → ∃ w : Written, w.WellFormed ∧ text = w.text ∧
      c.render = { w with entries := w.entries.filter (·.isLogs w.origin) }.text ∧
      (w.entries.length = 1 → c.render = text) := by
  refine ⟨fun c => parse_render, fun c other => ?_, fun text c => render_of_parse⟩
  cases read : parse c.render with
  | error e => exact ⟨e, rfl⟩
  | ok d => exact absurd (isName_of_parse read) other

def plain : Checkpoint := ⟨"a", ⟨⟨7, .fill .hash 0⟩, .fill .signature 1⟩, .fill .keyId 2⟩

/-- A checkpoint whose origin is the text of a whole checkpoint. -/
def nested : Checkpoint := { plain with origin := plain.render }

theorem renders_read_nested :
    (IsName plain.origin.toList ∧ parse plain.render = .ok plain) ∧
    (¬IsName nested.origin.toList ∧ ∃ e, parse nested.render = .error e) ∧
    ∃ c, parse crowded.text = .ok c ∧ ∃ w : Written, w.WellFormed ∧ crowded.text = w.text ∧
      c.render = { w with entries := w.entries.filter (·.isLogs w.origin) }.text ∧
      (w.entries.length = 1 → c.render = crowded.text) := by
  have named : IsName plain.origin.toList := by decide
  have unnamed : ¬IsName nested.origin.toList := by
    intro name
    refine name.not_mem (.inr rfl) ?_
    simp [nested, render]
  refine ⟨⟨named, renders_read.1 plain named⟩, ⟨unnamed, renders_read.2.1 nested unnamed⟩, ?_⟩
  obtain ⟨c, read, _⟩ := exists_parse crowded_wellFormed
  exact ⟨c, read, renders_read.2.2 crowded.text c read⟩

end Witnessed.Checkpoint
