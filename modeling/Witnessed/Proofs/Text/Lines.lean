import Witnessed.Text.Lines

/-!
Texts and their pieces. A text has one decomposition into pieces without the separator, and one
into lines that are all ended.
-/

namespace Witnessed

theorem not_mem_of_mem_splitOn {α : Type} [BEq α] [LawfulBEq α] {a : α} {xs piece : List α}
    (h : piece ∈ xs.splitOn a) : a ∉ piece := by
  induction xs generalizing piece with
  | nil =>
      rw [List.splitOn_nil, List.mem_singleton] at h
      simp [h]
  | cons x rest ih =>
      rw [List.splitOn_cons_eq_if_modifyHead] at h
      cases pieces : rest.splitOn a with
      | nil => exact absurd pieces (List.splitOn_ne_nil a rest)
      | cons first others =>
          obtain ⟨clean, later⟩ : a ∉ first ∧ ∀ piece ∈ others, a ∉ piece := by
            simpa [pieces] using @ih
          rw [pieces] at h
          split at h
          · simp only [List.mem_cons] at h
            rcases h with rfl | rfl | h
            · exact List.not_mem_nil
            · exact clean
            · exact later piece h
          · rename_i ne
            rcases List.mem_cons.1 h with rfl | h
            · have ne : a ≠ x := fun eq => ne (by simp [eq])
              simp [ne, clean]
            · exact later piece h

theorem splitOn_eq_iff {α : Type} [BEq α] [LawfulBEq α] {a : α} {xs : List α}
    {pieces : List (List α)} :
    xs.splitOn a = pieces ↔
      pieces ≠ [] ∧ xs = [a].intercalate pieces ∧ ∀ piece ∈ pieces, a ∉ piece := by
  constructor
  · rintro rfl
    exact ⟨List.splitOn_ne_nil a xs, (List.intercalate_splitOn a).symm,
      fun piece h => not_mem_of_mem_splitOn h⟩
  · rintro ⟨some, rfl, clean⟩
    exact List.splitOn_intercalate a clean some

/-- A separator at the end stands before one more piece, which is empty. -/
theorem intercalate_append_separator {α : Type} (separator : List α) {pieces : List (List α)}
    (some : pieces ≠ []) :
    separator.intercalate pieces ++ separator = separator.intercalate (pieces ++ [[]]) := by
  induction pieces with
  | nil => contradiction
  | cons first rest ih =>
      by_cases last : rest = []
      · simp [last, List.intercalate_cons_cons]
      · rw [List.cons_append, List.intercalate_cons_of_ne_nil last,
          List.intercalate_cons_of_ne_nil (by simp), List.append_assoc, ih last]

/-- Pieces that are joined are pieces again, with some blank ones behind them at most. -/
theorem exists_splitOn_intercalate {α : Type} [BEq α] [LawfulBEq α] {a : α}
    {pieces : List (List α)} (clean : ∀ piece ∈ pieces, a ∉ piece) {ending : List α}
    (ends : ending ∈ [[], [a]]) :
    ∃ count, ([a].intercalate pieces ++ ending).splitOn a = pieces ++ List.replicate count [] := by
  simp only [List.mem_cons, List.not_mem_nil, or_false] at ends
  cases pieces with
  | nil =>
      rcases ends with rfl | rfl
      · exact ⟨1, by simp⟩
      · exact ⟨2, by simp [List.splitOn_cons_eq_if_modifyHead]⟩
  | cons first rest =>
      rcases ends with rfl | rfl
      · exact ⟨0, splitOn_eq_iff.2 ⟨by simp, by simp, by simpa using clean⟩⟩
      · refine ⟨1, splitOn_eq_iff.2 ⟨by simp, intercalate_append_separator [a] (by simp), ?_⟩⟩
        rw [List.replicate_one, List.forall_mem_append, List.forall_mem_singleton]
        exact ⟨clean, List.not_mem_nil⟩

theorem unlines_append (as bs : List (List Char)) :
    unlines (as ++ bs) = unlines as ++ unlines bs :=
  List.flatMap_append

theorem unlines_cons (line : List Char) (rest : List (List Char)) :
    unlines (line :: rest) = line ++ ['\n'] ++ unlines rest :=
  List.flatMap_cons

theorem unlines_eq_intercalate (lines : List (List Char)) :
    unlines lines = ['\n'].intercalate (lines ++ [[]]) := by
  induction lines with
  | nil => rfl
  | cons line rest ih =>
      rw [unlines_cons, ih]
      cases rest <;> simp [List.intercalate]

/-- Ended lines are the pieces between line feeds, but for the last piece, which is empty. -/
theorem splitOn_eq_lines_iff {cs : List Char} {lines : List (List Char)} :
    cs.splitOn '\n' = lines ++ [[]] ↔ cs = unlines lines ∧ ∀ line ∈ lines, '\n' ∉ line := by
  simp [splitOn_eq_iff, unlines_eq_intercalate, or_imp, forall_and]

/-- A text with a line feed behind it is lines that are all ended. -/
theorem unlines_splitOn (cs : List Char) :
    unlines (cs.splitOn '\n') = cs ++ ['\n'] ∧ ∀ line ∈ cs.splitOn '\n', '\n' ∉ line := by
  have split : (cs ++ ['\n']).splitOn '\n' = cs.splitOn '\n' ++ [[]] := by
    rw [List.splitOn_append_cons_self, List.splitOn_nil]
  obtain ⟨whole, clean⟩ := splitOn_eq_lines_iff.1 split
  exact ⟨whole.symm, clean⟩

theorem linesOf_ok_iff {cs : List Char} {lines : List (List Char)} :
    linesOf cs = .ok lines ↔
      lines ≠ [] ∧ cs = unlines lines ∧ ∀ line ∈ lines, '\n' ∉ line := by
  rw [← splitOn_eq_lines_iff]
  simp only [linesOf]
  constructor
  · intro h
    split at h
    · rename_i ended
      cases h
      have whole : cs.splitOn '\n' = (cs.splitOn '\n').dropLast ++ [[]] := by
        obtain ⟨lines, eq⟩ := List.getLast?_eq_some_iff.1 ended.1
        rw [eq, List.dropLast_concat]
      refine ⟨fun none => ?_, whole⟩
      have length := congrArg List.length whole
      simp only [none, List.length_append, List.length_nil, List.length_singleton] at length
      omega
    · contradiction
  · rintro ⟨some, whole⟩
    simp [whole, List.length_pos_iff.2 some]

theorem unlines_inj {as bs : List (List Char)} (ha : ∀ line ∈ as, '\n' ∉ line)
    (hb : ∀ line ∈ bs, '\n' ∉ line) (eq : unlines as = unlines bs) : as = bs := by
  have left := splitOn_eq_lines_iff.2 ⟨rfl, ha⟩
  have right := splitOn_eq_lines_iff.2 ⟨eq, hb⟩
  exact List.append_cancel_right (left.symm.trans right)

theorem after?_eq_some_iff {front cs rest : List Char} :
    after? front cs = some rest ↔ cs = front ++ rest := by
  rw [after?, Option.ite_none_right_eq_some, List.isPrefixOf_iff_prefix, Option.some.injEq]
  constructor
  · rintro ⟨⟨tail, rfl⟩, rfl⟩
    rw [List.drop_left]
  · rintro rfl
    exact ⟨List.prefix_append front rest, List.drop_left⟩

/-! ## Texts of ended lines -/

/-- The lines of a text of which every line is ended. -/
def linesIn (text : String) : List (List Char) :=
  (text.toList.splitOn '\n').dropLast

/-- The text of the lines, each of them ended. -/
def asText (lines : List (List Char)) : String :=
  String.ofList (unlines lines)

theorem linesIn_clean (text : String) : ∀ line ∈ linesIn text, '\n' ∉ line := by
  intro line mem
  exact not_mem_of_mem_splitOn (List.dropLast_subset _ mem)

theorem linesIn_asText {lines : List (List Char)} (clean : ∀ line ∈ lines, '\n' ∉ line) :
    linesIn (asText lines) = lines := by
  rw [linesIn, asText, String.toList_ofList, splitOn_eq_lines_iff.2 ⟨rfl, clean⟩,
    List.dropLast_concat]

theorem asText_linesIn {text : String} (ended : text.toList.getLast? = some '\n') :
    linesIn text ≠ [] ∧ asText (linesIn text) = text := by
  obtain ⟨body, whole⟩ := List.getLast?_eq_some_iff.1 ended
  have lines : linesIn text = body.splitOn '\n' := by
    rw [linesIn, whole, List.splitOn_append_cons_self, List.splitOn_nil, List.dropLast_concat]
  rw [lines]
  constructor
  · exact List.splitOn_ne_nil '\n' body
  · rw [asText, (unlines_splitOn body).1, ← whole, String.ofList_toList]

theorem splitOn_unlines_append {lines : List (List Char)} (clean : ∀ line ∈ lines, '\n' ∉ line)
    (tail : List Char) : (unlines lines ++ tail).splitOn '\n' = lines ++ tail.splitOn '\n' := by
  induction lines with
  | nil => rfl
  | cons line rest ih =>
      obtain ⟨first, others⟩ := List.forall_mem_cons.1 clean
      rw [unlines_cons, List.append_assoc, List.append_assoc, List.singleton_append,
        List.splitOn_append_cons_self_of_not_mem first, ih others, List.cons_append]

/-- A text begins with ended lines just when its lines begin with them. -/
theorem unlines_prefix_iff {as bs : List (List Char)} (ha : ∀ line ∈ as, '\n' ∉ line)
    (hb : ∀ line ∈ bs, '\n' ∉ line) : unlines as <+: unlines bs ↔ as <+: bs := by
  constructor
  · rintro ⟨tail, whole⟩
    have split : as ++ tail.splitOn '\n' = bs ++ [[]] := by
      rw [← splitOn_unlines_append ha, whole]
      exact splitOn_eq_lines_iff.2 ⟨rfl, hb⟩
    have some : 0 < (tail.splitOn '\n').length :=
      List.length_pos_iff.2 (List.splitOn_ne_nil '\n' tail)
    have length := congrArg List.length split
    rw [List.length_append, List.length_append, List.length_singleton] at length
    exact List.prefix_of_prefix_length_le ⟨_, split⟩ (List.prefix_append bs [[]]) (by omega)
  · rintro ⟨rest, rfl⟩
    rw [unlines_append]
    exact List.prefix_append _ _

end Witnessed
