/-!
Sets as ascending lists.
-/

namespace Witnessed

variable {α : Type} [LT α] [DecidableLT α] [DecidableEq α]

/-- Puts an element in its place, unless it is there. -/
def insertOnce (a : α) : List α → List α
  | [] => [a]
  | b :: rest =>
      if a < b then a :: b :: rest
      else if a = b then b :: rest
      else b :: insertOnce a rest

/-- The same elements, ascending and each once. -/
def ascending (xs : List α) : List α :=
  xs.foldr insertOnce []

theorem mem_insertOnce {a b : α} {xs : List α} : b ∈ insertOnce a xs ↔ b = a ∨ b ∈ xs := by
  induction xs with
  | nil => simp [insertOnce]
  | cons c rest ih =>
      simp only [insertOnce]
      split
      · simp
      · split
        · rename_i same
          simp [same]
        · simp only [List.mem_cons, ih, or_left_comm]

theorem mem_ascending {a : α} {xs : List α} : a ∈ ascending xs ↔ a ∈ xs := by
  induction xs with
  | nil => rfl
  | cons b rest ih =>
      rw [ascending, List.foldr_cons, mem_insertOnce, ← ascending, ih, List.mem_cons]

section LinearOrder

variable [LE α] [Std.IsLinearOrder α] [Std.LawfulOrderLT α]

theorem insertOnce_pairwise (a : α) {xs : List α} (h : xs.Pairwise (· < ·)) :
    (insertOnce a xs).Pairwise (· < ·) := by
  induction xs with
  | nil => exact List.pairwise_singleton ..
  | cons b rest ih =>
      obtain ⟨first, later⟩ := List.pairwise_cons.1 h
      simp only [insertOnce]
      split
      · rename_i lt
        refine List.pairwise_cons.2 ⟨fun c mem => ?_, h⟩
        rcases List.mem_cons.1 mem with rfl | mem
        · exact lt
        · exact Std.lt_trans lt (first c mem)
      · split
        · exact h
        · rename_i nlt ne
          refine List.pairwise_cons.2 ⟨fun c mem => ?_, ih later⟩
          rcases mem_insertOnce.1 mem with rfl | mem
          · exact Std.lt_of_le_of_ne (Std.not_lt.1 nlt) (Ne.symm ne)
          · exact first c mem

theorem ascending_pairwise (xs : List α) : (ascending xs).Pairwise (· < ·) := by
  induction xs with
  | nil => exact .nil
  | cons a rest ih => exact insertOnce_pairwise a ih

end LinearOrder

end Witnessed
