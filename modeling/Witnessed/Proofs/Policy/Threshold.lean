import Witnessed.Policy.Threshold
import Witnessed.Proofs.Text.Forms

/-!
Counts and thresholds as they are written. Each has one spelling and no other text is read, so
that a text that is read and written again is the same text.
-/

namespace Witnessed

namespace Decimal

variable {cs : List Char}

theorem parse?_eq_none_iff : parse? cs = none ↔ ¬IsNumeral cs := by
  rw [isNumeral_iff, Option.eq_none_iff_forall_ne_some, not_exists]
  exact forall_congr' fun n => not_congr parse?_eq_some_iff

/-- What keeps a text from being a numeral. -/
theorem not_isNumeral_iff :
    ¬IsNumeral cs ↔ cs = [] ∨ (∃ c ∈ cs, ¬('0' ≤ c ∧ c ≤ '9')) ∨
      (∃ rest, rest ≠ [] ∧ cs = '0' :: rest) ∨ UInt64.size ≤ value cs := by
  constructor
  · intro none
    by_contra faultless
    simp only [not_or, not_exists, not_and_not_right, Nat.not_le] at faultless
    obtain ⟨nonempty, digits, lead, fits⟩ := faultless
    refine none ⟨nonempty, digits, fun zero => ?_, fits⟩
    obtain ⟨rest, rfl⟩ := List.head?_eq_some_iff.1 zero
    by_contra more
    exact lead rest ⟨fun alone => more (by rw [alone]), rfl⟩
  · rintro (rfl | ⟨c, mem, other⟩ | ⟨rest, more, rfl⟩ | large) numeral
    · exact numeral.nonempty rfl
    · exact other (numeral.digits c mem)
    · exact more (List.cons_eq_cons.1 (numeral.lead rfl)).2
    · exact Nat.not_lt.2 large numeral.fits

end Decimal

namespace Threshold

theorem parse?_render (threshold : Threshold) : parse? threshold.render = some threshold := by
  cases threshold with
  | any | all => rfl
  | count n =>
      have lead : 'a' ∉ Decimal.render n.toNat := Decimal.not_mem_render rfl _
      have any : Decimal.render n.toNat ≠ "any".toList := fun eq => lead (eq ▸ by decide)
      have all : Decimal.render n.toNat ≠ "all".toList := fun eq => lead (eq ▸ by decide)
      rw [render, parse?, if_neg any, if_neg all, Decimal.parse?_eq_some_iff.2 rfl,
        Option.map_some]

theorem parse?_eq_some_iff {cs : List Char} {threshold : Threshold} :
    parse? cs = some threshold ↔ cs = threshold.render := by
  constructor
  · intro read
    rw [parse?] at read
    split at read
    · rename_i any
      cases read
      exact any
    · split at read
      · rename_i all
        cases read
        exact all
      · obtain ⟨n, number, rfl⟩ := Option.map_eq_some_iff.1 read
        exact Decimal.parse?_eq_some_iff.1 number
  · rintro rfl
    exact parse?_render threshold

/-- A decimal is read just when it is how a number below 2^64 is usually written, and that number
is read: there is no other spelling, and whatever looks different or is too large is refused, as a
loop finds out that stops at the first digit that makes the number too large. A threshold is read
just when it is how the threshold is written. -/
theorem one_spelling :
    (∀ (s : String) (n : Nat), (Decimal.parse? s.toList).map UInt64.toNat = some n ↔
      n < UInt64.size ∧ s = toString n) ∧
    (∀ s : String, Decimal.parse? s.toList = none ↔
      s = "" ∨ (∃ c ∈ s.toList, ¬('0' ≤ c ∧ c ≤ '9')) ∨
        (∃ rest, rest ≠ [] ∧ s.toList = '0' :: rest) ∨ UInt64.size ≤ Decimal.value s.toList) ∧
    (∀ s : String, Decimal.parse? s.toList =
      if Decimal.isCanonical s.toList then Decimal.accumulate? 0 s.toList else none) ∧
    ∀ (s : String) (threshold : Threshold),
      parse? s.toList = some threshold ↔ s = String.ofList threshold.render := by
  refine ⟨fun s n => ?_, fun s => ?_, fun s => Decimal.parse?_eq_accumulate? s.toList,
    fun s threshold => ?_⟩
  · have written : s = toString n ↔ s.toList = Decimal.render n := by
      rw [← String.toList_inj]
      exact Eq.congr_right String.toList_ofList
    rw [Option.map_eq_some_iff, written]
    constructor
    · rintro ⟨w, read, rfl⟩
      exact ⟨w.toNat_lt, Decimal.parse?_eq_some_iff.1 read⟩
    · rintro ⟨fits, text⟩
      have exact : (UInt64.ofNat n).toNat = n := UInt64.toNat_ofNat_of_lt' fits
      exact ⟨UInt64.ofNat n, Decimal.parse?_eq_some_iff.2 (by rw [exact, text]), exact⟩
  · rw [Decimal.parse?_eq_none_iff, Decimal.not_isNumeral_iff, String.toList_eq_nil_iff]
  · rw [parse?_eq_some_iff, ← String.toList_inj, String.toList_ofList]

example : Decimal.parse? "18446744073709551615".toList = some 18446744073709551615 ∧
    Decimal.parse? "18446744073709551616".toList = none ∧ parse? "01".toList = none := by
  decide

end Threshold

end Witnessed
