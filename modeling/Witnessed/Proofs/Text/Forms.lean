import Witnessed.Octets
import Witnessed.Proofs.Text.Numerals

/-!
Numerals as they look. The forms speak of characters and their places only, not of a reader or a
writer; a text has the form just when it is what the writer makes of some value.
-/

namespace Witnessed

theorem char_le_iff {c d : Char} : c ≤ d ↔ c.toNat ≤ d.toNat := by
  simp [Char.le_def, UInt32.le_iff_toNat_le]

namespace Decimal

/-- The number that digits write, the highest place first. -/
def value (cs : List Char) : Nat :=
  Nat.ofDigitChars 10 cs 0

/-- A number below 2^64 in digits alone, with no zero in front of other digits. -/
structure IsNumeral (cs : List Char) : Prop where
  nonempty : cs ≠ []
  digits : ∀ c ∈ cs, '0' ≤ c ∧ c ≤ '9'
  lead : cs.head? = some '0' → cs = ['0']
  fits : value cs < UInt64.size

instance (cs : List Char) : Decidable (IsNumeral cs) :=
  decidable_of_iff (cs ≠ [] ∧ cs.all (fun c => '0' ≤ c && c ≤ '9') = true ∧
      (cs.head? = some '0' → cs = ['0']) ∧ value cs < UInt64.size)
    ⟨fun ⟨nonempty, digits, lead, fits⟩ => ⟨nonempty, by simpa using digits, lead, fits⟩,
      fun ⟨nonempty, digits, lead, fits⟩ => ⟨nonempty, by simpa using digits, lead, fits⟩⟩

theorem value_render (n : Nat) : value (render n) = n :=
  Nat.ofDigitChars_ten_toDigits

theorem render_inj {m n : Nat} : render m = render n ↔ m = n := by
  constructor
  · intro same
    rw [← value_render m, same, value_render]
  · rintro rfl
    rfl

theorem isDigit_iff {c : Char} : c.isDigit = true ↔ '0' ≤ c ∧ c ≤ '9' := by
  simp [Char.isDigit, Char.le_def]

theorem isNumeral_iff {cs : List Char} :
    IsNumeral cs ↔ ∃ n : UInt64, cs = render n.toNat := by
  constructor
  · rintro ⟨nonempty, digits, lead, fits⟩
    have canonical : isCanonical cs = true := by
      cases cs with
      | nil => contradiction
      | cons c rest =>
          rw [isCanonical_cons]
          refine ⟨fun d hd => isDigit_iff.2 (digits d hd), ?_⟩
          rintro rfl
          simpa using lead rfl
    refine ⟨UInt64.ofNat (value cs), ?_⟩
    rw [UInt64.toNat_ofNat_of_lt' fits, value, render_value canonical]
  · rintro ⟨n, rfl⟩
    have canonical := isCanonical_render n.toNat
    cases shape : render n.toNat with
    | nil => simp [shape, isCanonical] at canonical
    | cons c rest =>
        rw [shape, isCanonical_cons] at canonical
        refine ⟨List.cons_ne_nil _ _, fun d hd => isDigit_iff.1 (canonical.1 d hd), ?_, ?_⟩
        · intro zero
          obtain rfl := Option.some.inj zero
          rw [canonical.2 rfl]
        · rw [← shape, value_render]
          exact n.toNat_lt

end Decimal

namespace Hex

/-- The value of a lowercase digit. -/
def digitValue (c : Char) : Nat :=
  if c ≤ '9' then c.toNat - '0'.toNat else c.toNat - 'a'.toNat + 10

/-- The bytes that pairs of digits write, the high digit of each first. -/
def bytes : List Char → List UInt8
  | high :: low :: rest => UInt8.ofNat (16 * digitValue high + digitValue low) :: bytes rest
  | _ => []

/-- Two lowercase digits for each of `size` bytes. -/
structure IsNumeral (size : Nat) (cs : List Char) : Prop where
  length : cs.length = 2 * size
  digits : ∀ c ∈ cs, ('0' ≤ c ∧ c ≤ '9') ∨ ('a' ≤ c ∧ c ≤ 'f')

instance (size : Nat) (cs : List Char) : Decidable (IsNumeral size cs) :=
  decidable_of_iff (cs.length = 2 * size ∧
      cs.all (fun c => ('0' ≤ c && c ≤ '9') || ('a' ≤ c && c ≤ 'f')) = true)
    ⟨fun ⟨length, digits⟩ => ⟨length, by simpa using digits⟩,
      fun ⟨length, digits⟩ => ⟨length, by simpa using digits⟩⟩

theorem digitValue_digit {n : Nat} (small : n < 16) : digitValue (digit n) = n := by
  have each : ∀ n < 16, digitValue (digit n) = n := by decide
  exact each n small

theorem digit_digitValue {c : Char} (lower : ('0' ≤ c ∧ c ≤ '9') ∨ ('a' ≤ c ∧ c ≤ 'f')) :
    digitValue c < 16 ∧ digit (digitValue c) = c := by
  have each : ∀ k < 128, (48 ≤ k ∧ k ≤ 57) ∨ (97 ≤ k ∧ k ≤ 102) →
      digitValue (Char.ofNat k) < 16 ∧ digit (digitValue (Char.ofNat k)) = Char.ofNat k := by
    decide
  have range : (48 ≤ c.toNat ∧ c.toNat ≤ 57) ∨ (97 ≤ c.toNat ∧ c.toNat ≤ 102) := by
    simpa [char_le_iff] using lower
  have found := each c.toNat (by omega) range
  rwa [Char.ofNat_toNat] at found

theorem bytes_encode (bs : List UInt8) : bytes (encode bs) = bs := by
  induction bs with
  | nil => rfl
  | cons b rest ih =>
      have := b.toNat_lt
      have whole : 16 * (b.toNat / 16) + b.toNat % 16 = b.toNat := Nat.div_add_mod ..
      rw [encode, bytes, ih, digitValue_digit (by omega), digitValue_digit (by omega), whole,
        UInt8.ofNat_toNat]

theorem encode_inj {as bs : List UInt8} : encode as = encode bs ↔ as = bs := by
  constructor
  · intro same
    rw [← bytes_encode as, same, bytes_encode]
  · rintro rfl
    rfl

theorem encode_bytes {size : Nat} {cs : List Char} (numeral : IsNumeral size cs) :
    (bytes cs).length = size ∧ encode (bytes cs) = cs := by
  obtain ⟨length, digits⟩ := numeral
  induction size generalizing cs with
  | zero =>
      obtain rfl := List.eq_nil_of_length_eq_zero length
      exact ⟨rfl, rfl⟩
  | succ size ih =>
      match cs, length with
      | high :: low :: rest, length =>
          simp only [List.length_cons] at length
          simp only [List.forall_mem_cons] at digits
          obtain ⟨hd, hc⟩ := digit_digitValue digits.1
          obtain ⟨ld, lc⟩ := digit_digitValue digits.2.1
          obtain ⟨count, same⟩ := ih (by omega) digits.2.2
          have byte : (UInt8.ofNat (16 * digitValue high + digitValue low)).toNat =
              16 * digitValue high + digitValue low := by
            rw [UInt8.toNat_ofNat']
            omega
          have front : (16 * digitValue high + digitValue low) / 16 = digitValue high := by omega
          have back : (16 * digitValue high + digitValue low) % 16 = digitValue low := by omega
          rw [bytes, List.length_cons, encode, byte, front, back, hc, lc, same, count]
          exact ⟨rfl, rfl⟩

theorem isNumeral_iff {kind : Kind} {cs : List Char} :
    IsNumeral kind.size cs ↔ ∃ o : Octets kind, cs = encode o.bytes := by
  constructor
  · intro numeral
    obtain ⟨count, same⟩ := encode_bytes numeral
    exact ⟨⟨bytes cs, count⟩, same.symm⟩
  · rintro ⟨o, rfl⟩
    refine ⟨by rw [length_encode, o.length_bytes], fun c hc => ?_⟩
    have each : ∀ n < 16, ('0' ≤ digit n ∧ digit n ≤ '9') ∨ ('a' ≤ digit n ∧ digit n ≤ 'f') := by
      decide
    obtain ⟨n, small, rfl⟩ := mem_encode hc
    exact each n small

end Hex

end Witnessed
