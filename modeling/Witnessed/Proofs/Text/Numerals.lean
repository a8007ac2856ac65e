import Mathlib.Data.List.Induction
import Witnessed.Proofs.Except
import Witnessed.Proofs.Text.Utf8
import Witnessed.Text.Decimal
import Witnessed.Text.Hex

/-!
Numerals and their values. A text reads as a canonical decimal just when it is the rendering of
the number, and as lowercase hexadecimal just when it is the encoding of the bytes.
-/

namespace Witnessed

/-! ## Decimals -/

namespace Decimal

theorem digitChar_of_isDigit {c : Char} (digit : c.isDigit = true) :
    c.toNat - 48 < 10 ∧ (c.toNat - 48).digitChar = c := by
  have range : 48 ≤ c.toNat ∧ c.toNat ≤ 57 := by
    simpa [Char.isDigit, UInt32.le_iff_toNat_le] using digit
  refine ⟨by omega, Char.toNat_inj.1 ?_⟩
  rw [Nat.toNat_digitChar_of_lt_ten (by omega)]
  omega

/-- Digits after a number that is not zero write on. -/
theorem render_ofDigitChars {cs : List Char} (digits : ∀ c ∈ cs, c.isDigit = true) {n : Nat}
    (pos : 0 < n) : render (Nat.ofDigitChars 10 cs n) = render n ++ cs := by
  induction cs generalizing n with
  | nil => simp
  | cons c rest ih =>
      obtain ⟨digit, later⟩ := List.forall_mem_cons.1 digits
      obtain ⟨small, char⟩ := digitChar_of_isDigit digit
      have step : render (10 * n + (c.toNat - 48)) = render n ++ [c] := by
        rw [render, render, ← Nat.toDigits_append_toDigits (by decide) pos small,
          Nat.toDigits_of_lt_base small, char]
      rw [Nat.ofDigitChars_cons, ih later (by omega)]
      exact step ▸ by simp

theorem isCanonical_cons (c : Char) (rest : List Char) :
    isCanonical (c :: rest) = true ↔
      (∀ d ∈ c :: rest, d.isDigit = true) ∧ (c = '0' → rest = []) := by
  cases rest with
  | nil => simp [isCanonical]
  | cons d rest => simp [isCanonical, and_assoc, and_left_comm, and_comm]

theorem render_value {cs : List Char} (canonical : isCanonical cs = true) :
    render (Nat.ofDigitChars 10 cs 0) = cs := by
  cases cs with
  | nil => simp [isCanonical] at canonical
  | cons c rest =>
      obtain ⟨digits, lead⟩ := (isCanonical_cons c rest).1 canonical
      obtain ⟨digit, later⟩ := List.forall_mem_cons.1 digits
      obtain ⟨small, char⟩ := digitChar_of_isDigit digit
      have alone : render (c.toNat - 48) = [c] := by
        rw [render, Nat.toDigits_of_lt_base small, char]
      rw [Nat.ofDigitChars_cons]
      by_cases zero : c = '0'
      · rw [lead zero, Nat.ofDigitChars_nil]
        simpa using alone
      · have pos : 0 < c.toNat - 48 := by
          refine Nat.pos_of_ne_zero fun eq => zero ?_
          rw [← char, eq]
          rfl
        have whole := render_ofDigitChars later pos
        rw [alone] at whole
        simpa using whole

theorem lead_render {n : Nat} (pos : 0 < n) : ∃ c rest, render n = c :: rest ∧ c ≠ '0' := by
  induction n using Nat.strongRecOn with
  | ind n ih =>
      by_cases small : n < 10
      · refine ⟨n.digitChar, [], Nat.toDigits_of_lt_base small, fun zero => ?_⟩
        rw [Nat.digitChar_eq_zero] at zero
        omega
      · obtain ⟨c, rest, front, lead⟩ := ih (n / 10) (by omega) (by omega)
        refine ⟨c, rest ++ [(n % 10).digitChar], ?_, lead⟩
        rw [render, Nat.toDigits_of_base_le (by decide) (by omega)]
        exact congrArg (· ++ [(n % 10).digitChar]) front

theorem isCanonical_render (n : Nat) : isCanonical (render n) = true := by
  by_cases zero : n = 0
  · subst zero
    decide
  · obtain ⟨c, rest, shape, lead⟩ := lead_render (Nat.pos_of_ne_zero zero)
    rw [shape, isCanonical_cons, ← shape]
    exact ⟨fun d hd => Nat.isDigit_of_mem_toDigits (by decide) (by decide) hd,
      fun zero => absurd zero lead⟩

theorem parse?_eq_some_iff {cs : List Char} {n : UInt64} :
    parse? cs = some n ↔ cs = render n.toNat := by
  constructor
  · intro h
    rw [parse?, Option.ite_none_right_eq_some] at h
    obtain ⟨canonical, h⟩ := h
    rw [Option.ite_none_right_eq_some] at h
    obtain ⟨fits, value⟩ := h
    rw [← Option.some.inj value, UInt64.toNat_ofNat_of_lt' fits, render_value canonical]
  · rintro rfl
    have value : Nat.ofDigitChars 10 (render n.toNat) 0 = n.toNat :=
      Nat.ofDigitChars_ten_toDigits
    simp [parse?, isCanonical_render, value, n.toNat_lt_size]

theorem not_mem_render {c : Char} (other : c.isDigit = false) (n : Nat) : c ∉ render n := by
  intro mem
  have digit := Nat.isDigit_of_mem_toDigits (by decide) (by decide) mem
  rw [other] at digit
  contradiction

/-! ### Digit by digit -/

/-- A number in 64 bits, if it fits. -/
def word? (n : Nat) : Option UInt64 :=
  if n < UInt64.size then some (UInt64.ofNat n) else none

/-- Takes digits one after the other behind those of a number, and gives up at the first product
or sum that does not fit. -/
def accumulate? (n : UInt64) : List Char → Option UInt64
  | [] => some n
  | c :: rest => do
      let shifted ← word? (10 * n.toNat)
      let next ← word? (shifted.toNat + (c.toNat - '0'.toNat))
      accumulate? next rest

theorem accumulate?_cons (n : UInt64) (c : Char) (rest : List Char) :
    accumulate? n (c :: rest) = (word? (10 * n.toNat)).bind fun shifted =>
      (word? (shifted.toNat + (c.toNat - '0'.toNat))).bind fun next => accumulate? next rest :=
  rfl

theorem word?_eq_some_iff {n : Nat} {w : UInt64} : word? n = some w ↔ w.toNat = n := by
  rw [word?, Option.ite_none_right_eq_some, Option.some.injEq]
  constructor
  · rintro ⟨fits, rfl⟩
    exact UInt64.toNat_ofNat_of_lt' fits
  · rintro rfl
    exact ⟨w.toNat_lt_size, UInt64.ofNat_toNat⟩

theorem word?_eq_none_iff {n : Nat} : word? n = none ↔ UInt64.size ≤ n := by
  simp [word?]

/-- More digits never make a number smaller. -/
theorem le_ofDigitChars (cs : List Char) (n : Nat) : n ≤ Nat.ofDigitChars 10 cs n := by
  induction cs generalizing n with
  | nil => simp
  | cons c rest ih =>
      have grown := ih (10 * n + (c.toNat - '0'.toNat))
      rw [Nat.ofDigitChars_cons]
      omega

/-- What is given up on the way would not have fitted in the end. -/
theorem accumulate?_eq_word? (n : UInt64) (cs : List Char) :
    accumulate? n cs = word? (Nat.ofDigitChars 10 cs n.toNat) := by
  induction cs generalizing n with
  | nil => exact (word?_eq_some_iff.2 rfl).symm
  | cons c rest ih =>
      rw [accumulate?_cons, Nat.ofDigitChars_cons]
      cases product : word? (10 * n.toNat) with
      | none =>
          have large := word?_eq_none_iff.1 product
          have grown := le_ofDigitChars rest (10 * n.toNat + (c.toNat - '0'.toNat))
          rw [Option.bind_none, word?_eq_none_iff.2 (by omega)]
      | some shifted =>
          rw [← word?_eq_some_iff.1 product, Option.bind_some]
          cases sum : word? (shifted.toNat + (c.toNat - '0'.toNat)) with
          | none =>
              have large := word?_eq_none_iff.1 sum
              have grown := le_ofDigitChars rest (shifted.toNat + (c.toNat - '0'.toNat))
              rw [Option.bind_none, word?_eq_none_iff.2 (Nat.le_trans large grown)]
          | some next => rw [Option.bind_some, ih, word?_eq_some_iff.1 sum]

theorem parse?_eq_accumulate? (cs : List Char) :
    parse? cs = if isCanonical cs then accumulate? 0 cs else none := by
  rw [accumulate?_eq_word?]
  rfl

end Decimal

/-! ## Hexadecimal -/

namespace Hex

theorem value?_digit {n : Nat} (small : n < 16) :
    value? (UInt8.ofNat (digit n).toNat) = some n := by
  have each : ∀ n < 16, value? (UInt8.ofNat (digit n).toNat) = some n := by decide
  exact each n small

theorem digit_lower {n : Nat} (small : n < 16) :
    (digit n).toNat < 128 ∧ (digit n).isUpper = false := by
  have each : ∀ n < 16, (digit n).toNat < 128 ∧ (digit n).isUpper = false := by decide
  exact each n small

/-- Except in capital letters, a value is written in one way. -/
theorem digit_of_value? {c : Char} {n : Nat} (ascii : c.toNat < 128)
    (lower : c.isUpper = false) (value : value? (UInt8.ofNat c.toNat) = some n) :
    n < 16 ∧ digit n = c := by
  have each : ∀ k < 128, ¬(65 ≤ k ∧ k ≤ 90) → ∀ n ∈ value? (UInt8.ofNat k),
      n < 16 ∧ (digit n).toNat = k := by decide
  have capital : ¬(c.val ≥ 'A'.val ∧ c.val ≤ 'Z'.val) := of_decide_eq_false lower
  have small : ¬(65 ≤ c.toNat ∧ c.toNat ≤ 90) := by
    simpa [UInt32.le_iff_toNat_le] using capital
  obtain ⟨range, char⟩ := each c.toNat ascii small n value
  exact ⟨range, Char.toNat_inj.1 char⟩

theorem nibble_ok_iff {position n : Nat} {b : UInt8} :
    nibble position b = .ok n ↔ value? b = some n := by
  cases h : value? b <;> simp [nibble, h]

theorem length_encode (bytes : List UInt8) : (encode bytes).length = 2 * bytes.length := by
  induction bytes with
  | nil => rfl
  | cons b rest ih =>
      simp only [encode, List.length_cons, ih]
      omega

theorem mem_encode {bytes : List UInt8} {c : Char} (h : c ∈ encode bytes) :
    ∃ n < 16, c = digit n := by
  induction bytes with
  | nil => simp [encode] at h
  | cons b rest ih =>
      have := b.toNat_lt
      simp only [encode, List.mem_cons] at h
      rcases h with rfl | rfl | h
      · exact ⟨_, by omega, rfl⟩
      · exact ⟨_, by omega, rfl⟩
      · exact ih h

theorem encode_ascii (bytes : List UInt8) : ∀ c ∈ encode bytes, c.toNat < 128 := by
  intro c hc
  obtain ⟨n, small, rfl⟩ := mem_encode hc
  exact (digit_lower small).1

theorem encode_lower (bytes : List UInt8) : ∀ c ∈ encode bytes, c.isUpper = false := by
  intro c hc
  obtain ⟨n, small, rfl⟩ := mem_encode hc
  exact (digit_lower small).2

theorem not_mem_encode {c : Char} (other : c.isAlphanum = false) (bytes : List UInt8) :
    c ∉ encode bytes := by
  intro mem
  obtain ⟨n, small, rfl⟩ := mem_encode mem
  have each : ∀ n < 16, (digit n).isAlphanum = true := by decide
  rw [each n small] at other
  contradiction

theorem decodePairs_encode (position : Nat) (bytes : List UInt8) :
    decodePairs position (utf8 (encode bytes)) = .ok bytes := by
  rw [utf8_ascii (encode_ascii bytes)]
  induction bytes generalizing position with
  | nil => rfl
  | cons b rest ih =>
      have := b.toNat_lt
      have high := @value?_digit (b.toNat / 16) (by omega)
      have low := @value?_digit (b.toNat % 16) (by omega)
      have whole : UInt8.ofNat (b.toNat / 16 * 16 + b.toNat % 16) = b := by
        rw [Nat.div_add_mod']
        exact UInt8.ofNat_toNat
      simp only [encode, List.map_cons, decodePairs, bind_ok_iff, pure_ok_iff, nibble_ok_iff]
      exact ⟨_, high, _, low, rest, ih _, by rw [whole]⟩

/-- Bytes that read as pairs of digits are digits all of them. -/
theorem value?_of_decodePairs {position : Nat} {digits bytes : List UInt8}
    (h : decodePairs position digits = .ok bytes) : ∀ b ∈ digits, ∃ n, value? b = some n := by
  fun_induction decodePairs position digits generalizing bytes with
  | case1 => simp
  | case2 => contradiction
  | case3 position high low rest ih =>
      obtain ⟨m, hm, h⟩ := bind_ok_iff.1 h
      obtain ⟨n, hn, h⟩ := bind_ok_iff.1 h
      obtain ⟨later, hl, h⟩ := bind_ok_iff.1 h
      simp only [List.forall_mem_cons]
      exact ⟨⟨m, nibble_ok_iff.1 hm⟩, ⟨n, nibble_ok_iff.1 hn⟩, ih hl⟩

theorem encode_of_decodePairs {position : Nat} {cs : List Char} {bytes : List UInt8}
    (ascii : ∀ c ∈ cs, c.toNat < 128) (lower : ∀ c ∈ cs, c.isUpper = false)
    (h : decodePairs position (utf8 cs) = .ok bytes) : cs = encode bytes := by
  rw [utf8_ascii ascii] at h
  -- A step of the reader takes a pair of digits, so the induction takes two characters.
  induction cs using List.twoStepInduction generalizing position bytes with
  | nil => cases h; rfl
  | singleton c => contradiction
  | cons_cons high low rest ih _ =>
      simp only [List.forall_mem_cons] at ascii lower
      simp only [List.map_cons, decodePairs, bind_ok_iff, pure_ok_iff, nibble_ok_iff] at h
      obtain ⟨m, hm, n, hn, later, hl, rfl⟩ := h
      obtain ⟨mrange, mchar⟩ := digit_of_value? ascii.1 lower.1 hm
      obtain ⟨nrange, nchar⟩ := digit_of_value? ascii.2.1 lower.2.1 hn
      have byte : (UInt8.ofNat (m * 16 + n)).toNat = m * 16 + n := by
        rw [UInt8.toNat_ofNat']
        omega
      have front : (m * 16 + n) / 16 = m := by omega
      have back : (m * 16 + n) % 16 = n := by omega
      rw [encode, byte, front, back, mchar, nchar, ← ih ascii.2.2 lower.2.2 hl]

theorem lt_of_value? {b : UInt8} {n : Nat} (h : value? b = some n) : b.toNat < 128 := by
  by_cases small : b.toNat < 128
  · exact small
  · simp only [value?, UInt8.le_iff_toNat_le, UInt8.reduceToNat] at h
    grind

/-- Without capital letters, bytes are written in one way. -/
theorem decode_ok_iff {size : Nat} {cs : List Char} {bytes : List UInt8}
    (lower : ∀ c ∈ cs, c.isUpper = false) (length : bytes.length = size) :
    decode size (utf8 cs) = .ok bytes ↔ cs = encode bytes := by
  constructor
  · intro h
    have pairs : decodePairs 0 (utf8 cs) = .ok bytes := by
      rw [decode] at h
      split at h
      · contradiction
      · split at h
        · contradiction
        · exact h
    have ascii : ∀ c ∈ cs, c.toNat < 128 := ascii_of_utf8 fun b hb => by
      obtain ⟨n, value⟩ := value?_of_decodePairs pairs b hb
      exact lt_of_value? value
    exact encode_of_decodePairs ascii lower pairs
  · rintro rfl
    have count : (utf8 (encode bytes)).length = 2 * size := by
      rw [utf8_ascii (encode_ascii bytes), List.length_map, length_encode, length]
    have half : 2 * size / 2 = size := by omega
    simp [decode, count, half, decodePairs_encode]

end Hex

end Witnessed
