import Witnessed.Proofs.Except
import Witnessed.Proofs.Text.Utf8
import Witnessed.Text.Base64

/-!
Base64 and the bytes it writes. A text decodes to some bytes just when it is their encoding:
padding that is missing or too long, and unused bits that are set, have no reading.
-/

namespace Witnessed.Base64

/-! ## Symbols -/

/-- The byte of the symbol of a value. -/
def code (n : Nat) : UInt8 :=
  UInt8.ofNat (symbol n).toNat

theorem utf8_symbol {n : Nat} (small : n < 64) : String.utf8EncodeChar (symbol n) = [code n] := by
  have each : ∀ n < 64, (symbol n).toNat < 128 := by decide
  exact utf8EncodeChar_ascii (each n small)

theorem code_ne_pad {n : Nat} (small : n < 64) : code n ≠ pad := by
  have each : ∀ n < 64, code n ≠ pad := by decide
  exact each n small

theorem value?_eq_some_iff {b : UInt8} {n : Nat} : value? b = some n ↔ n < 64 ∧ code n = b := by
  constructor
  · have each : ∀ k < 256, ∀ n ∈ value? (UInt8.ofNat k), n < 64 ∧ code n = UInt8.ofNat k := by
      decide +kernel
    have byte := each b.toNat b.toNat_lt n
    rwa [UInt8.ofNat_toNat] at byte
  · have each : ∀ n < 64, value? (code n) = some n := by decide
    rintro ⟨small, rfl⟩
    exact each n small

theorem sextet_ok_iff {position n : Nat} {b : UInt8} :
    sextet position b = .ok n ↔ n < 64 ∧ code n = b := by
  rw [← value?_eq_some_iff]
  cases value : value? b <;> simp [sextet, value]

/-! ## Groups

Three bytes and four values below sixty-four make each other; a group that ends early is one
whose last value has no bits to spare. -/

theorem values_of_bytes {a b c d : Nat} (ha : a < 64) (hb : b < 64) (hc : c < 64) (hd : d < 64) :
    let x := UInt8.ofNat (a * 4 + b / 16)
    let y := UInt8.ofNat (b % 16 * 16 + c / 4)
    let z := UInt8.ofNat (c % 4 * 64 + d)
    x.toNat / 4 = a ∧ x.toNat % 4 * 16 + y.toNat / 16 = b ∧
      y.toNat % 16 * 4 + z.toNat / 64 = c ∧ z.toNat % 64 = d := by
  simp only [UInt8.toNat_ofNat']
  omega

theorem values_of_two_bytes {a b c : Nat} (ha : a < 64) (hb : b < 64) (hc : c < 64)
    (whole : c % 4 = 0) :
    let x := UInt8.ofNat (a * 4 + b / 16)
    let y := UInt8.ofNat (b % 16 * 16 + c / 4)
    x.toNat / 4 = a ∧ x.toNat % 4 * 16 + y.toNat / 16 = b ∧ y.toNat % 16 * 4 = c := by
  simp only [UInt8.toNat_ofNat']
  omega

theorem values_of_one_byte {a b : Nat} (ha : a < 64) (hb : b < 64) (whole : b % 16 = 0) :
    let x := UInt8.ofNat (a * 4 + b / 16)
    x.toNat / 4 = a ∧ x.toNat % 4 * 16 = b := by
  simp only [UInt8.toNat_ofNat']
  omega

theorem bytes_of_values (x y z : UInt8) :
    UInt8.ofNat (x.toNat / 4 * 4 + (x.toNat % 4 * 16 + y.toNat / 16) / 16) = x ∧
      UInt8.ofNat ((x.toNat % 4 * 16 + y.toNat / 16) % 16 * 16 +
        (y.toNat % 16 * 4 + z.toNat / 64) / 4) = y ∧
      UInt8.ofNat ((y.toNat % 16 * 4 + z.toNat / 64) % 4 * 64 + z.toNat % 64) = z := by
  have := x.toNat_lt
  have := y.toNat_lt
  have := z.toNat_lt
  refine ⟨UInt8.toNat_inj.1 ?_, UInt8.toNat_inj.1 ?_, UInt8.toNat_inj.1 ?_⟩
  all_goals
    rw [UInt8.toNat_ofNat']
    omega

theorem utf8_encode_one (x : UInt8) :
    utf8 (encode [x]) = [x.toNat / 4, x.toNat % 4 * 16].map code ++ List.replicate 2 pad := by
  have := x.toNat_lt
  simp only [encode, utf8, List.flatMap_cons]
  rw [utf8_symbol (by omega), utf8_symbol (by omega)]
  rfl

theorem utf8_encode_two (x y : UInt8) :
    utf8 (encode [x, y]) =
      [x.toNat / 4, x.toNat % 4 * 16 + y.toNat / 16, y.toNat % 16 * 4].map code ++
        List.replicate 1 pad := by
  have := x.toNat_lt
  have := y.toNat_lt
  simp only [encode, utf8, List.flatMap_cons]
  rw [utf8_symbol (by omega), utf8_symbol (by omega), utf8_symbol (by omega)]
  rfl

theorem utf8_encode_cons (x y z : UInt8) (rest : List UInt8) :
    utf8 (encode (x :: y :: z :: rest)) =
      [x.toNat / 4, x.toNat % 4 * 16 + y.toNat / 16, y.toNat % 16 * 4 + z.toNat / 64,
        z.toNat % 64].map code ++ utf8 (encode rest) := by
  have := x.toNat_lt
  have := y.toNat_lt
  have := z.toNat_lt
  simp only [encode, utf8, List.flatMap_cons]
  rw [utf8_symbol (by omega), utf8_symbol (by omega), utf8_symbol (by omega),
    utf8_symbol (by omega)]
  rfl

theorem length_utf8_encode (bytes : List UInt8) : (utf8 (encode bytes)).length % 4 = 0 := by
  induction bytes using encode.induct with
  | case1 => rfl
  | case2 x => rw [utf8_encode_one]; simp
  | case3 x y => rw [utf8_encode_two]; simp
  | case4 x y z rest ih =>
      rw [utf8_encode_cons, List.length_append, List.length_map]
      simp only [List.length_cons, List.length_nil]
      omega

theorem encode_eq_nil_iff {bytes : List UInt8} : encode bytes = [] ↔ bytes = [] := by
  fun_cases encode bytes <;> simp

theorem mem_encode {bytes : List UInt8} {c : Char} (h : c ∈ encode bytes) :
    c = '=' ∨ ∃ n < 64, symbol n = c := by
  fun_induction encode bytes with
  | case1 => simp at h
  | case2 x =>
      have := x.toNat_lt
      simp only [List.mem_cons, List.not_mem_nil, or_false] at h
      rcases h with rfl | rfl | rfl | rfl
      · exact .inr ⟨_, by omega, rfl⟩
      · exact .inr ⟨_, by omega, rfl⟩
      · exact .inl rfl
      · exact .inl rfl
  | case3 x y =>
      have := x.toNat_lt
      have := y.toNat_lt
      simp only [List.mem_cons, List.not_mem_nil, or_false] at h
      rcases h with rfl | rfl | rfl | rfl
      · exact .inr ⟨_, by omega, rfl⟩
      · exact .inr ⟨_, by omega, rfl⟩
      · exact .inr ⟨_, by omega, rfl⟩
      · exact .inl rfl
  | case4 x y z rest ih =>
      have := x.toNat_lt
      have := y.toNat_lt
      have := z.toNat_lt
      simp only [List.mem_cons] at h
      rcases h with rfl | rfl | rfl | rfl | h
      · exact .inr ⟨_, by omega, rfl⟩
      · exact .inr ⟨_, by omega, rfl⟩
      · exact .inr ⟨_, by omega, rfl⟩
      · exact .inr ⟨_, by omega, rfl⟩
      · exact ih h

/-- What separates fields and lines is no part of an encoding. -/
theorem not_mem_encode {c : Char} (blank : c = ' ' ∨ c = '\n') (bytes : List UInt8) :
    c ∉ encode bytes := by
  intro mem
  have each : ∀ n < 64, symbol n ≠ ' ' ∧ symbol n ≠ '\n' := by decide
  rcases mem_encode mem with rfl | ⟨n, small, rfl⟩
  · revert blank
    decide
  · exact blank.elim (each n small).1 (each n small).2

/-! ## The last group -/

theorem splitTail_pads {position pads k : Nat} {symbols : List (UInt8 × Nat)}
    (two : 2 ≤ symbols.length) :
    splitTail position symbols pads (List.replicate k pad) = .ok (symbols, pads + k) := by
  induction k generalizing pads with
  | zero => rfl
  | succ k ih =>
      have enough : ¬symbols.length + pads < 2 := by omega
      simp only [List.replicate_succ, splitTail, enough, ↓reduceIte, ih]
      congr 2
      omega

theorem splitTail_values {position k : Nat} {symbols : List (UInt8 × Nat)} {values : List Nat}
    (small : ∀ n ∈ values, n < 64) (two : 2 ≤ symbols.length + values.length) :
    splitTail position symbols 0 (values.map code ++ List.replicate k pad) =
      .ok (symbols ++ values.map fun n => (code n, n), k) := by
  induction values generalizing symbols with
  | nil => simpa using @splitTail_pads position 0 k symbols two
  | cons n rest ih =>
      obtain ⟨first, later⟩ := List.forall_mem_cons.1 small
      have read : sextet (position + symbols.length) (code n) = .ok n :=
        sextet_ok_iff.2 ⟨first, rfl⟩
      have next := @ih (symbols ++ [(code n, n)]) later (by simp at two ⊢; omega)
      rw [List.map_cons, List.cons_append, splitTail, if_neg (code_ne_pad first),
        if_neg (by omega), read]
      rw [List.append_assoc] at next
      exact next

/-- A last group is symbols and then pads: no symbol comes after a pad. -/
theorem values_of_splitTail {position pads pads' : Nat} {symbols symbols' : List (UInt8 × Nat)}
    {tail : List UInt8} (h : splitTail position symbols pads tail = .ok (symbols', pads')) :
    ∃ (values : List Nat) (k : Nat), symbols' = symbols ++ values.map (fun n => (code n, n)) ∧
      pads' = pads + k ∧ tail = values.map code ++ List.replicate k pad ∧
      (∀ n ∈ values, n < 64) ∧ (0 < pads → values = []) := by
  induction tail generalizing symbols pads with
  | nil =>
      cases h
      exact ⟨[], 0, by simp⟩
  | cons b rest ih =>
      rw [splitTail] at h
      split at h
      · rename_i filler
        split at h
        · contradiction
        · obtain ⟨values, k, rfl, rfl, rfl, _, none⟩ := ih h
          obtain rfl := none (by omega)
          exact ⟨[], k + 1, by simp, by omega, by simp [filler, List.replicate_succ], by simp,
            fun _ => rfl⟩
      · split at h
        · contradiction
        · rename_i unpadded
          obtain ⟨n, read, h⟩ := bind_ok_iff.1 h
          obtain ⟨small, rfl⟩ := sextet_ok_iff.1 read
          obtain ⟨values, k, rfl, rfl, rfl, later, _⟩ := ih h
          exact ⟨n :: values, k, by simp, rfl, by simp, List.forall_mem_cons.2 ⟨small, later⟩,
            fun padded => absurd padded unpadded⟩

theorem decodeTail_one (position : Nat) (x : UInt8) :
    decodeTail position (utf8 (encode [x])) = .ok [x] := by
  have := x.toNat_lt
  have read := @splitTail_values position 2 [] [x.toNat / 4, x.toNat % 4 * 16]
    (by simp; omega) (by simp)
  rw [← utf8_encode_one] at read
  have some : utf8 (encode [x]) ≠ [] := by simp [utf8_encode_one]
  have stray : x.toNat % 4 * 16 % 16 = 0 := by omega
  have whole : x.toNat / 4 * 4 + x.toNat % 4 * 16 / 16 = x.toNat := by omega
  simp only [decodeTail, some, read, bind, Except.bind, ne_eq, not_true_eq_false, ↓reduceIte,
    List.map_cons, List.map_nil, List.nil_append, stray, whole, UInt8.ofNat_toNat]

theorem decodeTail_two (position : Nat) (x y : UInt8) :
    decodeTail position (utf8 (encode [x, y])) = .ok [x, y] := by
  have := x.toNat_lt
  have := y.toNat_lt
  have read := @splitTail_values position 1 []
    [x.toNat / 4, x.toNat % 4 * 16 + y.toNat / 16, y.toNat % 16 * 4] (by simp; omega) (by simp)
  rw [← utf8_encode_two] at read
  have some : utf8 (encode [x, y]) ≠ [] := by simp [utf8_encode_two]
  have stray : y.toNat % 16 * 4 % 4 = 0 := by omega
  have first : x.toNat / 4 * 4 + (x.toNat % 4 * 16 + y.toNat / 16) / 16 = x.toNat := by omega
  have second : (x.toNat % 4 * 16 + y.toNat / 16) % 16 * 16 + y.toNat % 16 * 4 / 4 = y.toNat := by
    omega
  simp only [decodeTail, some, read, bind, Except.bind, ne_eq, not_true_eq_false, ↓reduceIte,
    List.map_cons, List.map_nil, List.nil_append, stray, first, second, UInt8.ofNat_toNat]

theorem decodeTail_three (position : Nat) (x y z : UInt8) :
    decodeTail position (utf8 (encode [x, y, z])) = .ok [x, y, z] := by
  have := x.toNat_lt
  have := y.toNat_lt
  have := z.toNat_lt
  have read := @splitTail_values position 0 []
    [x.toNat / 4, x.toNat % 4 * 16 + y.toNat / 16, y.toNat % 16 * 4 + z.toNat / 64, z.toNat % 64]
    (by simp; omega) (by simp)
  have last : List.replicate 0 pad = utf8 (encode []) := rfl
  rw [last, ← utf8_encode_cons] at read
  have some : utf8 (encode [x, y, z]) ≠ [] := by simp [utf8_encode_cons]
  obtain ⟨first, second, third⟩ := bytes_of_values x y z
  simp only [decodeTail, some, read, bind, Except.bind, ↓reduceIte, List.map_cons, List.map_nil,
    List.nil_append, first, second, third]

theorem encode_of_decodeTail {position : Nat} {tail bytes : List UInt8} (short : tail.length ≤ 4)
    (h : decodeTail position tail = .ok bytes) : tail = utf8 (encode bytes) := by
  by_cases none : tail = []
  · subst none
    cases h
    rfl
  rw [decodeTail, if_neg none] at h
  obtain ⟨⟨symbols, pads⟩, read, made⟩ := bind_ok_iff.1 h
  obtain ⟨values, k, all, count, rfl, small, _⟩ := values_of_splitTail read
  simp only [List.nil_append, Nat.zero_add] at all count
  subst all count
  -- The number of symbols decides the shape, and only two, three or four will do.
  rcases values with _ | ⟨a, _ | ⟨b, _ | ⟨c, _ | ⟨d, _ | ⟨e, values⟩⟩⟩⟩⟩
  · simp at made
  · simp at made
  · obtain ⟨ha, hb⟩ : a < 64 ∧ b < 64 := by simpa using small
    simp only [List.map_cons, List.map_nil] at made
    split at made
    · contradiction
    · split at made
      · contradiction
      · rename_i padded stray
        obtain rfl := Decidable.not_not.1 padded
        cases made
        obtain ⟨first, second⟩ := values_of_one_byte ha hb (Decidable.not_not.1 stray)
        rw [utf8_encode_one, first, second]
  · obtain ⟨ha, hb, hc⟩ : a < 64 ∧ b < 64 ∧ c < 64 := by simpa using small
    simp only [List.map_cons, List.map_nil] at made
    split at made
    · contradiction
    · split at made
      · contradiction
      · rename_i padded stray
        obtain rfl := Decidable.not_not.1 padded
        cases made
        obtain ⟨first, second, third⟩ :=
          values_of_two_bytes ha hb hc (Decidable.not_not.1 stray)
        rw [utf8_encode_two, first, second, third]
  · obtain ⟨ha, hb, hc, hd⟩ : a < 64 ∧ b < 64 ∧ c < 64 ∧ d < 64 := by simpa using small
    simp only [List.map_cons, List.map_nil, List.length_append, List.length_cons, List.length_nil,
      List.length_replicate] at short
    obtain rfl : pads = 0 := by omega
    cases made
    obtain ⟨first, second, third, fourth⟩ := values_of_bytes ha hb hc hd
    rw [utf8_encode_cons, first, second, third, fourth]
    rfl
  · simp at made

/-! ## Whole texts -/

theorem decodeGroups_short {position : Nat} {tail : List UInt8} (short : tail.length ≤ 4) :
    decodeGroups position tail = decodeTail position tail := by
  rw [decodeGroups]
  intro w x y z next rest eq
  simp only [eq, List.length_cons] at short
  omega

theorem encode_of_decodeGroups {position : Nat} {text bytes : List UInt8}
    (h : decodeGroups position text = .ok bytes) : text = utf8 (encode bytes) := by
  fun_induction decodeGroups position text generalizing bytes with
  | case1 position w x y z next rest ih =>
      simp only [bind_ok_iff, pure_ok_iff, sextet_ok_iff] at h
      obtain ⟨a, ⟨ha, rfl⟩, b, ⟨hb, rfl⟩, c, ⟨hc, rfl⟩, d, ⟨hd, rfl⟩, later, read, rfl⟩ := h
      obtain ⟨first, second, third, fourth⟩ := values_of_bytes ha hb hc hd
      rw [utf8_encode_cons, first, second, third, fourth, ← ih read]
      rfl
  | case2 position tail last =>
      refine encode_of_decodeTail ?_ h
      match tail, last with
      | [], _ | [_], _ | [_, _], _ | [_, _, _], _ | [_, _, _, _], _ => simp
      | w :: x :: y :: z :: next :: rest, last => exact absurd rfl (last w x y z next rest)

theorem decodeGroups_encode (position : Nat) (bytes : List UInt8) :
    decodeGroups position (utf8 (encode bytes)) = .ok bytes := by
  induction bytes using encode.induct generalizing position with
  | case1 => rfl
  | case2 x =>
      rw [decodeGroups_short (by simp [utf8_encode_one])]
      exact decodeTail_one position x
  | case3 x y =>
      rw [decodeGroups_short (by simp [utf8_encode_two])]
      exact decodeTail_two position x y
  | case4 x y z rest ih =>
      -- A group of four is read as the last one when nothing comes after it.
      cases more : utf8 (encode rest) with
      | nil =>
          obtain rfl : rest = [] := encode_eq_nil_iff.1 (utf8_inj.1 more)
          rw [decodeGroups_short (by simp [utf8_encode_cons, more])]
          exact decodeTail_three position x y z
      | cons next later =>
          have := x.toNat_lt
          have := y.toNat_lt
          have := z.toNat_lt
          obtain ⟨first, second, third⟩ := bytes_of_values x y z
          rw [more] at ih
          simp only [utf8_encode_cons, more, List.map_cons, List.map_nil, List.cons_append,
            List.nil_append, decodeGroups, bind_ok_iff, pure_ok_iff, sextet_ok_iff]
          exact ⟨_, ⟨by omega, rfl⟩, _, ⟨by omega, rfl⟩, _, ⟨by omega, rfl⟩, _, ⟨by omega, rfl⟩,
            rest, ih _, by rw [first, second, third]⟩

theorem decode_bytes_ok_iff {text bytes : List UInt8} :
    decode text = .ok bytes ↔ text = utf8 (encode bytes) := by
  constructor
  · intro h
    rw [decode] at h
    split at h
    · split at h
      · contradiction
      · exact encode_of_decodeGroups h
    · rename_i none
      cases h
      exact List.getLast?_eq_none_iff.1 none
  · rintro rfl
    have whole := length_utf8_encode bytes
    have groups := decodeGroups_encode 0 bytes
    rw [decode]
    split
    · rwa [if_neg (by omega)]
    · rename_i none
      rwa [List.getLast?_eq_none_iff.1 none] at groups

/-- Bytes are written in one way. -/
theorem decode_ok_iff {cs : List Char} {bytes : List UInt8} :
    decode (utf8 cs) = .ok bytes ↔ cs = encode bytes := by
  rw [decode_bytes_ok_iff, utf8_inj]

theorem encode_inj {as bs : List UInt8} : encode as = encode bs ↔ as = bs := by
  constructor
  · intro same
    have read := decode_ok_iff.2 same
    rw [decode_ok_iff.2 rfl] at read
    exact Except.ok.inj read
  · rintro rfl
    rfl

end Witnessed.Base64
