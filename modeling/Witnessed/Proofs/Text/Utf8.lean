import Witnessed.Text.Utf8

/-!
Texts and their bytes. A text is known by its bytes, and characters below 128 are the ones that
have a single byte below 128 each.
-/

namespace Witnessed

theorem utf8_inj {as bs : List Char} : utf8 as = utf8 bs ↔ as = bs := by
  constructor
  · intro same
    have bytes : as.utf8Encode = bs.utf8Encode := congrArg List.toByteArray same
    have text := congrArg ByteArray.utf8Decode? bytes
    rw [List.utf8Decode?_utf8Encode, List.utf8Decode?_utf8Encode] at text
    simpa using text
  · rintro rfl
    rfl

theorem utf8EncodeChar_ascii {c : Char} (ascii : c.toNat < 128) :
    String.utf8EncodeChar c = [UInt8.ofNat c.toNat] := by
  have small : c.val.toNat ≤ 0x7f := Nat.le_of_lt_succ ascii
  simp only [String.utf8EncodeChar, small, ↓reduceIte]
  rfl

/-- A character beyond ASCII has no byte that could be taken for one within. -/
theorem byte_of_not_ascii {c : Char} (beyond : ¬c.toNat < 128) {b : UInt8}
    (mem : b ∈ String.utf8EncodeChar c) : 128 ≤ b.toNat := by
  have large : ¬c.val.toNat ≤ 0x7f := fun small => beyond (Nat.lt_succ_of_le small)
  have marked : ∀ n m mark : Nat, 0 < m → 128 ≤ mark → m + mark ≤ 256 →
      128 ≤ (UInt8.ofNat (n % m + mark)).toNat := by
    intro n m mark pos low high
    have small := Nat.mod_lt n pos
    rw [UInt8.toNat_ofNat', Nat.mod_eq_of_lt (by omega)]
    omega
  simp only [String.utf8EncodeChar, large, ↓reduceIte] at mem
  split at mem
  · simp only [List.mem_cons, List.not_mem_nil, or_false] at mem
    rcases mem with rfl | rfl <;> exact marked _ _ _ (by decide) (by decide) (by decide)
  · split at mem
    · simp only [List.mem_cons, List.not_mem_nil, or_false] at mem
      rcases mem with rfl | rfl | rfl <;> exact marked _ _ _ (by decide) (by decide) (by decide)
    · simp only [List.mem_cons, List.not_mem_nil, or_false] at mem
      rcases mem with rfl | rfl | rfl | rfl <;>
        exact marked _ _ _ (by decide) (by decide) (by decide)

/-- An ASCII byte in a text is a character of it. -/
theorem mem_of_mem_utf8 {cs : List Char} {b : UInt8} (ascii : b.toNat < 128) (mem : b ∈ utf8 cs) :
    Char.ofNat b.toNat ∈ cs := by
  obtain ⟨c, hc, byte⟩ := List.mem_flatMap.1 mem
  by_cases small : c.toNat < 128
  · rw [utf8EncodeChar_ascii small, List.mem_singleton] at byte
    rw [byte, UInt8.toNat_ofNat', Nat.mod_eq_of_lt (by omega), Char.ofNat_toNat]
    exact hc
  · have := byte_of_not_ascii small byte
    omega

/-- An ASCII character in a text is a byte of it. -/
theorem mem_utf8_of_mem {cs : List Char} {c : Char} (ascii : c.toNat < 128) (mem : c ∈ cs) :
    UInt8.ofNat c.toNat ∈ utf8 cs := by
  refine List.mem_flatMap.2 ⟨c, mem, ?_⟩
  rw [utf8EncodeChar_ascii ascii]
  exact List.mem_singleton_self _

theorem utf8_append (as bs : List Char) : utf8 (as ++ bs) = utf8 as ++ utf8 bs :=
  List.flatMap_append

theorem utf8_intercalate (separator : List Char) (parts : List (List Char)) :
    utf8 (separator.intercalate parts) = (utf8 separator).intercalate (parts.map utf8) := by
  induction parts with
  | nil => rfl
  | cons first rest ih =>
      by_cases last : rest = []
      · simp [last]
      · rw [List.map_cons, List.intercalate_cons_of_ne_nil last,
          List.intercalate_cons_of_ne_nil (by simpa using last), utf8_append, utf8_append, ih]

theorem ofUtf8?_utf8 (cs : List Char) : ofUtf8? (utf8 cs) = some cs := by
  have encoded : ByteArray.mk (utf8 cs).toArray = cs.utf8Encode := by
    apply ByteArray.ext
    rw [List.utf8Encode, List.data_toByteArray, utf8]
  rw [ofUtf8?, encoded, List.utf8Decode?_utf8Encode]
  simp

theorem utf8_of_ofUtf8? {bytes : List UInt8} {cs : List Char} (read : ofUtf8? bytes = some cs) :
    bytes = utf8 cs := by
  obtain ⟨decoded, found, rfl⟩ := Option.map_eq_some_iff.1 read
  have encoded := ByteArray.utf8Encode_get_utf8Decode? (h := Option.isSome_of_eq_some found)
  simp only [found, Option.get_some] at encoded
  have same := congrArg (fun b => b.data.toList) encoded
  simpa [List.utf8Encode, List.data_toByteArray, utf8] using same.symm

theorem ofUtf8?_eq_some_iff {bytes : List UInt8} {cs : List Char} :
    ofUtf8? bytes = some cs ↔ bytes = utf8 cs :=
  ⟨utf8_of_ofUtf8?, fun same => same ▸ ofUtf8?_utf8 cs⟩

theorem ofUtf8?_eq_none_iff {bytes : List UInt8} :
    ofUtf8? bytes = none ↔ ∀ cs, bytes ≠ utf8 cs := by
  simp [Option.eq_none_iff_forall_ne_some, ofUtf8?_eq_some_iff]

theorem utf8_ascii {cs : List Char} (ascii : ∀ c ∈ cs, c.toNat < 128) :
    utf8 cs = cs.map fun c => UInt8.ofNat c.toNat := by
  induction cs with
  | nil => rfl
  | cons c rest ih =>
      obtain ⟨first, later⟩ := List.forall_mem_cons.1 ascii
      rw [utf8, List.flatMap_cons, utf8EncodeChar_ascii first, List.map_cons, ← ih later]
      rfl

theorem ascii_of_utf8 {cs : List Char} (ascii : ∀ b ∈ utf8 cs, b.toNat < 128) :
    ∀ c ∈ cs, c.toNat < 128 := by
  intro c hc
  by_cases small : c.toNat < 128
  · exact small
  · obtain ⟨b, hb⟩ := List.exists_mem_of_ne_nil _ (String.utf8EncodeChar_ne_nil (c := c))
    have := ascii b (List.mem_flatMap.2 ⟨c, hc, hb⟩)
    have := byte_of_not_ascii small hb
    omega

end Witnessed
