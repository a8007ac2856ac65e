import Witnessed.Proofs.Policy.Run
import Witnessed.Proofs.Text.Lines
import Witnessed.Proofs.Text.Utf8

/-!
The characters of a policy text. Plain are the bytes of a text without control characters, tabs
and line feeds apart. A line is looked at three times, as bytes, as what they decode to, and as
characters; what it is refused for is said here of the line alone.
-/

namespace Witnessed

/-- The bytes of a text whose only control characters are tabs and line feeds. -/
def IsPlain (bytes : List UInt8) : Prop :=
  ∃ cs, bytes = utf8 cs ∧ ∀ c ∈ cs, isControl c = true → c = '\t' ∨ c = '\n'

theorem isPlain_nil : IsPlain [] :=
  ⟨[], rfl, by simp⟩

theorem isPlain_feed : IsPlain [10] :=
  ⟨['\n'], rfl, by simp⟩

theorem IsPlain.append {as bs : List UInt8} (ha : IsPlain as) (hb : IsPlain bs) :
    IsPlain (as ++ bs) := by
  obtain ⟨cs, rfl, left⟩ := ha
  obtain ⟨ds, rfl, right⟩ := hb
  exact ⟨cs ++ ds, (utf8_append cs ds).symm, List.forall_mem_append.2 ⟨left, right⟩⟩

/-- A text that is plain on every line is plain. -/
theorem isPlain_joined {lines : List (List UInt8)} (each : ∀ line ∈ lines, IsPlain line) :
    IsPlain ([10].intercalate lines) := by
  induction lines with
  | nil => exact isPlain_nil
  | cons line rest ih =>
      obtain ⟨first, later⟩ := List.forall_mem_cons.1 each
      by_cases last : rest = []
      · simpa [last] using first
      · rw [List.intercalate_cons_of_ne_nil last]
        exact (first.append isPlain_feed).append (ih later)

namespace Script

/-- An ASCII control character, the tab apart, that stands by itself as a byte. -/
def IsAsciiControl (b : UInt8) : Prop :=
  (b.toNat < 0x20 ∨ b.toNat = 0x7f) ∧ b.toNat ≠ 0x09

instance (b : UInt8) : Decidable (IsAsciiControl b) :=
  inferInstanceAs (Decidable (_ ∧ _))

/-- A control character beyond ASCII. -/
def IsHighControl (c : Char) : Prop :=
  0x80 ≤ c.toNat ∧ c.toNat ≤ 0x9f

instance (c : Char) : Decidable (IsHighControl c) :=
  inferInstanceAs (Decidable (_ ∧ _))

/-- What is wrong with the characters of a line: the first ASCII control byte, else that it is no
text, else the first control character beyond ASCII. -/
inductive Fault (line : List UInt8) : PolicyError → Prop
  | ascii {before after : List UInt8} {b : UInt8} (split : line = before ++ b :: after)
      (control : IsAsciiControl b) (first : ∀ other ∈ before, ¬IsAsciiControl other) :
      Fault line (.invalidCharacter (Char.ofNat b.toNat))
  | broken (ascii : ∀ b ∈ line, ¬IsAsciiControl b) (broken : ∀ cs, line ≠ utf8 cs) :
      Fault line .invalidUtf8
  | high {before after : List Char} {c : Char} (ascii : ∀ b ∈ line, ¬IsAsciiControl b)
      (split : line = utf8 (before ++ c :: after)) (control : IsHighControl c)
      (first : ∀ other ∈ before, ¬IsHighControl other) :
      Fault line (.invalidCharacter c)

variable {line : List UInt8} {cs : List Char} {e : PolicyError}

theorem isForbidden_iff {c : Char} : isForbidden c = true ↔ isControl c = true ∧ c ≠ '\t' := by
  simp [isForbidden]

theorem isForbiddenByte_iff {b : UInt8} : isForbiddenByte b = true ↔ IsAsciiControl b := by
  have each : ∀ n < 256,
      isForbiddenByte (UInt8.ofNat n) = true ↔ IsAsciiControl (UInt8.ofNat n) := by
    decide +kernel
  have found := each b.toNat b.toNat_lt
  rwa [UInt8.ofNat_toNat] at found

/-- A control character is forbidden as a byte, or beyond ASCII. -/
theorem isForbidden_of_text (ascii : ∀ b ∈ utf8 cs, ¬IsAsciiControl b) {c : Char} (mem : c ∈ cs) :
    isForbidden c = true ↔ IsHighControl c := by
  rw [isForbidden_iff]
  by_cases small : c.toNat < 128
  · have allowed := ascii _ (mem_utf8_of_mem small mem)
    have tab : c = '\t' ↔ c.toNat = 9 := Char.toNat_inj.symm
    simp only [IsAsciiControl, UInt8.toNat_ofNat', Nat.mod_eq_of_lt (by omega : c.toNat < 2 ^ 8)]
      at allowed
    simp only [isControl, Bool.or_eq_true, Bool.and_eq_true, decide_eq_true_eq, ne_eq, tab,
      IsHighControl]
    omega
  · have tab : c ≠ '\t' := by
      rintro rfl
      exact small (by decide)
    simp only [isControl, Bool.or_eq_true, Bool.and_eq_true, decide_eq_true_eq, tab, ne_eq,
      not_false_eq_true, and_true, IsHighControl]
    omega

theorem find?_forbiddenByte_iff {b : UInt8} :
    line.find? isForbiddenByte = some b ↔ IsAsciiControl b ∧ ∃ before after,
      line = before ++ b :: after ∧ ∀ other ∈ before, ¬IsAsciiControl other := by
  simp [List.find?_eq_some_iff_append, ← isForbiddenByte_iff]

theorem find?_forbiddenByte_none : line.find? isForbiddenByte = none ↔
    ∀ b ∈ line, ¬IsAsciiControl b := by
  simp [List.find?_eq_none, ← isForbiddenByte_iff]

theorem find?_forbidden_iff (ascii : ∀ b ∈ utf8 cs, ¬IsAsciiControl b) {c : Char} :
    cs.find? isForbidden = some c ↔ IsHighControl c ∧ ∃ before after,
      cs = before ++ c :: after ∧ ∀ other ∈ before, ¬IsHighControl other := by
  have high := @isForbidden_of_text cs ascii
  rw [List.find?_eq_some_iff_append]
  constructor
  · rintro ⟨forbidden, before, after, rfl, first⟩
    refine ⟨(high (by simp)).1 forbidden, before, after, rfl, fun other mem => ?_⟩
    rw [← high (by simp [mem])]
    simpa using first other mem
  · rintro ⟨control, before, after, rfl, first⟩
    refine ⟨(high (by simp)).2 control, before, after, rfl, fun other mem => ?_⟩
    have clean := first other mem
    rw [← high (by simp [mem])] at clean
    simpa using clean

/-- A line is refused for what is wrong with its characters, and for nothing else. -/
theorem lineText_error_iff : lineText line = .error e ↔ Fault line e := by
  constructor
  · intro failed
    rw [lineText] at failed
    split at failed
    · rename_i b found
      obtain ⟨control, before, after, split, first⟩ := find?_forbiddenByte_iff.1 found
      cases failed
      exact .ascii split control first
    · rename_i none
      have ascii := find?_forbiddenByte_none.1 none
      split at failed
      · rename_i broken
        cases failed
        exact .broken ascii (ofUtf8?_eq_none_iff.1 broken)
      · rename_i cs read
        obtain rfl := ofUtf8?_eq_some_iff.1 read
        split at failed
        · rename_i c found
          obtain ⟨control, before, after, rfl, first⟩ := (find?_forbidden_iff ascii).1 found
          cases failed
          exact .high ascii rfl control first
        · contradiction
  · intro fault
    cases fault with
    | ascii split control first =>
        have found := find?_forbiddenByte_iff.2 ⟨control, _, _, split, first⟩
        simp only [lineText, found]
    | broken ascii broken =>
        have none := find?_forbiddenByte_none.2 ascii
        simp only [lineText, none, ofUtf8?_eq_none_iff.2 broken]
    | @high before after c ascii split control first =>
        subst split
        have none := find?_forbiddenByte_none.2 ascii
        have found := (find?_forbidden_iff ascii).2 ⟨control, before, after, rfl, first⟩
        simp only [lineText, none, ofUtf8?_utf8, found]

theorem lineText_ok_iff :
    lineText line = .ok cs ↔ line = utf8 cs ∧ ∀ c ∈ cs, isForbidden c = false := by
  constructor
  · intro text
    rw [lineText] at text
    split at text
    · contradiction
    · split at text
      · contradiction
      · rename_i ds read
        split at text
        · contradiction
        · rename_i none
          cases text
          refine ⟨ofUtf8?_eq_some_iff.1 read, fun c mem => ?_⟩
          simpa using List.find?_eq_none.1 none c mem
  · rintro ⟨rfl, clean⟩
    have bytes : (utf8 cs).find? isForbiddenByte = none := by
      rw [List.find?_eq_none]
      intro b mem forbidden
      simp only [isForbiddenByte, Bool.and_eq_true, decide_eq_true_eq] at forbidden
      have char := mem_of_mem_utf8 (UInt8.lt_iff_toNat_lt.1 forbidden.1) mem
      rw [clean _ char] at forbidden
      exact absurd forbidden.2 Bool.false_ne_true
    have chars : cs.find? isForbidden = none := by
      rw [List.find?_eq_none]
      intro c mem
      simp [clean c mem]
    simp only [lineText, bytes, ofUtf8?_utf8, chars]

/-- The lines that have a text are the plain ones. -/
theorem isPlain_iff (whole : 10 ∉ line) : IsPlain line ↔ ∃ cs, lineText line = .ok cs := by
  refine exists_congr fun cs => ?_
  rw [lineText_ok_iff]
  refine and_congr_right fun text => forall₂_congr fun c mem => ?_
  have feed : c ≠ '\n' := by
    rintro rfl
    exact whole (text ▸ mem_utf8_of_mem (by decide) mem)
  rw [Bool.eq_false_iff, ne_eq, isForbidden_iff]
  simp [feed]

theorem isPlain_of_reading (whole : 10 ∉ line) {x : Option Declaration}
    (read : reading line = .ok x) : IsPlain line := by
  obtain ⟨cs, text, _⟩ := bind_ok_iff.1 read
  exact (isPlain_iff whole).2 ⟨cs, text⟩

theorem Fault.not_plain (fault : Fault line e) (whole : 10 ∉ line) : ¬IsPlain line := by
  rw [isPlain_iff whole, lineText_error_iff.2 fault]
  rintro ⟨cs, text⟩
  contradiction

theorem fault_of_not_plain (whole : 10 ∉ line) (bad : ¬IsPlain line) :
    ∃ e, Fault line e ∧ reading line = .error e := by
  cases text : lineText line with
  | ok cs => exact absurd ((isPlain_iff whole).2 ⟨cs, text⟩) bad
  | error e => exact ⟨e, lineText_error_iff.1 text, bind_error_iff.2 (.inl text)⟩

theorem lineText_utf8 (clean : ∀ c ∈ cs, isControl c = false) : lineText (utf8 cs) = .ok cs :=
  lineText_ok_iff.2 ⟨rfl, fun c mem => by simp [isForbidden, clean c mem]⟩

theorem reading_blank : reading [] = .ok none := by
  have text : lineText [] = .ok [] := lineText_ok_iff.2 ⟨rfl, by simp⟩
  rw [reading, text]
  rfl

end Script

end Witnessed
