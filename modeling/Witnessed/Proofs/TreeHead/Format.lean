import Mathlib.Data.List.Forall2
import Mathlib.Data.List.Nodup
import Mathlib.Data.Set.List
import Witnessed.Proofs.Text.Forms
import Witnessed.Proofs.TreeHead.Fields

/-!
The format of cosigned tree heads, said in terms of what stands in the text. A text is accepted
just when it has the format; it then says every field of the value, and the value is written as the
same text but for the order of the cosignature lines.
-/

namespace Witnessed

namespace Fields

/-- The fields of a cosignature line, as they stand there. -/
structure WrittenCosignature where
  witness : List Char
  time : List Char
  signature : List Char

/-- The fields of a cosigned tree head, as they stand in its text. -/
structure Written where
  size : List Char
  root : List Char
  signature : List Char
  cosignatures : List WrittenCosignature

/-- A line with its end. -/
def entry (key : String) (value : List Char) : List Char :=
  key.toList ++ '=' :: value ++ ['\n']

def WrittenCosignature.entry (c : WrittenCosignature) : List Char :=
  Fields.entry "cosignature" (c.witness ++ ' ' :: c.time ++ ' ' :: c.signature)

def Written.text (w : Written) : String :=
  String.ofList (entry "size" w.size ++ entry "root_hash" w.root ++
    entry "signature" w.signature ++ w.cosignatures.flatMap (·.entry))

/-- Numerals in every place, and no key hash on two lines. -/
structure Written.WellFormed (w : Written) : Prop where
  size : Decimal.IsNumeral w.size
  root : Hex.IsNumeral 32 w.root
  signature : Hex.IsNumeral 64 w.signature
  cosignatures : ∀ c ∈ w.cosignatures, Hex.IsNumeral 32 c.witness ∧ Decimal.IsNumeral c.time ∧
    Hex.IsNumeral 64 c.signature
  distinct : (w.cosignatures.map (·.witness)).Nodup

instance (w : Written) : Decidable w.WellFormed :=
  decidable_of_iff (Decimal.IsNumeral w.size ∧ Hex.IsNumeral 32 w.root ∧
      Hex.IsNumeral 64 w.signature ∧
      (∀ c ∈ w.cosignatures, Hex.IsNumeral 32 c.witness ∧ Decimal.IsNumeral c.time ∧
        Hex.IsNumeral 64 c.signature) ∧ (w.cosignatures.map (·.witness)).Nodup)
    ⟨fun ⟨a, b, c, d, e⟩ => ⟨a, b, c, d, e⟩, fun ⟨a, b, c, d, e⟩ => ⟨a, b, c, d, e⟩⟩

structure WrittenCosignature.Says (w : WrittenCosignature) (c : Cosignature) : Prop where
  witness : c.witness.bytes = Hex.bytes w.witness
  time : c.time.toNat = Decimal.value w.time
  signature : c.signature.bytes = Hex.bytes w.signature

/-- The tree head has the values written, and each cosignature under its own key hash. -/
structure Written.Says (w : Written) (head : CosignedTreeHead) : Prop where
  size : head.signed.head.size.toNat = Decimal.value w.size
  root : head.signed.head.root.bytes = Hex.bytes w.root
  signature : head.signed.signature.bytes = Hex.bytes w.signature
  cosignatures : ∃ cs, List.Forall₂ WrittenCosignature.Says w.cosignatures cs ∧
    head.cosignatures.entries.Perm (cs.map fun c => (c.witness, c))

/-! ## What is written of a value -/

def WrittenCosignature.of (c : Cosignature) : WrittenCosignature :=
  ⟨Hex.encode c.witness.bytes, Decimal.render c.time.toNat, Hex.encode c.signature.bytes⟩

def Written.of (signed : SignedTreeHead) (cs : List Cosignature) : Written :=
  ⟨Decimal.render signed.head.size.toNat, Hex.encode signed.head.root.bytes,
    Hex.encode signed.signature.bytes, cs.map .of⟩

variable {signed : SignedTreeHead} {cs : List Cosignature}

theorem entry_name (key : Key) (value : List Char) :
    entry key.name value = line key value ++ ['\n'] := by
  simp [entry, line]

theorem entry_of (c : Cosignature) :
    (WrittenCosignature.of c).entry = cosignatureLine c ++ ['\n'] :=
  entry_name .cosignature _

theorem text_of (signed : SignedTreeHead) (cs : List Cosignature) :
    (Written.of signed cs).text = textOf signed cs := by
  have cosignatures : (cs.map WrittenCosignature.of).flatMap (·.entry) =
      unlines (cs.map cosignatureLine) := by
    rw [unlines, List.flatMap_map, List.flatMap_map]
    exact List.flatMap_congr fun c _ => entry_of c
  have size := entry_name .size (Decimal.render signed.head.size.toNat)
  have root := entry_name .root (Hex.encode signed.head.root.bytes)
  have signature := entry_name .signature (Hex.encode signed.signature.bytes)
  rw [textOf, unlines, List.flatMap_append, ← unlines, ← unlines, ← cosignatures]
  simp only [Key.name] at size root signature
  simp only [Written.text, Written.of, size, root, signature, signedLines, unlines,
    List.flatMap_cons, List.flatMap_nil, List.append_assoc, List.nil_append]

theorem WrittenCosignature.numerals_iff {w : WrittenCosignature} :
    (Hex.IsNumeral 32 w.witness ∧ Decimal.IsNumeral w.time ∧ Hex.IsNumeral 64 w.signature) ↔
      ∃ c, w = .of c := by
  have hash := @Hex.isNumeral_iff .keyHash w.witness
  have time := @Decimal.isNumeral_iff w.time
  have signature := @Hex.isNumeral_iff .signature w.signature
  constructor
  · rintro ⟨a, b, c⟩
    obtain ⟨witness, first⟩ := hash.1 a
    obtain ⟨time, second⟩ := time.1 b
    obtain ⟨signature, third⟩ := signature.1 c
    refine ⟨⟨witness, time, signature⟩, ?_⟩
    obtain ⟨_, _, _⟩ := w
    rw [of, ← first, ← second, ← third]
  · rintro ⟨c, rfl⟩
    exact ⟨hash.2 ⟨_, rfl⟩, time.2 ⟨_, rfl⟩, signature.2 ⟨_, rfl⟩⟩

theorem distinct_of : ((cs.map WrittenCosignature.of).map (·.witness)).Nodup ↔
    (cs.map (·.witness)).Nodup := by
  have inj : Function.Injective fun key : KeyHash => Hex.encode key.bytes :=
    fun _ _ same => Octets.bytes_inj.1 (Hex.encode_inj.1 same)
  rw [← List.nodup_map_iff inj, List.map_map, List.map_map]
  rfl

theorem wellFormed_iff {w : Written} :
    w.WellFormed ↔ ∃ signed cs, w = .of signed cs ∧ (cs.map (·.witness)).Nodup := by
  have size := @Decimal.isNumeral_iff w.size
  have root := @Hex.isNumeral_iff .hash w.root
  have signature := @Hex.isNumeral_iff .signature w.signature
  constructor
  · rintro ⟨a, b, c, lines, distinct⟩
    obtain ⟨size, first⟩ := size.1 a
    obtain ⟨root, second⟩ := root.1 b
    obtain ⟨signature, third⟩ := signature.1 c
    have all : w.cosignatures ∈ Set.range (List.map WrittenCosignature.of) := by
      rw [Set.range_list_map]
      intro l mem
      obtain ⟨c, same⟩ := WrittenCosignature.numerals_iff.1 (lines l mem)
      exact ⟨c, same.symm⟩
    obtain ⟨cs, fourth⟩ := all
    refine ⟨⟨⟨size, root⟩, signature⟩, cs, ?_, distinct_of.1 (fourth ▸ distinct)⟩
    obtain ⟨_, _, _, _⟩ := w
    rw [Written.of, ← first, ← second, ← third, fourth]
  · rintro ⟨signed, cs, rfl, distinct⟩
    refine ⟨size.2 ⟨_, rfl⟩, root.2 ⟨_, rfl⟩, signature.2 ⟨_, rfl⟩, ?_, distinct_of.2 distinct⟩
    intro l mem
    obtain ⟨c, _, rfl⟩ := List.mem_map.1 mem
    exact WrittenCosignature.numerals_iff.2 ⟨c, rfl⟩

theorem says_of {head : CosignedTreeHead}
    (collected : CosignedTreeHead.ofList signed cs = .ok head) :
    (Written.of signed cs).Says head := by
  obtain rfl := CosignedTreeHead.ofList_signed collected
  refine ⟨(Decimal.value_render _).symm, (Hex.bytes_encode _).symm, (Hex.bytes_encode _).symm,
    cs, ?_, CosignedTreeHead.ofList_perm collected⟩
  rw [Written.of, List.forall₂_map_left_iff, List.forall₂_same]
  exact fun c _ => ⟨(Hex.bytes_encode _).symm, (Decimal.value_render _).symm,
    (Hex.bytes_encode _).symm⟩

end Fields

namespace CosignedTreeHead

open Fields

/-- The tree heads that come about. -/
inductive Built : CosignedTreeHead → Prop
  | fresh (signed : SignedTreeHead) : Built (ofSigned signed)
  | added {head head' : CosignedTreeHead} {c : Cosignature} (built : Built head)
      (h : head.add c = .ok head') : Built head'
  | collected {signed : SignedTreeHead} {cs : List Cosignature} {head : CosignedTreeHead}
      (h : ofList signed cs = .ok head) : Built head
  | read {text : String} {head : CosignedTreeHead} (h : parse text = .ok head) : Built head

variable {head : CosignedTreeHead}

theorem parse_own {text : String} (read : parse text = .ok head) : head.Own := by
  obtain ⟨cs, _, collected⟩ := parse_ok_iff.1 read
  exact ofList_own collected

theorem Built.own (built : Built head) : head.Own := by
  induction built with
  | fresh signed => exact ofSigned_own signed
  | added _ h ih => exact ih.add h
  | collected h => exact ofList_own h
  | read h => exact parse_own h

/-- What is written is read back when each cosignature is held under its own key hash. -/
theorem parse_render_ok_iff : parse head.render = .ok head ↔ head.Own := by
  constructor
  · exact parse_own
  · intro own
    exact parse_textOf own.ofList_values

theorem exists_parse_iff {text : String} :
    (∃ head, parse text = .ok head) ↔ ∃ w : Written, w.WellFormed ∧ text = w.text := by
  simp only [parse_ok_iff, wellFormed_iff]
  constructor
  · rintro ⟨head, cs, rfl, collected⟩
    exact ⟨.of head.signed cs, ⟨_, _, rfl, exists_ofList_iff.1 ⟨head, collected⟩⟩,
      (text_of ..).symm⟩
  · rintro ⟨_, ⟨signed, cs, rfl, distinct⟩, rfl⟩
    obtain ⟨head, collected⟩ := (@exists_ofList_iff cs signed).2 distinct
    obtain rfl := ofList_signed collected
    exact ⟨head, cs, text_of .., collected⟩

/-- What a collection is written as: the lines that it was collected from, in the order of the key
hashes. -/
theorem render_of_collected {signed : SignedTreeHead} {cs : List Cosignature}
    (collected : ofList signed cs = .ok head) :
    ∃ sorted : List WrittenCosignature, sorted.Perm (cs.map .of) ∧
      sorted.Pairwise (fun a b => Hex.bytes a.witness < Hex.bytes b.witness) ∧
      head.render = { Written.of signed cs with cosignatures := sorted }.text := by
  obtain rfl := ofList_signed collected
  refine ⟨head.cosignatures.values.map .of, (ofList_values_perm collected).map _, ?_, ?_⟩
  · refine List.pairwise_map.2 ((ofList_own collected).ascending.imp fun lt => ?_)
    rwa [WrittenCosignature.of, WrittenCosignature.of, Hex.bytes_encode, Hex.bytes_encode]
  · exact (text_of head.signed head.cosignatures.values).symm

/-- The accepted texts are those of the format. Nothing that such a text says is lost but the order
of its cosignature lines, and every tree head that comes about is read back from its text. -/
theorem reads_format :
    (∀ text, (∃ head, parse text = .ok head) ↔ ∃ w : Written, w.WellFormed ∧ text = w.text) ∧
    (∀ w : Written, w.WellFormed → ∃ head, parse w.text = .ok head ∧ w.Says head ∧
      ∃ sorted : List WrittenCosignature, sorted.Perm w.cosignatures ∧
        sorted.Pairwise (fun a b => Hex.bytes a.witness < Hex.bytes b.witness) ∧
        head.render = { w with cosignatures := sorted }.text) ∧
    ∀ head, Built head → parse head.render = .ok head := by
  refine ⟨fun text => exists_parse_iff, ?_, fun head built => parse_render_ok_iff.2 built.own⟩
  intro w wellFormed
  obtain ⟨signed, cs, rfl, distinct⟩ := wellFormed_iff.1 wellFormed
  obtain ⟨head, collected⟩ := exists_ofList_iff.2 distinct
  refine ⟨head, ?_, says_of collected, render_of_collected collected⟩
  rw [text_of]
  exact parse_textOf collected

/-- A text whose two cosignature lines stand the other way round than they are written. -/
def reversed : Written where
  size := ['4', '2']
  root := List.replicate 64 '0'
  signature := List.replicate 128 'f'
  cosignatures :=
    [⟨List.replicate 64 'b', ['0'], List.replicate 128 '1'⟩,
      ⟨List.replicate 64 'a', ['1', '0'], List.replicate 128 '2'⟩]

theorem reads_reversed :
    (reversed.WellFormed ∧ ∃ head, parse reversed.text = .ok head ∧ reversed.Says head ∧
      ∃ sorted : List WrittenCosignature, sorted.Perm reversed.cosignatures ∧
        sorted.Pairwise (fun a b => Hex.bytes a.witness < Hex.bytes b.witness) ∧
        head.render = { reversed with cosignatures := sorted }.text) ∧
    ∃ head, Built head ∧ head.cosignatures.size = 2 ∧ parse head.render = .ok head := by
  have wellFormed : reversed.WellFormed := by decide +kernel
  obtain ⟨head, collected⟩ : ∃ head, ofList blank unsorted = .ok head := ⟨_, rfl⟩
  have built : Built head := .collected collected
  refine ⟨⟨wellFormed, reads_format.2.1 reversed wellFormed⟩, head, built, ?_,
    reads_format.2.2 head built⟩
  cases collected
  rfl

end CosignedTreeHead

end Witnessed
