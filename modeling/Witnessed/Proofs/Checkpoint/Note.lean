import Mathlib.Data.List.Basic
import Witnessed.Checkpoint.Note
import Witnessed.Proofs.Except
import Witnessed.Proofs.TreeHead.Messages

/-!
What the readers of a checkpoint's lines accept: the header, a signature line, and the run over
all signature lines that looks for the log's own.
-/

namespace Witnessed.Note

/-- What names a key: some characters, none of which ends a field or controls anything. -/
structure IsName (cs : List Char) : Prop where
  nonempty : cs ≠ []
  plain : ∀ c ∈ cs, c ≠ ' ' ∧ isControl c = false

instance (cs : List Char) : Decidable (IsName cs) :=
  decidable_of_iff (cs ≠ [] ∧ cs.all (fun c => c ≠ ' ' && !isControl c) = true)
    ⟨fun ⟨nonempty, plain⟩ => ⟨nonempty, by simpa using plain⟩,
      fun ⟨nonempty, plain⟩ => ⟨nonempty, by simpa using plain⟩⟩

/-- The name on a signature line, and the bytes that the line holds. -/
structure Entry where
  name : List Char
  blob : List UInt8

def Entry.line (e : Entry) : List Char :=
  '—' :: ' ' :: e.name ++ ' ' :: Base64.encode e.blob

structure Entry.WellFormed (e : Entry) : Prop where
  name : IsName e.name
  blob : e.blob ≠ []

/-! ## The header -/

variable {text origin : List Char} {lines rest : List (List Char)}

theorem inHeader_ok_iff {α : Type} {line : Nat} {result : Except HeaderFault α} {a : α} :
    inHeader line result = .ok a ↔ result = .ok a := by
  cases result <;> simp [inHeader]

theorem inSignature_ok_iff {α : Type} {line : Nat} {result : Except SignatureFault α} {a : α} :
    inSignature line result = .ok a ↔ result = .ok a := by
  cases result <;> simp [inSignature]

theorem checkOrigin_ok_iff {u : Unit} : checkOrigin text = .ok u ↔ IsName text := by
  rw [checkOrigin]
  split
  · rename_i none
    exact ⟨nofun, fun name => absurd none name.nonempty⟩
  · rename_i some
    split
    · rename_i c found
      have bad := List.find?_some found
      have mem := List.mem_of_find?_eq_some found
      refine ⟨nofun, fun name => ?_⟩
      simp [name.plain c mem] at bad
    · rename_i clean
      refine ⟨fun _ => ⟨some, fun c mem => ?_⟩, fun _ => rfl⟩
      simpa using List.find?_eq_none.1 clean c mem

theorem sizeOf_ok_iff {n : UInt64} : sizeOf text = .ok n ↔ text = Decimal.render n.toNat := by
  rw [← Decimal.parse?_eq_some_iff]
  cases read : Decimal.parse? text <;> simp [sizeOf, read]

theorem ofBytes?_eq_some_iff {kind : Kind} {bytes : List UInt8} {o : Octets kind} :
    Octets.ofBytes? kind bytes = some o ↔ bytes = o.bytes := by
  rw [Octets.ofBytes?]
  split
  · rw [Option.some.injEq, ← Octets.bytes_inj]
  · rename_i other
    have differ : bytes ≠ o.bytes := fun same => other (same ▸ o.length_bytes)
    simp [differ]

theorem rootOf_ok_iff {root : Hash} : rootOf text = .ok root ↔ text = Base64.encode root.bytes := by
  rw [← Base64.decode_ok_iff]
  cases read : Base64.decode (utf8 text) with
  | error fault => simp [rootOf, read]
  | ok bytes =>
      rw [Except.ok.injEq, ← ofBytes?_eq_some_iff]
      cases taken : Octets.ofBytes? .hash bytes <;> simp [rootOf, read, taken]

theorem takeLine_ok_iff {position : Nat} {what : String} :
    takeLine position what lines = .ok (text, rest) ↔ lines = text :: rest := by
  cases lines <;> simp [takeLine, inHeader]

theorem takeHeader_ok_iff {head : TreeHead} :
    takeHeader lines = .ok (origin, head, rest) ↔
      lines = head.lines origin ++ [] :: rest ∧ IsName origin := by
  obtain ⟨size, root⟩ := head
  simp only [takeHeader, bind_ok_iff, Prod.exists, takeLine_ok_iff, inHeader_ok_iff,
    checkOrigin_ok_iff, sizeOf_ok_iff, rootOf_ok_iff, TreeHead.lines]
  simp only [inHeader, check_ok_iff, pure_ok_iff, not_not, Prod.mk.injEq, TreeHead.mk.injEq]
  constructor
  · rintro ⟨_, _, rfl, ⟨⟩, name, _, _, rfl, _, rfl, _, _, rfl, _, rfl, _, _, rfl, rfl, rfl,
      ⟨rfl, rfl⟩, rfl⟩
    exact ⟨rfl, name⟩
  · rintro ⟨rfl, name⟩
    exact ⟨_, _, rfl, ⟨⟩, name, _, _, rfl, _, rfl, _, _, rfl, _, rfl, _, _, rfl, rfl, rfl,
      ⟨rfl, rfl⟩, rfl⟩

/-! ## Signature lines -/

theorem IsName.not_mem {c : Char} (name : IsName text) (ends : c = ' ' ∨ c = '\n') : c ∉ text := by
  intro mem
  obtain ⟨space, control⟩ := name.plain c mem
  rcases ends with rfl | rfl
  · exact space rfl
  · revert control
    decide

theorem splitOn_space_iff {a b : List Char} :
    text.splitOn ' ' = [a, b] ↔ text = a ++ ' ' :: b ∧ ' ' ∉ a ∧ ' ' ∉ b := by
  simp [splitOn_eq_iff, List.intercalate]

theorem isName_iff (clean : ' ' ∉ text) :
    IsName text ↔ text ≠ [] ∧ text.any isControl = false := by
  constructor
  · intro name
    exact ⟨name.nonempty, List.any_eq_false.2 fun c mem => by simp [(name.plain c mem).2]⟩
  · rintro ⟨some, plain⟩
    refine ⟨some, fun c mem => ⟨fun space => clean (space ▸ mem), ?_⟩⟩
    simpa using List.any_eq_false.1 plain c mem

theorem readSignature_ok_iff {e : Entry} :
    readSignature text = .ok (e.name, e.blob) ↔ text = e.line ∧ e.WellFormed := by
  obtain ⟨name, blob⟩ := e
  constructor
  · intro h
    rw [readSignature] at h
    split at h
    · contradiction
    · rename_i rest front
      obtain rfl := after?_eq_some_iff.1 front
      split at h
      · rename_i first second fields
        obtain ⟨rfl, clean, _⟩ := splitOn_space_iff.1 fields
        split at h
        · contradiction
        · rename_i some
          obtain ⟨named, held⟩ := not_or.1 some
          split at h
          · contradiction
          · rename_i plain
            cases read : Base64.decode (utf8 second) with
            | error fault => simp [read] at h
            | ok bytes =>
                obtain rfl := Base64.decode_ok_iff.1 read
                simp only [read, Except.ok.injEq, Prod.mk.injEq] at h
                obtain ⟨rfl, rfl⟩ := h
                have name := (isName_iff clean).2 ⟨named, by simpa using plain⟩
                exact ⟨rfl, name, fun none => held (Base64.encode_eq_nil_iff.2 none)⟩
      · contradiction
  · rintro ⟨rfl, named, held⟩
    have clean : ' ' ∉ name := named.not_mem (.inl rfl)
    have front : after? dash (Entry.line ⟨name, blob⟩) = some (name ++ ' ' :: Base64.encode blob) :=
      after?_eq_some_iff.2 rfl
    have fields := splitOn_space_iff.2 ⟨rfl, clean, Base64.not_mem_encode (.inl rfl) blob⟩
    have read := Base64.decode_ok_iff.2 (@rfl _ (Base64.encode blob))
    obtain ⟨some, plain⟩ := (isName_iff clean).1 named
    have filled : ¬(name = [] ∨ Base64.encode blob = []) :=
      not_or.2 ⟨some, fun none => held (Base64.encode_eq_nil_iff.1 none)⟩
    simp only [readSignature, front, fields, filled, plain, read, ↓reduceIte, Bool.false_eq_true]

theorem logSignature?_eq_some_iff {blob : List UInt8} {id : KeyId} {signature : Signature} :
    logSignature? blob = some (id, signature) ↔ blob = id.bytes ++ signature.bytes := by
  simp only [logSignature?, bind, Option.bind_eq_some_iff, ofBytes?_eq_some_iff, pure,
    Option.some.injEq, Prod.mk.injEq]
  constructor
  · rintro ⟨_, front, _, back, rfl, rfl⟩
    rw [← front, ← back, List.take_append_drop]
  · rintro rfl
    exact ⟨id, List.take_left' id.length_bytes, signature, List.drop_left' id.length_bytes, rfl,
      rfl⟩

/-! ## The search for the log's line -/

/-- What a signature line holds if it is the log's. -/
def Entry.held (origin : List Char) (e : Entry) : Option (KeyId × Signature) :=
  if e.name = origin then logSignature? e.blob else none

theorem held_mk (origin name : List Char) (blob : List UInt8) :
    Entry.held origin ⟨name, blob⟩ = if name = origin then logSignature? blob else none :=
  rfl

theorem toList_inj {α : Type} {a b : Option α} : a.toList = b.toList ↔ a = b := by
  cases a <;> cases b <;> simp

theorem exists_toList {α : Type} {as bs : List α} {o : Option α} (front : as ++ bs = o.toList) :
    ∃ p : Option α, p.toList = as := by
  rcases as with _ | ⟨a, _ | ⟨b, as⟩⟩
  · exact ⟨none, rfl⟩
  · exact ⟨some a, rfl⟩
  · cases o <;> simp at front

/-- The log's line in a checkpoint's text. -/
def Entry.log (origin : List Char) (held : KeyId × Signature) : Entry :=
  ⟨origin, held.1.bytes ++ held.2.bytes⟩

theorem length_log (origin : List Char) (held : KeyId × Signature) :
    (Entry.log origin held).blob.length = 68 := by
  rw [Entry.log, List.length_append, held.1.length_bytes, held.2.length_bytes]
  rfl

theorem held_eq_some_iff {e : Entry} {held : KeyId × Signature} :
    e.held origin = some held ↔ e = .log origin held := by
  obtain ⟨name, blob⟩ := e
  obtain ⟨id, signature⟩ := held
  simp [Entry.held, Entry.log, logSignature?_eq_some_iff, Option.ite_none_right_eq_some]

/-- The search goes past a line that is well formed and within the limit, and keeps what it holds as
the log's line, unless something is kept already. -/
theorem findLog_cons {seen : Nat} {found next : Option (KeyId × Signature)} {e : Entry}
    (limit : seen < maxSignatures) (wellFormed : e.WellFormed)
    (kept : next.toList = found.toList ++ (e.held origin).toList) :
    findLog origin seen found (e.line :: rest) = findLog origin (seen + 1) next rest := by
  obtain ⟨name, blob⟩ := e
  have line : Entry.line ⟨name, blob⟩ ≠ [] := List.cons_ne_nil _ _
  have read := readSignature_ok_iff.2 ⟨@rfl _ (Entry.line ⟨name, blob⟩), wellFormed⟩
  rw [findLog, if_neg line, if_neg (by omega), inSignature_ok_iff.2 read]
  simp only [bind, Except.bind, ← held_mk]
  cases own : Entry.held origin ⟨name, blob⟩ with
  | none =>
      rw [own, Option.toList_none, List.append_nil, toList_inj] at kept
      rw [kept]
  | some first =>
      rw [own] at kept
      cases found with
      | none => rw [toList_inj.1 (show next.toList = (some first).toList from kept)]
      | some other => cases next <;> simp at kept

/-- There is no other way past a line. -/
theorem findLog_cons_ok {seen : Nat} {found last : Option (KeyId × Signature)}
    (bound : seen ≤ maxSignatures) (h : findLog origin seen found (text :: rest) = .ok last) :
    seen < maxSignatures ∧ ∃ e : Entry, text = e.line ∧ e.WellFormed ∧
      ∃ next : Option (KeyId × Signature),
        next.toList = found.toList ++ (e.held origin).toList ∧
          findLog origin (seen + 1) next rest = .ok last := by
  rw [findLog] at h
  split at h
  · contradiction
  · split at h
    · contradiction
    · rename_i limit
      obtain ⟨⟨name, blob⟩, read, made⟩ := bind_ok_iff.1 h
      obtain ⟨rfl, wellFormed⟩ :=
        (@readSignature_ok_iff _ ⟨name, blob⟩).1 (inSignature_ok_iff.1 read)
      refine ⟨by omega, ⟨name, blob⟩, rfl, wellFormed, ?_⟩
      simp only [← held_mk] at made
      cases own : Entry.held origin ⟨name, blob⟩ with
      | none =>
          rw [own] at made
          exact ⟨found, (List.append_nil _).symm, made⟩
      | some first =>
          rw [own] at made
          cases found with
          | none => exact ⟨some first, rfl, made⟩
          | some kept => contradiction

theorem filterMap_held_cons (e : Entry) (entries : List Entry) :
    (e :: entries).filterMap (·.held origin) =
      (e.held origin).toList ++ entries.filterMap (·.held origin) := by
  rw [List.filterMap_eq_flatMap_toList, List.flatMap_cons, ← List.filterMap_eq_flatMap_toList]

/-- The search goes past lines that are well formed and within the limit, if at most one of them is
the log's. -/
theorem findLog_entries {entries : List Entry} {seen : Nat}
    {found last : Option (KeyId × Signature)} (wellFormed : ∀ e ∈ entries, e.WellFormed)
    (few : seen + entries.length ≤ maxSignatures)
    (kept : last.toList = found.toList ++ entries.filterMap (·.held origin)) :
    findLog origin seen found (entries.map (·.line) ++ rest) =
      findLog origin (seen + entries.length) last rest := by
  induction entries generalizing seen found with
  | nil =>
      rw [List.filterMap_nil, List.append_nil, toList_inj] at kept
      rw [kept]
      rfl
  | cons e entries ih =>
      obtain ⟨first, others⟩ := List.forall_mem_cons.1 wellFormed
      rw [filterMap_held_cons, ← List.append_assoc] at kept
      rw [List.length_cons] at few
      obtain ⟨next, own⟩ := exists_toList kept.symm
      rw [← own] at kept
      rw [List.map_cons, List.cons_append, findLog_cons (by omega) first own,
        ih others (by omega) kept, List.length_cons, Nat.add_assoc, Nat.add_comm 1]

theorem findLog_ok_iff {seen : Nat} {found last : Option (KeyId × Signature)}
    (bound : seen ≤ maxSignatures) :
    findLog origin seen found lines = .ok last ↔
      ∃ entries : List Entry, lines = entries.map (·.line) ∧ (∀ e ∈ entries, e.WellFormed) ∧
        seen + entries.length ≤ maxSignatures ∧
        last.toList = found.toList ++ entries.filterMap (·.held origin) := by
  constructor
  · intro h
    induction lines generalizing seen found with
    | nil =>
        cases h
        exact ⟨[], rfl, nofun, bound, (List.append_nil _).symm⟩
    | cons text rest ih =>
        obtain ⟨limit, e, rfl, first, next, kept, run⟩ := findLog_cons_ok bound h
        obtain ⟨entries, rfl, others, count, all⟩ := ih limit run
        refine ⟨e :: entries, rfl, List.forall_mem_cons.2 ⟨first, others⟩, ?_, ?_⟩
        · rw [List.length_cons]
          omega
        · rw [all, kept, List.append_assoc, filterMap_held_cons]
  · rintro ⟨entries, rfl, wellFormed, few, kept⟩
    rw [← List.append_nil (entries.map _), findLog_entries wellFormed few kept]
    rfl

/-- A line too many ends the search, whatever it holds. -/
theorem findLog_full {found : Option (KeyId × Signature)} (some : text ≠ []) :
    findLog origin maxSignatures found (text :: rest) =
      .error (.tooManySignatures maxSignatures) := by
  rw [findLog, if_neg some, if_pos rfl]

/-- The search that comes to a line too many fails for that, if at most one line before it is the
log's. -/
theorem findLog_tooMany {entries : List Entry} {last : Option (KeyId × Signature)}
    (wellFormed : ∀ e ∈ entries, e.WellFormed) (many : maxSignatures < entries.length)
    (own : entries.filterMap (·.held origin) = last.toList) :
    findLog origin 0 none (entries.map (·.line)) = .error (.tooManySignatures maxSignatures) := by
  obtain ⟨before, e, rest, rfl, size⟩ :
      ∃ before e rest, entries = before ++ e :: rest ∧ before.length = maxSignatures := by
    refine ⟨entries.take maxSignatures, entries[maxSignatures], entries.drop (maxSignatures + 1),
      ?_, ?_⟩
    · rw [← List.drop_eq_getElem_cons many, List.take_append_drop]
    · exact List.length_take_of_le (Nat.le_of_lt many)
  obtain ⟨front, _⟩ := List.forall_mem_append.1 wellFormed
  rw [List.filterMap_append] at own
  obtain ⟨found, kept⟩ := exists_toList own
  rw [List.map_append, findLog_entries front (by omega) kept, Nat.zero_add, size]
  exact findLog_full (List.cons_ne_nil _ _)

end Witnessed.Note
