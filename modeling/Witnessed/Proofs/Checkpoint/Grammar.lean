import Witnessed.Proofs.Checkpoint.Note

/-!
The grammar of checkpoints. A text is accepted just when it is a header and a few signature lines
of which exactly one is the log's; the others have to be well formed and have no part in the value.
-/

namespace Witnessed

namespace Note

/-- The size tells the log's own lines from cosignatures under its name. -/
def Entry.isLogs (origin : List Char) (e : Entry) : Bool :=
  e.name = origin && e.blob.length = 68

/-- The fields of a checkpoint, as they stand in its text. -/
structure Written where
  origin : List Char
  size : List Char
  root : List UInt8
  entries : List Entry

def Written.text (w : Written) : String :=
  String.ofList (unlines ([w.origin, w.size, Base64.encode w.root, []] ++ w.entries.map (·.line)))

structure Written.WellFormed (w : Written) : Prop where
  origin : IsName w.origin
  size : Decimal.IsNumeral w.size
  root : w.root.length = 32
  count : 1 ≤ w.entries.length ∧ w.entries.length ≤ 16
  entries : ∀ e ∈ w.entries, e.WellFormed
  own : w.entries.countP (·.isLogs w.origin) = 1

/-- The checkpoint has what the header says and what the log's line holds. -/
structure Written.Says (w : Written) (c : Checkpoint) : Prop where
  origin : c.origin.toList = w.origin
  size : c.signed.head.size.toNat = Decimal.value w.size
  root : c.signed.head.root.bytes = w.root
  own : ∃ e ∈ w.entries, e.isLogs w.origin = true ∧ c.keyId.bytes = e.blob.take 4 ∧
    c.signed.signature.bytes = e.blob.drop 4

variable {origin : List Char}

/-! ## The log's line among the others -/

theorem eq_log_iff {e : Entry} {id : KeyId} {signature : Signature} :
    e = .log origin (id, signature) ↔ e.isLogs origin = true ∧ id.bytes = e.blob.take 4 ∧
      signature.bytes = e.blob.drop 4 := by
  obtain ⟨name, blob⟩ := e
  simp only [Entry.isLogs, Bool.and_eq_true, decide_eq_true_eq, Entry.log, Entry.mk.injEq]
  constructor
  · rintro ⟨rfl, rfl⟩
    have four : id.bytes.length = 4 := id.length_bytes
    rw [List.length_append, four, signature.length_bytes, List.take_left' four,
      List.drop_left' four]
    exact ⟨⟨rfl, rfl⟩, rfl, rfl⟩
  · rintro ⟨⟨rfl, _⟩, front, back⟩
    rw [front, back, List.take_append_drop]
    exact ⟨rfl, rfl⟩

theorem exists_eq_log {e : Entry} (logs : e.isLogs origin = true) :
    ∃ held, e = .log origin held := by
  have size : e.blob.length = 68 := by simpa using (Bool.and_eq_true_iff.1 logs).2
  have front : (e.blob.take 4).length = Kind.keyId.size := by simp [size, Kind.size]
  have back : (e.blob.drop 4).length = Kind.signature.size := by simp [size, Kind.size]
  exact ⟨(⟨_, front⟩, ⟨_, back⟩), eq_log_iff.2 ⟨logs, rfl, rfl⟩⟩

theorem filter_isLogs (origin : List Char) (entries : List Entry) :
    entries.filter (·.isLogs origin) = (entries.filterMap (·.held origin)).map (.log origin) := by
  induction entries with
  | nil => rfl
  | cons e rest ih =>
      cases held : e.held origin with
      | none =>
          have other : ¬e.isLogs origin = true := by
            intro logs
            obtain ⟨own, rfl⟩ := exists_eq_log logs
            rw [held_eq_some_iff.2 rfl] at held
            contradiction
          rw [List.filter_cons_of_neg other, List.filterMap_cons_none held, ih]
      | some own =>
          obtain rfl := held_eq_some_iff.1 held
          have logs : Entry.isLogs origin (.log origin own) = true := (eq_log_iff.1 rfl).1
          rw [List.filter_cons_of_pos logs, List.filterMap_cons_some held, ih, List.map_cons]

theorem filterMap_held_eq_iff {entries : List Entry} {own : KeyId × Signature} :
    entries.filterMap (·.held origin) = [own] ↔
      entries.countP (·.isLogs origin) = 1 ∧ .log origin own ∈ entries := by
  rw [List.countP_eq_length_filter, filter_isLogs, List.length_map, List.length_eq_one_iff]
  have mem : Entry.log origin own ∈ entries ↔ own ∈ entries.filterMap (·.held origin) := by
    simp only [List.mem_filterMap, held_eq_some_iff, exists_eq_right]
  rw [mem]
  constructor
  · intro only
    rw [only]
    exact ⟨⟨own, rfl⟩, List.mem_singleton_self own⟩
  · rintro ⟨⟨other, only⟩, mem⟩
    rw [only, List.mem_singleton] at mem
    rw [only, mem]

/-! ## Whole texts -/

/-- What is written of a checkpoint under signature lines. -/
def Written.of (c : Checkpoint) (entries : List Entry) : Written :=
  ⟨c.origin.toList, Decimal.render c.signed.head.size.toNat, c.signed.head.root.bytes, entries⟩

/-- The log's line of a checkpoint. -/
def Entry.of (c : Checkpoint) : Entry :=
  .log c.origin.toList (c.keyId, c.signed.signature)

theorem wellFormed_says_iff {w : Written} {c : Checkpoint} :
    w.WellFormed ∧ w.Says c ↔ ∃ entries : List Entry, w = .of c entries ∧
      IsName c.origin.toList ∧ (∀ e ∈ entries, e.WellFormed) ∧ entries.length ≤ 16 ∧
      entries.filterMap (·.held c.origin.toList) = [(c.keyId, c.signed.signature)] := by
  simp only [filterMap_held_eq_iff]
  constructor
  · rintro ⟨⟨name, numeral, _, ⟨_, few⟩, wellFormed, own⟩, ⟨origin, size, root, e, mem, held⟩⟩
    obtain rfl := eq_log_iff.2 held
    obtain ⟨n, rendered⟩ := Decimal.isNumeral_iff.1 numeral
    rw [rendered, Decimal.value_render] at size
    refine ⟨w.entries, ?_, origin ▸ name, wellFormed, few, origin ▸ own, origin ▸ mem⟩
    obtain ⟨_, _, _, _⟩ := w
    simp only at origin rendered root
    rw [Written.of, origin, size, ← rendered, root]
  · rintro ⟨entries, rfl, name, wellFormed, few, own, mem⟩
    refine ⟨⟨name, Decimal.isNumeral_iff.2 ⟨_, rfl⟩, c.signed.head.root.length_bytes,
      ⟨List.length_pos_of_mem mem, few⟩, wellFormed, own⟩, rfl, (Decimal.value_render _).symm, rfl,
      _, mem, eq_log_iff.1 rfl⟩

theorem text_of (c : Checkpoint) (entries : List Entry) :
    (Written.of c entries).text = String.ofList
      (unlines (c.signed.head.lines c.origin.toList ++ [] :: entries.map (·.line))) :=
  rfl

theorem lines_clean {entries : List Entry} (name : IsName origin)
    (wellFormed : ∀ e ∈ entries, e.WellFormed) (head : TreeHead) :
    ∀ line ∈ head.lines origin ++ [] :: entries.map (·.line), '\n' ∉ line := by
  simp only [List.forall_mem_append, List.forall_mem_cons, List.forall_mem_map]
  refine ⟨head_lines_clean (name.not_mem (.inr rfl)) head, List.not_mem_nil, fun e mem => ?_⟩
  simp [Entry.line, (wellFormed e mem).name.not_mem, Base64.not_mem_encode]

end Note

namespace Checkpoint

open Note

/-- Under a header, reading is the search for the log's line. -/
theorem parse_lines {origin : List Char} {entries : List Entry} (name : IsName origin)
    (wellFormed : ∀ e ∈ entries, e.WellFormed) (head : TreeHead) :
    parse (String.ofList (unlines (head.lines origin ++ [] :: entries.map (·.line)))) =
      (findLog origin 0 none (entries.map (·.line))).bind fun
        | none => .error (.missingSignature (String.ofList origin))
        | some (id, signature) => .ok ⟨String.ofList origin, ⟨head, signature⟩, id⟩ := by
  have clean := lines_clean name wellFormed head
  have lines := @rfl _ (head.lines origin ++ [] :: entries.map (·.line))
  have split := linesOf_ok_iff.2 ⟨(by simp), congrArg unlines lines, clean⟩
  unfold parse
  rw [String.toList_ofList, split]
  exact congrArg (· >>= _) (takeHeader_ok_iff.2 ⟨lines, name⟩)

theorem parse_text_iff {text : String} {c : Checkpoint} :
    parse text = .ok c ↔ ∃ entries : List Entry, text = (Written.of c entries).text ∧
      IsName c.origin.toList ∧ (∀ e ∈ entries, e.WellFormed) ∧ entries.length ≤ 16 ∧
      entries.filterMap (·.held c.origin.toList) = [(c.keyId, c.signed.signature)] := by
  constructor
  · intro h
    cases split : linesOf text.toList with
    | error line => simp [parse, split] at h
    | ok lines =>
        rw [parse, split] at h
        obtain ⟨⟨origin, head, rest⟩, header, made⟩ := bind_ok_iff.1 h
        obtain ⟨rfl, name⟩ := takeHeader_ok_iff.1 header
        obtain ⟨last, search, made⟩ := bind_ok_iff.1 made
        obtain ⟨entries, rfl, wellFormed, few, own⟩ := (findLog_ok_iff (Nat.zero_le _)).1 search
        cases last with
        | none => contradiction
        | some held =>
            cases made
            rw [Nat.zero_add] at few
            rw [String.toList_ofList]
            refine ⟨entries, ?_, name, wellFormed, few, own.symm⟩
            rw [← String.toList_inj, (linesOf_ok_iff.1 split).2.1, text_of, String.toList_ofList,
              String.toList_ofList]
  · rintro ⟨entries, rfl, name, wellFormed, few, own⟩
    have search := (@findLog_ok_iff c.origin.toList _ 0 none (some (c.keyId, c.signed.signature))
      (Nat.zero_le _)).2 ⟨entries, rfl, wellFormed, (Nat.zero_add _).symm ▸ few, own.symm⟩
    rw [text_of, parse_lines name wellFormed, search]
    simp only [Except.bind, String.ofList_toList]

theorem parse_ok_iff {text : String} {c : Checkpoint} :
    parse text = .ok c ↔ ∃ w : Written, w.WellFormed ∧ text = w.text ∧ w.Says c := by
  rw [parse_text_iff]
  constructor
  · rintro ⟨entries, rfl, rest⟩
    obtain ⟨wellFormed, fields⟩ := wellFormed_says_iff.2 ⟨entries, rfl, rest⟩
    exact ⟨_, wellFormed, rfl, fields⟩
  · rintro ⟨w, wellFormed, rfl, fields⟩
    obtain ⟨entries, rfl, rest⟩ := wellFormed_says_iff.1 ⟨wellFormed, fields⟩
    exact ⟨entries, rfl, rest⟩

theorem exists_parse {w : Written} (wellFormed : w.WellFormed) :
    ∃ c, parse w.text = .ok c ∧ w.Says c := by
  obtain ⟨size, rendered⟩ := Decimal.isNumeral_iff.1 wellFormed.size
  obtain ⟨e, mem, logs⟩ : ∃ e ∈ w.entries, e.isLogs w.origin = true :=
    List.countP_pos_iff.1 (by rw [wellFormed.own]; exact Nat.one_pos)
  obtain ⟨⟨id, signature⟩, made⟩ := exists_eq_log logs
  have value : size.toNat = Decimal.value w.size := by
    rw [rendered, Decimal.value_render]
  let head : TreeHead := ⟨size, ⟨w.root, wellFormed.root⟩⟩
  have fields : w.Says ⟨String.ofList w.origin, ⟨head, signature⟩, id⟩ :=
    ⟨String.toList_ofList, value, rfl, e, mem, eq_log_iff.1 made⟩
  exact ⟨_, parse_ok_iff.2 ⟨w, wellFormed, rfl, fields⟩, fields⟩

/-- The accepted texts are those of the grammar, and such a text gives what its header and its one
log line say, whatever the other lines are and wherever they stand. -/
theorem reads_grammar :
    (∀ text, (∃ c, parse text = .ok c) ↔ ∃ w : Written, w.WellFormed ∧ text = w.text) ∧
    ∀ w : Written, w.WellFormed → ∃ c, parse w.text = .ok c ∧ w.Says c := by
  refine ⟨fun text => ⟨?_, ?_⟩, fun w => exists_parse⟩
  · rintro ⟨c, read⟩
    obtain ⟨w, wellFormed, same, _⟩ := parse_ok_iff.1 read
    exact ⟨w, wellFormed, same⟩
  · rintro ⟨w, wellFormed, rfl⟩
    obtain ⟨c, read, _⟩ := exists_parse wellFormed
    exact ⟨c, read⟩

/-- The log's line after a foreign one and one that bears its name but holds too much. -/
def crowded : Written where
  origin := ['a']
  size := ['1', '0']
  root := List.replicate 32 7
  entries :=
    [⟨['b', 'é'], [1]⟩, ⟨['a'], List.replicate 76 2⟩,
      ⟨['a'], List.replicate 4 3 ++ List.replicate 64 4⟩]

theorem crowded_wellFormed : crowded.WellFormed := by
  refine ⟨by decide, by decide, rfl, by decide, ?_, rfl⟩
  simp only [crowded, List.forall_mem_cons]
  exact ⟨⟨by decide, nofun⟩, ⟨by decide, nofun⟩, ⟨by decide, nofun⟩, nofun⟩

theorem reads_crowded :
    crowded.WellFormed ∧ ∃ c, parse crowded.text = .ok c ∧ crowded.Says c :=
  ⟨crowded_wellFormed, reads_grammar.2 crowded crowded_wellFormed⟩

end Checkpoint

end Witnessed
