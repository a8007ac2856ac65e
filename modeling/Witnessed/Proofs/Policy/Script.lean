import Mathlib.Data.List.TakeWhile
import Witnessed.Proofs.Policy.Attribution
import Witnessed.Proofs.Policy.Threshold
import Witnessed.Proofs.Text.Words
import Witnessed.Proofs.TreeHead.Fields

/-!
Policies by way of text. Declarations that are written down, with comments between them, come to
the same end as declarations that are made one after the other: the same policy, or the same
error, which is put down to the line of the declaration that was refused.
-/

namespace Witnessed

namespace Script

/-! ## What can be written -/

/-- Text that is one word of a line, and not in a comment. -/
structure IsField (cs : List Char) : Prop where
  some : cs ≠ []
  clean : ∀ c ∈ cs, isBlank c = false ∧ isControl c = false ∧ c ≠ '#'

instance (cs : List Char) : Decidable (IsField cs) :=
  decidable_of_iff (cs ≠ [] ∧ cs.all (fun c => !isBlank c && !isControl c && c ≠ '#') = true)
    ⟨fun h => ⟨h.1, by simpa [and_assoc] using h.2⟩,
      fun h => ⟨h.some, by simpa [and_assoc] using h.clean⟩⟩

/-- The names and the URL that a declaration has. -/
def given : Declaration → List String
  | .log entity => entity.url.toList
  | .witness name entity => name :: entity.url.toList
  | .group name _ members => name :: members
  | .quorum name => [name]

/-- A declaration that a line can hold: a group has members. -/
structure IsWritable (x : Declaration) : Prop where
  given : ∀ f ∈ given x, IsField f.toList
  members : ∀ name threshold, x ≠ .group name threshold []

/-- What stands on a line. -/
inductive Item
  | declaration (x : Declaration)
  | comment (text : String)

def Item.line : Item → Line
  | .declaration x => .ofDeclaration x
  | .comment text => .comment text

def Item.declaration? : Item → Option Declaration
  | .declaration x => some x
  | .comment _ => none

def Item.IsWritable : Item → Prop
  | .declaration x => Script.IsWritable x
  | .comment text => ∀ c ∈ text.toList, isControl c = false

/-- The declarations among the items. -/
def declared (items : List Item) : List Declaration :=
  items.filterMap Item.declaration?

theorem declared_append (xs ys : List Item) : declared (xs ++ ys) = declared xs ++ declared ys :=
  List.filterMap_append

/-- What comes of declarations that are made one after the other: a policy, no policy because no
quorum was set, or the first error, put down to the line that the declaration stands on. -/
inductive ComesTo (suite : Suite) (items : List Item) : Except PolicyError Policy → Prop
  | built {p : Policy} (taken : Draft.new.Takes suite (declared items))
      (built : (Draft.new.declareAll suite (declared items)).build = .ok p) :
      ComesTo suite items (.ok p)
  | unfinished (taken : Draft.new.Takes suite (declared items))
      (unset : (Draft.new.declareAll suite (declared items)).build = .error .missingQuorum) :
      ComesTo suite items (.error .missingQuorum)
  | refused {before after : List Item} {x : Declaration} {e : PolicyError}
      (split : items = before ++ .declaration x :: after)
      (taken : Draft.new.Takes suite (declared before))
      (refused : ((Draft.new.declareAll suite (declared before)).declare suite x).1 = .error e) :
      ComesTo suite items (.error (.atLine (before.length + 1) e))

variable {suite : Suite} {items : List Item} {x : Declaration}

/-! ## Fields -/

theorem IsField.words {cs : List Char} (field : IsField cs) : words cs = [cs] :=
  words_word field.some fun c hc => (field.clean c hc).1

theorem keyword_isField (keyword : Keyword) : IsField keyword.name.toList := by
  cases keyword <;> decide

theorem hex_isField (key : PublicKey) : IsField key.hex.toList := by
  rw [Octets.hex, String.toList_ofList]
  constructor
  · rw [← List.length_pos_iff, Hex.length_encode, key.length_bytes]
    decide
  · intro c hc
    obtain ⟨n, small, rfl⟩ := Hex.mem_encode hc
    have each : ∀ n < 16, isBlank (Hex.digit n) = false ∧ isControl (Hex.digit n) = false ∧
      Hex.digit n ≠ '#' := by decide
    exact each n small

theorem decimal_isField (n : Nat) : IsField (Decimal.render n) := by
  constructor
  · intro none
    have canonical := Decimal.isCanonical_render n
    rw [none] at canonical
    contradiction
  · intro c hc
    have digit : c.isDigit = true := Nat.isDigit_of_mem_toDigits (by decide) (by decide) hc
    obtain ⟨small, char⟩ := Decimal.digitChar_of_isDigit digit
    have each : ∀ n < 10, isBlank n.digitChar = false ∧ isControl n.digitChar = false ∧
      n.digitChar ≠ '#' := by decide
    exact char ▸ each _ small

theorem threshold_isField (threshold : Threshold) :
    IsField (String.ofList threshold.render).toList := by
  rw [String.toList_ofList]
  cases threshold with
  | count n => exact decimal_isField n.toNat
  | any | all => decide

theorem entityOf_hex (key : PublicKey) (url : Option String) :
    entityOf key.hex.toList (url.map String.toList) = .ok ⟨key, url⟩ := by
  have read : Octets.ofHex .publicKey key.hex.toList = .ok key := by
    rw [Octets.hex, String.toList_ofList, Octets.ofHex_ok_iff (Hex.encode_lower key.bytes)]
  rw [entityOf, read]
  cases url <;> simp

/-! ## Lines -/

def keywordOf : Declaration → Keyword
  | .log _ => .log
  | .witness _ _ => .witness
  | .group _ _ _ => .group
  | .quorum _ => .quorum

/-- What stands behind the keyword. -/
def arguments : Declaration → List String
  | .log entity => entity.key.hex :: entity.url.toList
  | .witness name entity => name :: entity.key.hex :: entity.url.toList
  | .group name threshold members => name :: String.ofList threshold.render :: members
  | .quorum name => [name]

def fields (x : Declaration) : List String :=
  (keywordOf x).name :: arguments x

theorem fields_isField (writable : IsWritable x) : ∀ f ∈ fields x, IsField f.toList := by
  rw [fields, List.forall_mem_cons]
  refine ⟨keyword_isField _, ?_⟩
  have given := writable.given
  cases x with
  | log entity => exact List.forall_mem_cons.2 ⟨hex_isField _, given⟩
  | witness name entity =>
      obtain ⟨named, url⟩ := List.forall_mem_cons.1 given
      exact List.forall_mem_cons.2 ⟨named, List.forall_mem_cons.2 ⟨hex_isField _, url⟩⟩
  | group name threshold members =>
      obtain ⟨named, members⟩ := List.forall_mem_cons.1 given
      exact List.forall_mem_cons.2 ⟨named, List.forall_mem_cons.2 ⟨threshold_isField _, members⟩⟩
  | quorum name => exact given

theorem spaced_cons (f : String) {fs : List String} (some : fs ≠ []) :
    spaced (f :: fs) = f.toList ++ [' '] ++ spaced fs := by
  rw [spaced, List.map_cons, List.intercalate_cons_of_ne_nil, spaced]
  simpa using some

/-- Fields that stand as one text behind others stand there one by one. -/
theorem spaced_nested (front : List String) {fs : List String} (some : fs ≠ []) :
    spaced (front ++ [String.ofList (spaced fs)]) = spaced (front ++ fs) := by
  induction front with
  | nil => simp [spaced]
  | cons f rest ih =>
      rw [List.cons_append, List.cons_append, spaced_cons f (by simp),
        spaced_cons f (by simp [some]), ih]

theorem forall_mem_spaced (p : Char → Prop) (space : p ' ') {fs : List String}
    (each : ∀ f ∈ fs, ∀ c ∈ f.toList, p c) : ∀ c ∈ spaced fs, p c := by
  induction fs with
  | nil => simp [spaced]
  | cons f rest ih =>
      obtain ⟨first, later⟩ := List.forall_mem_cons.1 each
      by_cases last : rest = []
      · simpa [spaced, last] using first
      · rw [spaced_cons f last, List.forall_mem_append, List.forall_mem_append,
          List.forall_mem_singleton]
        exact ⟨⟨first, space⟩, ih later⟩

theorem words_spaced {fs : List String} (each : ∀ f ∈ fs, IsField f.toList) :
    words (spaced fs) = fs.map String.toList := by
  rw [spaced, words_intercalate rfl, List.flatMap_map, List.map_eq_flatMap]
  exact List.flatMap_congr fun f hf => (each f hf).words

theorem line_eq_spaced (writable : IsWritable x) :
    (Line.ofDeclaration x).render = spaced (fields x) := by
  cases x with
  | log | witness | quorum => rfl
  | group name threshold members =>
      have some : members ≠ [] := by
        rintro rfl
        exact writable.members name threshold rfl
      exact spaced_nested ["group", name, String.ofList threshold.render] some

/-- Nothing on the line of a declaration ends the line or opens a comment. -/
theorem clean_line (writable : IsWritable x) :
    ∀ c ∈ (Line.ofDeclaration x).render, isControl c = false ∧ c ≠ '#' := by
  rw [line_eq_spaced writable]
  apply forall_mem_spaced fun c => isControl c = false ∧ c ≠ '#'
  · decide
  · intro f hf c hc
    exact ((fields_isField writable f hf).clean c hc).2

theorem ofName?_name (keyword : Keyword) : Keyword.ofName? keyword.name.toList = some keyword := by
  cases keyword <;> rfl

theorem declarationOf_arguments (writable : IsWritable x) :
    declarationOf (keywordOf x) ((arguments x).map String.toList) = .ok x := by
  cases x with
  | log entity =>
      obtain ⟨key, url⟩ := entity
      have read := entityOf_hex key url
      cases url with
      | none =>
          rw [Option.map_none] at read
          simp [declarationOf, keywordOf, arguments, read]
      | some url =>
          rw [Option.map_some] at read
          simp [declarationOf, keywordOf, arguments, read]
  | witness name entity =>
      obtain ⟨key, url⟩ := entity
      have read := entityOf_hex key url
      cases url with
      | none =>
          rw [Option.map_none] at read
          simp [declarationOf, keywordOf, arguments, read]
      | some url =>
          rw [Option.map_some] at read
          simp [declarationOf, keywordOf, arguments, read]
  | group name threshold members =>
      cases members with
      | nil => exact absurd rfl (writable.members name threshold)
      | cons member members => simp [declarationOf, keywordOf, arguments, Threshold.parse?_render]
  | quorum name => simp [declarationOf, keywordOf, arguments]

/-- The line of a declaration is read as that declaration. -/
theorem declaration?_line (writable : IsWritable x) :
    declaration? (Line.ofDeclaration x).render = .ok (some x) := by
  have whole : (Line.ofDeclaration x).render.takeWhile (· ≠ '#') = (Line.ofDeclaration x).render :=
    List.takeWhile_eq_self_iff.2 fun c hc => decide_eq_true (clean_line writable c hc).2
  rw [declaration?, whole, line_eq_spaced writable, words_spaced (fields_isField writable), fields,
    List.map_cons]
  simp only [ofName?_name, declarationOf_arguments writable]
  rfl

theorem declaration?_comment (text : String) : declaration? (Line.comment text).render = .ok none :=
  rfl

theorem Item.clean {i : Item} (writable : i.IsWritable) :
    ∀ c ∈ i.line.render, isControl c = false := by
  cases i with
  | declaration x => exact fun c hc => (clean_line writable c hc).1
  | comment text =>
      apply forall_mem_spaced (fun c => isControl c = false) rfl
      rw [List.forall_mem_cons, List.forall_mem_singleton]
      exact ⟨by simp [isControl], writable⟩

theorem reading_item {i : Item} (writable : i.IsWritable) :
    reading (utf8 i.line.render) = .ok i.declaration? := by
  rw [reading, lineText_utf8 (Item.clean writable)]
  cases i with
  | declaration x => exact declaration?_line writable
  | comment text => exact declaration?_comment text

/-! ## Texts -/

/-- The lines of a text are the lines that it was put together from, before some blank ones. -/
theorem exists_splitOn_render (writable : ∀ i ∈ items, i.IsWritable) :
    ∃ count, (bytesOf (render (items.map Item.line))).splitOn 10 =
      (items.map fun i => utf8 i.line.render) ++ List.replicate count [] := by
  have bytes : bytesOf (render (items.map Item.line)) =
      [10].intercalate (items.map fun i => utf8 i.line.render) ++ [10] := by
    rw [bytesOf, render, String.toList_ofList, utf8_append, utf8_intercalate, List.map_map,
      List.map_map]
    rfl
  rw [bytes]
  apply exists_splitOn_intercalate _ (by simp)
  rw [List.forall_mem_map]
  intro i hi feed
  have control := Item.clean (writable i hi) _ (mem_of_mem_utf8 (by decide) feed)
  contradiction

theorem filterMap_items (writable : ∀ i ∈ items, i.IsWritable) :
    (items.map fun i => utf8 i.line.render).filterMap declares? = declared items := by
  rw [List.filterMap_map, declared]
  exact List.filterMap_congr fun i hi => declares?_of_reading (reading_item (writable i hi))

theorem taken_of_accepted (writable : ∀ i ∈ items, i.IsWritable)
    (accepted : Accepted suite (items.map fun i => utf8 i.line.render)) :
    Draft.new.Takes suite (declared items) :=
  filterMap_items writable ▸ accepted.taken

variable {before after : List Item} {e : PolicyError}

/-- Only the line of a declaration is ever refused, and it is because the declaration is. -/
theorem declaration_of_refused {i : Item} (writable : ∀ i ∈ before, i.IsWritable)
    (item : i.IsWritable)
    (h : Refused suite (before.map fun i => utf8 i.line.render) (utf8 i.line.render) e) :
    ∃ x, i = .declaration x ∧ Draft.new.Takes suite (declared before) ∧
      ((Draft.new.declareAll suite (declared before)).declare suite x).1 = .error e := by
  have refused := h.refused
  rw [takeLine_eq, reading_item item, draftOf, filterMap_items writable] at refused
  cases i with
  | comment text => contradiction
  | declaration x =>
      exact ⟨x, rfl, taken_of_accepted writable h.accepted, follow_error_iff.1 refused⟩

theorem comesTo_of_parse (writable : ∀ i ∈ items, i.IsWritable) :
    ComesTo suite items (Policy.parse suite (bytesOf (render (items.map Item.line)))) := by
  obtain ⟨count, split⟩ := exists_splitOn_render writable
  generalize bytesOf (render (items.map Item.line)) = bytes at split ⊢
  rcases accepted_or_refused suite (items.map fun i => utf8 i.line.render) with
    accepted | ⟨_, _, _, e, cut, refused⟩
  · have taken := taken_of_accepted writable accepted
    have good := (Draft.good_iff_takes rfl).2 taken
    rw [parse_of_accepted (split ▸ accepted.append_blank count), split, draftOf_append_blank,
      draftOf, filterMap_items writable]
    cases built : (Draft.new.declareAll suite (declared items)).build with
    | ok p => exact .built taken built
    | error e =>
        obtain rfl := Draft.missing_of_build good built
        exact .unfinished taken built
  · rw [cut, List.append_assoc, List.cons_append] at split
    rw [parse_of_refused split refused]
    -- The lines are those of the items, so they are cut where the items are.
    obtain ⟨before, rest, rfl, rfl, behind⟩ := List.map_eq_append_iff.1 cut
    obtain ⟨i, after, rfl, rfl, rfl⟩ := List.map_eq_cons_iff.1 behind
    obtain ⟨front, later⟩ := List.forall_mem_append.1 writable
    have item := (List.forall_mem_cons.1 later).1
    obtain ⟨x, rfl, taken, failed⟩ := declaration_of_refused front item refused
    rw [List.length_map]
    exact .refused rfl taken failed

theorem not_taken_of_refused
    (refused : ((Draft.new.declareAll suite (declared before)).declare suite x).1 = .error e) :
    ¬Draft.new.Takes suite (declared (before ++ .declaration x :: after)) := by
  intro taken
  have split : declared (before ++ .declaration x :: after) =
      declared before ++ x :: declared after := by
    rw [declared_append]
    rfl
  rw [split, Draft.takes_append_iff, Draft.takes_cons_iff] at taken
  obtain ⟨_, ⟨key, accepted⟩, _⟩ := taken
  rw [refused] at accepted
  contradiction

/-- Only one declaration is the first that is refused. -/
theorem first_refused {before' after' : List Item} {x' : Declaration} {e' : PolicyError}
    (split : before ++ .declaration x :: after = before' ++ .declaration x' :: after')
    (taken : Draft.new.Takes suite (declared before))
    (taken' : Draft.new.Takes suite (declared before'))
    (refused : ((Draft.new.declareAll suite (declared before)).declare suite x).1 = .error e)
    (refused' : ((Draft.new.declareAll suite (declared before')).declare suite x').1 = .error e') :
    before = before' ∧ x = x' := by
  rcases List.append_eq_append_iff.1 split with ⟨between, eq, rest⟩ | ⟨between, eq, rest⟩
  · cases between with
    | nil =>
        rw [List.append_nil] at eq
        cases rest
        exact ⟨eq.symm, rfl⟩
    | cons y others =>
        cases rest
        exact absurd (eq ▸ taken') (not_taken_of_refused refused)
  · cases between with
    | nil =>
        rw [List.append_nil] at eq
        cases rest
        exact ⟨eq, rfl⟩
    | cons y others =>
        cases rest
        exact absurd (eq ▸ taken) (not_taken_of_refused refused')

theorem ComesTo.unique {r r' : Except PolicyError Policy} (h : ComesTo suite items r)
    (h' : ComesTo suite items r') : r = r' := by
  cases h with
  | built taken built =>
      cases h' with
      | built _ built' => exact built.symm.trans built'
      | unfinished _ unset => exact built.symm.trans unset
      | refused split _ refused => exact absurd (split ▸ taken) (not_taken_of_refused refused)
  | unfinished taken unset =>
      cases h' with
      | built _ built => exact unset.symm.trans built
      | unfinished => rfl
      | refused split _ refused => exact absurd (split ▸ taken) (not_taken_of_refused refused)
  | refused split taken refused =>
      cases h' with
      | built taken' | unfinished taken' =>
          exact absurd (split ▸ taken') (not_taken_of_refused refused)
      | refused split' taken' refused' =>
          obtain ⟨rfl, rfl⟩ := first_refused (split.symm.trans split') taken taken' refused refused'
          rw [refused, Except.error.injEq] at refused'
          rw [refused']

end Script

open Script

/-- Reading the text of declarations and comments that lines can hold has the outcome of making the
declarations one after the other. -/
theorem Policy.reads_as_declared (suite : Suite) (items : List Item)
    (writable : ∀ i ∈ items, i.IsWritable) (result : Except PolicyError Policy) :
    parse suite (bytesOf (render (items.map Item.line))) = result ↔
      ComesTo suite items result := by
  have read := @comesTo_of_parse suite items writable
  constructor
  · rintro rfl
    exact read
  · intro comes
    exact read.unique comes

/-- The comment counts as a line, and the third line names no witness. -/
theorem Policy.reads_as_declared_undefined :
    let items := [.comment "One witness", .declaration (.witness "a" (.filled 2)),
      .declaration (.quorum "b")]
    (∀ i ∈ items, i.IsWritable) ∧
      parse .plain (bytesOf (render (items.map Item.line))) =
        .error (.atLine 3 (.undefinedName "b")) := by
  intro items
  have comment : (Item.comment "One witness").IsWritable := by
    simp [Item.IsWritable, isControl]
  have writable : ∀ i ∈ items, i.IsWritable := by
    simp only [items, List.forall_mem_cons]
    exact ⟨comment, ⟨by decide, by simp⟩, ⟨by decide, by simp⟩, by simp⟩
  have taken : Draft.new.Takes .plain (declared (items.take 2)) := (Draft.good_iff_takes rfl).1 rfl
  refine ⟨writable, (reads_as_declared .plain items writable _).2 ?_⟩
  exact .refused (show items = items.take 2 ++ .declaration (.quorum "b") :: [] from rfl) taken rfl

end Witnessed
