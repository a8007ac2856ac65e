import Witnessed.Policy.Catalog
import Witnessed.Proofs.Text.Forms

/-!
What a catalog lists and what it finds. The names that it lists are just those that it finds a
text for, whatever the files of the directory are called, and it never asks the directory for a
file that is not called after a name.
-/

namespace Witnessed

/-- The same directory, with a record of the files that it has been asked for. -/
def Directory.recorded {m : Type → Type} [Monad m] (directory : Directory m) :
    Directory (StateT (List String) m) where
  read := fun file asked => (·, asked ++ [file]) <$> directory.read file
  list := fun asked => (·, asked) <$> directory.list

namespace Catalog

/-! ## Names and file names -/

/-- A letter or digit of ASCII. -/
def IsAlphanumeric (c : Char) : Prop :=
  ('A' ≤ c ∧ c ≤ 'Z') ∨ ('a' ≤ c ∧ c ≤ 'z') ∨ ('0' ≤ c ∧ c ≤ '9')

instance (c : Char) : Decidable (IsAlphanumeric c) :=
  inferInstanceAs (Decidable (_ ∨ _ ∨ _))

/-- A character that may stand in a name, but perhaps not in front. -/
def IsNameCharacter (c : Char) : Prop :=
  IsAlphanumeric c ∨ c = '.' ∨ c = '_' ∨ c = '-'

instance (c : Char) : Decidable (IsNameCharacter c) :=
  inferInstanceAs (Decidable (_ ∨ _ ∨ _ ∨ _))

/-- The form of names: a letter or digit, and then letters, digits, dots, underscores and
hyphens. -/
def IsPolicyName (name : String) : Prop :=
  ∃ c rest, name.toList = c :: rest ∧ IsAlphanumeric c ∧ ∀ d ∈ rest, IsNameCharacter d

theorem isLetterOrDigit_iff {c : Char} : isLetterOrDigit c = true ↔ IsAlphanumeric c := by
  have upper : c.isUpper = true ↔ 'A' ≤ c ∧ c ≤ 'Z' := decide_eq_true_iff
  have lower : c.isLower = true ↔ 'a' ≤ c ∧ c ≤ 'z' :=
    Bool.and_eq_true_iff.trans (and_congr decide_eq_true_iff decide_eq_true_iff)
  have letter : c.isAlpha = (c.isUpper || c.isLower) := rfl
  rw [isLetterOrDigit, letter, Bool.or_assoc, Bool.or_eq_true, Bool.or_eq_true, upper, lower,
    Decimal.isDigit_iff, IsAlphanumeric]

theorem isName_iff {name : String} : isName name.toList = true ↔ IsPolicyName name := by
  unfold IsPolicyName IsNameCharacter
  cases name.toList with
  | nil => simp [isName]
  | cons c rest => simp [isName, isLetterOrDigit_iff, or_assoc]

instance (name : String) : Decidable (IsPolicyName name) :=
  decidable_of_iff _ isName_iff

theorem fileName_eq (name : String) : fileName name = name ++ ".policy" := by
  have text : String.ofList extension = ".policy" := String.ofList_toList
  rw [fileName, text]

theorem toList_fileName (name : String) : (fileName name).toList = name.toList ++ extension := by
  rw [fileName, String.toList_append, String.toList_ofList]

/-- A file stands for a name just when it is the file that the name stands for. -/
theorem nameOfFile?_eq_some_iff {file name : String} :
    nameOfFile? file = some name ↔ IsPolicyName name ∧ file = fileName name := by
  have same : file = fileName name ↔ file.toList = name.toList ++ extension := by
    rw [← toList_fileName, String.toList_inj]
  rw [← isName_iff, same]
  simp only [nameOfFile?, Option.ite_none_right_eq_some, Bool.and_eq_true,
    List.isSuffixOf_iff_suffix, List.suffix_iff_eq_append, Option.some.injEq]
  constructor
  · rintro ⟨⟨joined, valid⟩, rfl⟩
    rw [String.toList_ofList]
    exact ⟨valid, joined.symm⟩
  · rintro ⟨valid, joined⟩
    have front : file.toList.take (file.toList.length - extension.length) = name.toList := by
      rw [joined, List.length_append, Nat.add_sub_cancel, List.take_left]
    rw [front]
    exact ⟨⟨joined.symm, valid⟩, String.ofList_toList⟩

/-- The file of a name is in the directory itself, and not a hidden one. -/
theorem fileName_inside {name : String} (valid : IsPolicyName name) :
    '/' ∉ (fileName name).toList ∧ '\\' ∉ (fileName name).toList ∧
      (fileName name).toList.head? ≠ some '.' := by
  obtain ⟨c, rest, shape, first, others⟩ := valid
  rw [toList_fileName, shape]
  -- Not as a quantifier: that would be decided by going through all characters.
  have ending : extension.all (IsNameCharacter ·) = true := by decide
  have clean : ∀ d ∈ c :: rest ++ extension, IsNameCharacter d := by
    intro d mem
    rw [List.mem_append, List.mem_cons] at mem
    rcases mem with (rfl | mem) | mem
    · exact .inl first
    · exact others d mem
    · exact of_decide_eq_true (List.all_eq_true.1 ending d mem)
  refine ⟨fun mem => ?_, fun mem => ?_, fun dot => ?_⟩
  · exact absurd (clean '/' mem) (by decide)
  · exact absurd (clean '\\' mem) (by decide)
  · cases dot
    exact absurd first (by decide)

/-! ## Sources -/

section Sources

variable {m : Type → Type} [Monad m] (catalog : Catalog m) {name : String}

/-- What comes of a name when the directory has told what it has under the file name. -/
def settle (name : String) : Except String (Option (List UInt8)) → Except PolicyError (List UInt8)
  | .error reason => .error (.directory (fileName name ++ ": " ++ reason))
  | .ok (some bytes) => .ok bytes
  | .ok none =>
      match catalog.builtin? name with
      | some builtin => .ok (bytesOf builtin.text)
      | none => .error (.unknownPolicy name)

theorem source_of_name [LawfulMonad m] (valid : IsPolicyName name) :
    catalog.source name = catalog.settle name <$> catalog.directory.read (fileName name) := by
  rw [source, validate, if_pos (isName_iff.2 valid), map_eq_pure_bind]
  apply bind_congr
  intro found
  rcases found with reason | _ | bytes
  · rfl
  · simp only [settle]
    cases catalog.builtin? name <;> rfl
  · rfl

theorem source_of_other (other : ¬IsPolicyName name) :
    catalog.source name = pure (.error (.invalidPolicyName name)) := by
  rw [source, validate, if_neg (mt isName_iff.1 other)]

theorem load_eq [LawfulMonad m] (suite : Suite) (name : String) :
    catalog.load suite name = (·.bind (Policy.parse suite)) <$> catalog.source name :=
  (map_eq_pure_bind ..).symm

/-- The names that there are with the given files and entries. -/
def names (files : List String) (builtins : List Builtin) : List String :=
  ascending (builtins.map (·.name) ++ files.filterMap nameOfFile?)

/-- What comes of a listing when the directory has told its files. -/
def gather : Except String (List String) → Except PolicyError (List String)
  | .error reason => .error (.directory reason)
  | .ok files => .ok (names files catalog.builtins)

theorem list_eq [LawfulMonad m] : catalog.list = catalog.gather <$> catalog.directory.list := by
  rw [list, map_eq_pure_bind]
  apply bind_congr
  rintro (reason | files) <;> rfl

end Sources

/-! ## A directory of files -/

section Files

/-- The catalog over a directory that holds just the given files. -/
def overFiles (files : List (String × List UInt8)) (builtins : List Builtin) : Catalog Id :=
  ⟨.ofFiles files, builtins⟩

/-- The text under a name: that of the file, or else that of the first entry in the table. -/
def text? (files : List (String × List UInt8)) (builtins : List Builtin) (name : String) :
    Option (List UInt8) :=
  (files.lookup (fileName name)).or
    ((builtins.find? fun b => b.name = name).map fun b => bytesOf b.text)

variable {files : List (String × List UInt8)} {builtins : List Builtin} {name : String}

theorem run_source (name : String) :
    ((overFiles files builtins).source name).run =
      if IsPolicyName name then
        match text? files builtins name with
        | some text => .ok text
        | none => .error (.unknownPolicy name)
      else .error (.invalidPolicyName name) := by
  by_cases valid : IsPolicyName name
  · have found : ((overFiles files builtins).source name).run =
        (overFiles files builtins).settle name (.ok (files.lookup (fileName name))) :=
      congrArg Id.run (source_of_name _ valid)
    rw [if_pos valid, found, text?]
    cases files.lookup (fileName name) with
    | some bytes => rfl
    | none =>
        rw [settle, builtin?, overFiles, Option.none_or]
        cases builtins.find? fun b => b.name = name <;> rfl
  · rw [if_neg valid, source_of_other _ valid]
    rfl

theorem source_ok_iff {text : List UInt8} :
    ((overFiles files builtins).source name).run = .ok text ↔
      IsPolicyName name ∧ text? files builtins name = some text := by
  rw [run_source]
  by_cases valid : IsPolicyName name
  · cases text? files builtins name <;> simp [valid]
  · simp [valid]

theorem text?_isSome_iff :
    (text? files builtins name).isSome = true ↔
      fileName name ∈ files.map (·.1) ∨ name ∈ builtins.map (·.name) := by
  simp [text?, List.lookup_isSome_iff]

theorem run_list :
    (overFiles files builtins).list.run = .ok (names (files.map (·.1)) builtins) :=
  rfl

/-- A name is listed just when it is a name that there is a text for. -/
theorem mem_names_iff (valid : ∀ b ∈ builtins, IsPolicyName b.name) :
    name ∈ names (files.map (·.1)) builtins ↔
      IsPolicyName name ∧ (text? files builtins name).isSome = true := by
  have fromTable (h : name ∈ builtins.map (·.name)) : IsPolicyName name := by
    obtain ⟨b, mem, rfl⟩ := List.mem_map.1 h
    exact valid b mem
  have fromFiles : name ∈ (files.map (·.1)).filterMap nameOfFile? ↔
      IsPolicyName name ∧ fileName name ∈ files.map (·.1) := by
    simp only [List.mem_filterMap, nameOfFile?_eq_some_iff]
    constructor
    · rintro ⟨file, mem, named, rfl⟩
      exact ⟨named, mem⟩
    · rintro ⟨named, mem⟩
      exact ⟨_, mem, named, rfl⟩
  rw [names, mem_ascending, List.mem_append, fromFiles, text?_isSome_iff]
  constructor
  · rintro (mem | ⟨named, mem⟩)
    · exact ⟨fromTable mem, .inr mem⟩
    · exact ⟨named, .inl mem⟩
  · rintro ⟨named, mem | mem⟩
    · exact .inr ⟨named, mem⟩
    · exact .inl mem

end Files

/-! ## What the directory is asked for -/

section Requests

/-- What a catalog can be asked for. -/
inductive Request
  | source (name : String)
  | load (name : String)
  | list

inductive Answer
  | text (result : Except PolicyError (List UInt8))
  | policy (result : Except PolicyError Policy)
  | names (result : Except PolicyError (List String))

/-- The files that the directory is asked for on a request, whatever it holds. -/
def Request.files : Request → List String
  | .source name | .load name => if IsPolicyName name then [fileName name] else []
  | .list => []

variable {m : Type → Type} [Monad m] (catalog : Catalog m) (suite : Suite)

def recorded : Catalog (StateT (List String) m) :=
  ⟨catalog.directory.recorded, catalog.builtins⟩

def answer : Request → m Answer
  | .source name => .text <$> catalog.source name
  | .load name => .policy <$> catalog.load suite name
  | .list => .names <$> catalog.list

def answers (requests : List Request) : m (List Answer) :=
  requests.mapM (catalog.answer suite)

variable [LawfulMonad m]

theorem source_recorded (name : String) (asked : List String) :
    (catalog.recorded.source name).run asked =
      (·, asked ++ (Request.source name).files) <$> catalog.source name := by
  rw [Request.files]
  by_cases named : IsPolicyName name
  · rw [source_of_name _ named, source_of_name _ named, if_pos named, StateT.run_map,
      Functor.map_map]
    exact Functor.map_map ..
  · rw [source_of_other _ named, source_of_other _ named, if_neg named, List.append_nil,
      StateT.run_pure, map_pure]

theorem list_recorded (asked : List String) :
    catalog.recorded.list.run asked = (·, asked) <$> catalog.list := by
  rw [list_eq, list_eq, StateT.run_map, Functor.map_map]
  exact Functor.map_map ..

/-- A request is answered as ever, and the record grows by the files of the request. -/
theorem answer_recorded (request : Request) (asked : List String) :
    (catalog.recorded.answer suite request).run asked =
      (·, asked ++ request.files) <$> catalog.answer suite request := by
  cases request with
  | source name =>
      simp only [answer, StateT.run_map, source_recorded, Functor.map_map]
  | load name =>
      simp only [answer, load_eq, StateT.run_map, source_recorded, Functor.map_map]
      rfl
  | list =>
      simp only [answer, StateT.run_map, list_recorded, Functor.map_map, Request.files,
        List.append_nil]

theorem answers_cons (request : Request) (rest : List Request) :
    catalog.answers suite (request :: rest) =
      catalog.answer suite request >>= fun first =>
        (first :: ·) <$> catalog.answers suite rest := by
  simp only [answers, List.mapM_cons, map_eq_pure_bind]

theorem answers_recorded (requests : List Request) (asked : List String) :
    (catalog.recorded.answers suite requests).run asked =
      (·, asked ++ requests.flatMap Request.files) <$> catalog.answers suite requests := by
  induction requests generalizing asked with
  | nil => simp [answers]
  | cons request rest ih =>
      rw [answers_cons, answers_cons]
      simp [answer_recorded, ih]

theorem Request.name_of_mem_files {request : Request} {file : String}
    (mem : file ∈ request.files) : ∃ name, IsPolicyName name ∧ file = fileName name := by
  cases request with
  | source name | load name =>
      have asked : IsPolicyName name ∧ file = fileName name := by simpa [files] using mem
      exact ⟨name, asked⟩
  | list => simp [files] at mem

/-- Whatever is asked of a catalog, and in whatever order, the directory is only ever asked for
files that are called after a name. -/
theorem asks_for_names (requests : List Request) :
    ∃ asked,
      (catalog.recorded.answers suite requests).run [] =
        (·, asked) <$> catalog.answers suite requests ∧
      ∀ file ∈ asked, ∃ name, IsPolicyName name ∧ file = fileName name := by
  refine ⟨_, answers_recorded catalog suite requests [], fun file mem => ?_⟩
  rw [List.nil_append, List.mem_flatMap] at mem
  obtain ⟨request, -, mem⟩ := mem
  exact request.name_of_mem_files mem

end Requests

/-- What a catalog lists, what it finds and what it asks its directory for. -/
theorem finds_what_it_lists (files : List (String × List UInt8)) (builtins : List Builtin)
    (valid : ∀ b ∈ builtins, IsPolicyName b.name) :
    ∃ listed,
      (overFiles files builtins).list.run = .ok listed ∧
      listed.Pairwise (· < ·) ∧
      (∀ name,
        (∃ text, ((overFiles files builtins).source name).run = .ok text) ↔ name ∈ listed) ∧
      (∀ name text, ((overFiles files builtins).source name).run = .ok text →
        files.lookup (name ++ ".policy") = some text ∨
        files.lookup (name ++ ".policy") = none ∧
          ∃ builtin, builtins.find? (·.name = name) = some builtin ∧
            bytesOf builtin.text = text) ∧
      (∀ name, name ∉ listed → ((overFiles files builtins).source name).run =
        .error (if IsPolicyName name then .unknownPolicy name else .invalidPolicyName name)) ∧
      ∀ {m : Type → Type} [Monad m] [LawfulMonad m] (directory : Directory m) (suite : Suite)
        (requests : List Request),
        ∃ asked,
          ((Catalog.mk directory builtins).recorded.answers suite requests).run [] =
            (·, asked) <$> (Catalog.mk directory builtins).answers suite requests ∧
          ∀ file ∈ asked, ∃ name, IsPolicyName name ∧ file = name ++ ".policy" ∧
            '/' ∉ file.toList ∧ '\\' ∉ file.toList ∧ file.toList.head? ≠ some '.' := by
  refine ⟨names (files.map (·.1)) builtins, run_list, ascending_pairwise _, fun name => ?_,
    fun name text ok => ?_, fun name other => ?_, fun directory suite requests => ?_⟩
  · simp only [source_ok_iff, mem_names_iff valid, exists_and_left, Option.isSome_iff_exists]
  · obtain ⟨-, found⟩ := source_ok_iff.1 ok
    rw [text?, fileName_eq, Option.or_eq_some_iff, Option.map_eq_some_iff] at found
    exact found
  · rw [mem_names_iff valid, not_and, Option.not_isSome_iff_eq_none] at other
    rw [run_source]
    by_cases named : IsPolicyName name
    · rw [if_pos named, if_pos named, other named]
    · rw [if_neg named, if_neg named]
  · obtain ⟨asked, run, named⟩ := asks_for_names ⟨directory, builtins⟩ suite requests
    refine ⟨asked, run, fun file mem => ?_⟩
    obtain ⟨name, plain, rfl⟩ := named file mem
    exact ⟨name, plain, fileName_eq name, fileName_inside plain⟩

/-- One file shadows an entry of the table, two stand for names that end in a dot and in the
extension, and no other stands for a name. -/
def mixedFiles : List (String × List UInt8) :=
  [("shared.policy", bytesOf "# local\nquorum none\n"), (".policy", []), (".hidden.policy", []),
    ("a..policy", [0xff]), ("x.policy.policy", []), ("é.policy", []), ("../secret.policy", []),
    ("notes.txt", []), ("notes.policy~", [])]

def mixedTable : List Builtin :=
  [⟨"shared", "quorum none\n"⟩, ⟨"alpha", "quorum none\n"⟩]

theorem finds_what_it_lists_mixed :
    (∀ b ∈ mixedTable, IsPolicyName b.name) ∧
      (∀ name, (∃ text, ((overFiles mixedFiles mixedTable).source name).run = .ok text) ↔
        name ∈ ["a.", "alpha", "shared", "x.policy"]) ∧
      ((overFiles mixedFiles mixedTable).source "shared").run =
        .ok (bytesOf "# local\nquorum none\n") ∧
      ((overFiles mixedFiles mixedTable).source "../secret").run =
        .error (.invalidPolicyName "../secret") ∧
      ((overFiles mixedFiles mixedTable).source "notes").run = .error (.unknownPolicy "notes") ∧
      ∀ suite, "../secret.policy" ∉
        (((overFiles mixedFiles mixedTable).recorded.answers suite
          [.source "../secret", .list, .load "a.", .source ""]).run []).run.2 := by
  have valid : ∀ b ∈ mixedTable, IsPolicyName b.name := by decide
  obtain ⟨listed, list, -, lookup, found, missing, asks⟩ :=
    finds_what_it_lists mixedFiles mixedTable valid
  have all : listed = ["a.", "alpha", "shared", "x.policy"] :=
    Except.ok.inj (list.symm.trans (by decide))
  subst all
  refine ⟨valid, lookup, ?_, missing "../secret" (by decide), missing "notes" (by decide),
    fun suite mem => ?_⟩
  · obtain ⟨text, ok⟩ := (lookup "shared").2 (by decide)
    rcases found "shared" text ok with file | ⟨none, -⟩
    · rw [ok]
      exact congrArg _ (Option.some.inj (file.symm.trans (by decide)))
    · exact absurd none (by decide)
  · obtain ⟨asked, run, inside⟩ := asks (Directory.ofFiles mixedFiles) suite
      [.source "../secret", .list, .load "a.", .source ""]
    have recorded := congrArg (fun r : Id _ => r.run.2) run
    obtain ⟨_, _, _, separator, -⟩ := inside _ (recorded ▸ mem)
    exact separator (by decide)

end Catalog

end Witnessed
