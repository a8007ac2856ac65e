import Witnessed.Proofs.Text.Forms
import Witnessed.Proofs.TreeHead.Signed

/-!
Which line the readers of `key=value` lines blame. All lines before it can stand where they are,
and the line itself can follow them in no text that is accepted, or it is missing. A cosignature
line that is fine by itself is refused when its key hash has been on an earlier line.
-/

namespace Witnessed

open Fields

namespace Fields

variable {lines rest : List (List Char)} {position : Nat} {e : TreeHeadError}

/-! ## The first three lines -/

theorem onLine_error {α : Type} {result : Except Fault α}
    (failed : onLine position result = .error e) :
    ∃ reason, e = .malformedLine position reason := by
  cases result with
  | ok a => contradiction
  | error fault =>
      cases failed
      exact ⟨fault.reason, rfl⟩

theorem takeLine_error {key : Key} (failed : takeLine position key lines = .error e) :
    ∃ reason, e = .malformedLine position reason := by
  cases lines with
  | nil =>
      cases failed
      exact ⟨(Fault.absent key).reason, rfl⟩
  | cons text rest =>
      cases read : valueOf key text with
      | ok value =>
          rw [takeLine, read] at failed
          contradiction
      | error fault =>
          rw [takeLine, read] at failed
          cases failed
          exact ⟨fault.reason, rfl⟩

/-- The value on the line of a key at the front, and the lines after it. -/
def takeField {α : Type} (position : Nat) (key : Key) (read : List Char → Except Fault α)
    (lines : List (List Char)) : Except TreeHeadError (α × List (List Char)) := do
  let (text, rest) ← takeLine position key lines
  return (← onLine position (read text), rest)

/-- The three lines are three fields, one after the other. -/
theorem takeSigned_eq (lines : List (List Char)) :
    takeSigned lines = do
      let (size, lines) ← takeField 1 .size (fun text => number (.badSize text) text) lines
      let (root, lines) ← takeField 2 .root (octets .hash) lines
      let (signature, lines) ← takeField 3 .signature (octets .signature) lines
      return (⟨⟨size, root⟩, signature⟩, lines) := by
  simp only [takeSigned, takeField, bind_assoc, pure_bind]

section Field

variable {α : Type} {key : Key} {read : List Char → Except Fault α} {write : α → List Char} {a : α}

theorem takeField_ok_iff (law : ∀ text a, read text = .ok a ↔ text = write a) :
    takeField position key read lines = .ok (a, rest) ↔ lines = line key (write a) :: rest := by
  simp only [takeField, bind_ok_iff, Prod.exists, takeLine_ok_iff, onLine_ok_iff, law, pure_ok_iff,
    Prod.mk.injEq]
  constructor
  · rintro ⟨_, _, rfl, _, rfl, rfl, rfl⟩
    rfl
  · rintro rfl
    exact ⟨_, _, rfl, _, rfl, rfl, rfl⟩

/-- A field that is not read is put down to its line, and no line of the key stands there. -/
theorem takeField_error (law : ∀ text a, read text = .ok a ↔ text = write a)
    (failed : takeField position key read lines = .error e) :
    (∃ reason, e = .malformedLine position reason) ∧
      ∀ a, lines.head? ≠ some (line key (write a)) := by
  constructor
  · simp only [takeField, bind_error_iff, Prod.exists] at failed
    rcases failed with absent | ⟨text, rest, _, unread | ⟨a, _, made⟩⟩
    · exact takeLine_error absent
    · exact onLine_error unread
    · contradiction
  · intro a front
    obtain ⟨rest, rfl⟩ := List.head?_eq_some_iff.1 front
    rw [(takeField_ok_iff law).2 rfl] at failed
    contradiction

end Field

/-- The place, counted from zero, of the first of the three lines that is not as it has to be: up to
there the lines are those of a signed tree head, and the line there is that of none. -/
structure HeadFault (lines : List (List Char)) (i : Nat) : Prop where
  early : i < 3
  reached : i ≤ lines.length
  front : ∃ signed, lines.take i <+: signedLines signed
  stuck : ∀ signed, lines[i]? ≠ (signedLines signed)[i]?

/-- The fault is behind the lines that are as they have to be. -/
theorem headFault_of_front {front : List (List Char)} {signed : SignedTreeHead}
    (early : front.length < 3) (begins : front <+: signedLines signed)
    (other : ∀ signed, lines.head? ≠ (signedLines signed)[front.length]?) :
    HeadFault (front ++ lines) front.length := by
  constructor
  · exact early
  · rw [List.length_append]
    exact Nat.le_add_right _ _
  · rw [List.take_left' rfl]
    exact ⟨signed, begins⟩
  · intro signed
    rw [List.getElem?_append_right (Nat.le_refl _), Nat.sub_self, ← List.head?_eq_getElem?]
    exact other signed

/-- Lines that are not read as a signed tree head are put down to the first fault among them. -/
theorem takeSigned_error (failed : takeSigned lines = .error e) :
    ∃ i, HeadFault lines i ∧ ∃ reason, e = .malformedLine (i + 1) reason := by
  rw [takeSigned_eq] at failed
  simp only [bind_error_iff, Prod.exists] at failed
  rcases failed with first | ⟨size, lines', taken, second | ⟨root, lines'', taken', third |
    ⟨_, _, _, made⟩⟩⟩
  · obtain ⟨blamed, other⟩ := takeField_error (fun _ _ => number_ok_iff) first
    refine ⟨0, @headFault_of_front _ [] ⟨⟨0, .fill .hash 0⟩, .fill .signature 0⟩ ?_ ?_ ?_, blamed⟩
    · decide
    · exact List.nil_prefix
    · intro signed
      exact other signed.head.size
  · obtain rfl := (takeField_ok_iff fun _ _ => number_ok_iff).1 taken
    obtain ⟨blamed, other⟩ := takeField_error (fun _ _ => octets_ok_iff) second
    refine ⟨1, @headFault_of_front _ [_] ⟨⟨size, .fill .hash 0⟩, .fill .signature 0⟩ ?_ ?_ ?_,
      blamed⟩
    · simp
    · exact ⟨_, rfl⟩
    · intro signed
      exact other signed.head.root
  · obtain rfl := (takeField_ok_iff fun _ _ => number_ok_iff).1 taken
    obtain rfl := (takeField_ok_iff fun _ _ => octets_ok_iff).1 taken'
    obtain ⟨blamed, other⟩ := takeField_error (fun _ _ => octets_ok_iff) third
    refine ⟨2, @headFault_of_front _ [_, _] ⟨⟨size, root⟩, .fill .signature 0⟩ ?_ ?_ ?_, blamed⟩
    · simp
    · exact ⟨_, rfl⟩
    · intro signed
      exact other signed.signature
  · contradiction

/-! ## Cosignature lines -/

/-- Cosignature lines are refused for the first of them that is malformed or cannot be added. -/
theorem addLines_error {head : CosignedTreeHead}
    (failed : addLines position head lines = .error e) :
    ∃ (cs : List Cosignature) (head' : CosignedTreeHead) (text : List Char)
      (rest : List (List Char)),
      lines = cs.map cosignatureLine ++ text :: rest ∧ head.addAll cs = .ok head' ∧
      (((∃ reason, e = .malformedLine (position + cs.length) reason) ∧
          ∀ c, text ≠ cosignatureLine c) ∨
        ∃ c, text = cosignatureLine c ∧ head'.add c = .error e) := by
  induction lines generalizing position head with
  | nil => contradiction
  | cons text rest ih =>
      simp only [addLines, bind_error_iff, onLine_ok_iff, cosignatureOfLine_ok_iff] at failed
      rcases failed with unread | ⟨c, rfl, refused | ⟨next, added, later⟩⟩
      · refine ⟨[], head, text, rest, rfl, rfl, .inl ⟨onLine_error unread, ?_⟩⟩
        rintro c rfl
        rw [onLine_ok_iff.2 (cosignatureOfLine_ok_iff.2 rfl)] at unread
        contradiction
      · exact ⟨[], head, _, rest, rfl, rfl, .inr ⟨c, rfl, refused⟩⟩
      · obtain ⟨cs, head', bad, after, rfl, others, cause⟩ := ih later
        refine ⟨c :: cs, head', bad, after, rfl, bind_ok_iff.2 ⟨next, added, others⟩, ?_⟩
        rwa [List.length_cons, ← Nat.add_assoc, Nat.add_right_comm]

/-! ## Texts -/

/-- Every line is ended, and there is one. -/
def Ended (text : String) : Prop :=
  text.toList.getLast? = some '\n'

instance (text : String) : Decidable (Ended text) :=
  inferInstanceAs (Decidable (text.toList.getLast? = some '\n'))

variable {text : String} {signed : SignedTreeHead} {cs : List Cosignature} {n i : Nat}
  {Accepts : String → Prop}

theorem split_of_ended (ended : Ended text) : split text = .ok (linesIn text) := by
  obtain ⟨some, whole⟩ := asText_linesIn ended
  exact split_ok_iff.2 ⟨some, whole.symm, linesIn_clean text⟩

theorem split_error (failed : split text = .error e) : ∃ n reason, e = .malformedLine n reason := by
  unfold split at failed
  cases read : linesOf text.toList with
  | ok lines =>
      rw [read] at failed
      contradiction
  | error n =>
      rw [read] at failed
      exact ⟨n, onLine_error failed⟩

theorem linesIn_of_split (read : split text = .ok lines) : linesIn text = lines := by
  obtain ⟨_, rfl, clean⟩ := split_ok_iff.1 read
  exact linesIn_asText clean

/-- The line with the number, counted from one, is the first one at fault. What stands before it
begins an accepted text, and with the line itself nothing does; or there is no such line, and the
text ends right before it. -/
structure FirstAtFault (Accepts : String → Prop) (text : String) (n : Nat) : Prop where
  numbered : 1 ≤ n
  before : ∃ other, Accepts other ∧ (firstLines (n - 1) text).toList <+: other.toList
  there : (n ≤ (linesIn text).length ∧
      ∀ other, Accepts other → ¬(firstLines n text).toList <+: other.toList) ∨
    (linesIn text).length = n - 1

theorem firstLines_prefix_iff :
    (firstLines n text).toList <+: (textOf signed cs).toList ↔
      (linesIn text).take n <+: signedLines signed ++ cs.map cosignatureLine := by
  rw [firstLines, asText, textOf, String.toList_ofList, String.toList_ofList]
  apply unlines_prefix_iff
  · intro line mem
    exact linesIn_clean text line (List.mem_of_mem_take mem)
  · exact lines_clean signed cs

theorem getElem?_of_take_prefix {α : Type} {as bs : List α} {a : α} (here : as[i]? = some a)
    (front : as.take (i + 1) <+: bs) : bs[i]? = some a := by
  obtain ⟨rest, rfl⟩ := front
  have taken : (as.take (i + 1))[i]? = some a := by
    rw [List.getElem?_take_of_lt (Nat.lt_succ_self i), here]
  obtain ⟨bound, _⟩ := List.getElem?_eq_some_iff.1 taken
  rw [List.getElem?_append_left bound, taken]

/-- A fault among the first three lines is the first one for either reader, for all texts that they
accept begin with a signed tree head, and the text of each one is accepted. -/
theorem HeadFault.firstAtFault (fault : HeadFault (linesIn text) i)
    (heads : ∀ signed, Accepts (textOf signed []))
    (texts : ∀ other, Accepts other → ∃ signed cs, other = textOf signed cs) :
    FirstAtFault Accepts text (i + 1) := by
  constructor
  · exact Nat.le_add_left 1 i
  · obtain ⟨signed, front⟩ := fault.front
    refine ⟨textOf signed [], heads signed, firstLines_prefix_iff.2 ?_⟩
    exact front.trans (List.prefix_append _ _)
  · by_cases there : i < (linesIn text).length
    · refine .inl ⟨there, ?_⟩
      intro other accepted begins
      obtain ⟨signed, cs, rfl⟩ := texts other accepted
      have early : i < (signedLines signed).length := fault.early
      have same := getElem?_of_take_prefix (List.getElem?_eq_getElem there)
        (firstLines_prefix_iff.1 begins)
      rw [List.getElem?_append_left early] at same
      exact fault.stuck signed (by rw [same, List.getElem?_eq_getElem there])
    · have reached := fault.reached
      exact .inr (by omega)

/-- What stands behind the three lines and some cosignatures, and what stands before it. -/
theorem take_getElem?_lines {bad : List Char}
    (split : lines = signedLines signed ++ cs.map cosignatureLine ++ bad :: rest) :
    lines.take (3 + cs.length) = signedLines signed ++ cs.map cosignatureLine ∧
      lines[3 + cs.length]? = some bad := by
  have front : (signedLines signed ++ cs.map cosignatureLine).length = 3 + cs.length := by
    rw [List.length_append, List.length_map]
    rfl
  constructor
  · rw [split, List.take_left' front]
  · rw [split, ← front, List.getElem?_append_right (Nat.le_refl _), Nat.sub_self]
    rfl

/-- A later line is the first one at fault when the text before it is accepted and no accepted text
has it in its place. -/
theorem firstAtFault_of_later {bad : List Char}
    (split : linesIn text = signedLines signed ++ cs.map cosignatureLine ++ bad :: rest)
    (before : Accepts (textOf signed cs))
    (stuck : ∀ other, Accepts other → ∃ signed' cs', other = textOf signed' cs' ∧
      (cs'.map cosignatureLine)[cs.length]? ≠ some bad) :
    FirstAtFault Accepts text (4 + cs.length) := by
  obtain ⟨front, here⟩ := take_getElem?_lines split
  constructor
  · omega
  · have place : 4 + cs.length - 1 = 3 + cs.length := by omega
    have taken : (linesIn text).take (4 + cs.length - 1) =
        signedLines signed ++ cs.map cosignatureLine := by
      rw [place, front]
    exact ⟨textOf signed cs, before, firstLines_prefix_iff.2 (taken ▸ List.prefix_rfl)⟩
  · obtain ⟨bound, _⟩ := List.getElem?_eq_some_iff.1 here
    refine .inl ⟨by omega, ?_⟩
    intro other accepted begins
    obtain ⟨signed', cs', rfl, free⟩ := stuck other accepted
    have begins : (linesIn text).take (3 + cs.length + 1) <+:
        signedLines signed' ++ cs'.map cosignatureLine := by
      rw [Nat.add_right_comm]
      exact firstLines_prefix_iff.1 begins
    have there := getElem?_of_take_prefix here begins
    rw [List.getElem?_append_right (Nat.le_add_right 3 _)] at there
    exact free (by simpa [signedLines] using there)

/-! ## Key hashes that come again -/

/-- The line is one for a cosignature of the witness, as far as the key hash. -/
def Bears (text : List Char) (key : KeyHash) : Prop :=
  ∃ rest, text = line .cosignature (Hex.encode key.bytes ++ ' ' :: rest)

/-- The line at the place, counted from zero, bears a key hash that an earlier line bears, and it is
the first such line. -/
structure FirstRepeat (lines : List (List Char)) (i : Nat) (key : KeyHash) : Prop where
  bears : ∃ text, lines[i]? = some text ∧ Bears text key
  again : ∃ earlier ∈ lines.take i, Bears earlier key
  first : (lines.take i).Pairwise fun a b => ∀ other, Bears a other → ¬Bears b other

theorem bears_cosignatureLine_iff {c : Cosignature} {key : KeyHash} :
    Bears (cosignatureLine c) key ↔ c.witness = key := by
  constructor
  · rintro ⟨rest, same⟩
    rw [cosignatureLine, line_inj, List.append_assoc] at same
    have length : (Hex.encode c.witness.bytes).length = (Hex.encode key.bytes).length := by
      rw [Hex.length_encode, Hex.length_encode, c.witness.length_bytes, key.length_bytes]
    exact Octets.bytes_inj.1 (Hex.encode_inj.1 (List.append_inj_left same length))
  · rintro rfl
    refine ⟨Decimal.render c.time.toNat ++ ' ' :: Hex.encode c.signature.bytes, ?_⟩
    rw [cosignatureLine, List.append_assoc, List.cons_append]

theorem not_bears_of_mem_signedLines {text : List Char} (mem : text ∈ signedLines signed)
    (key : KeyHash) : ¬Bears text key := by
  rintro ⟨rest, rfl⟩
  simp [signedLines, line, Key.name] at mem

theorem firstRepeat_of_known {c : Cosignature}
    (split : lines = signedLines signed ++ cs.map cosignatureLine ++ cosignatureLine c :: rest)
    (distinct : (cs.map (·.witness)).Nodup) (known : c.witness ∈ cs.map (·.witness)) :
    FirstRepeat lines (3 + cs.length) c.witness := by
  obtain ⟨before, here⟩ := take_getElem?_lines split
  constructor
  · exact ⟨cosignatureLine c, here, bears_cosignatureLine_iff.2 rfl⟩
  · obtain ⟨d, mem, same⟩ := List.mem_map.1 known
    refine ⟨cosignatureLine d, ?_, bears_cosignatureLine_iff.2 same⟩
    rw [before]
    exact List.mem_append_right _ (List.mem_map_of_mem mem)
  · rw [before]
    refine List.pairwise_append.2 ⟨?_, ?_, ?_⟩
    · apply List.pairwise_of_forall_mem_list
      intro a ha b _ other bears
      exact absurd bears (not_bears_of_mem_signedLines ha other)
    · refine List.pairwise_map.2 ((List.pairwise_map.1 distinct).imp ?_)
      intro a b differ other ha hb
      exact differ ((bears_cosignatureLine_iff.1 ha).trans (bears_cosignatureLine_iff.1 hb).symm)
    · intro a ha b _ other bears
      exact absurd bears (not_bears_of_mem_signedLines ha other)

end Fields

/-! ## Both readers -/

theorem SignedTreeHead.firstAtFault {text : String} {n : Nat} {reason : String}
    (ended : Ended text) (failed : parse text = .error (.malformedLine n reason)) :
    FirstAtFault (fun other => ∃ signed, parse other = .ok signed) text n := by
  have texts : ∀ other, (∃ signed, parse other = .ok signed) →
      ∃ signed, other = textOf signed [] := by
    rintro other ⟨signed, read⟩
    exact ⟨signed, (parse_ok_iff.1 read).trans (render_eq signed)⟩
  have heads : ∀ signed, ∃ signed', parse (textOf signed []) = .ok signed' := by
    intro signed
    exact ⟨signed, parse_ok_iff.2 (render_eq signed).symm⟩
  rcases parse_error_iff.1 failed with
    unended | ⟨lines, split, fault | ⟨signed, surplus, rest, taken, blamed⟩⟩
  · rw [split_of_ended ended] at unended
    contradiction
  · obtain ⟨i, place, _, blamed⟩ := takeSigned_error fault
    cases blamed
    rw [← linesIn_of_split split] at place
    apply place.firstAtFault heads
    intro other accepted
    obtain ⟨signed, rfl⟩ := texts other accepted
    exact ⟨signed, [], rfl⟩
  · cases blamed
    have lines :
        linesIn text = signedLines signed ++ [].map cosignatureLine ++ surplus :: rest := by
      rw [linesIn_of_split split, takeSigned_ok_iff.1 taken, List.map_nil, List.append_nil]
    apply firstAtFault_of_later lines (heads signed)
    intro other accepted
    obtain ⟨signed', rfl⟩ := texts other accepted
    exact ⟨signed', [], rfl, by simp⟩

namespace CosignedTreeHead

variable {text : String} {lines : List (List Char)} {e : TreeHeadError}

/-- Where a text of lines fails: among the first three, or at a later one behind lines that are
accepted, which is malformed or bears a key hash that comes again. -/
theorem fault_cases (read : split text = .ok lines) (failed : parse text = .error e) :
    (∃ i, HeadFault lines i ∧ ∃ reason, e = .malformedLine (i + 1) reason) ∨
    ∃ (head : CosignedTreeHead) (cs : List Cosignature) (bad : List Char)
      (rest : List (List Char)),
      lines = signedLines head.signed ++ cs.map cosignatureLine ++ bad :: rest ∧
      ofList head.signed cs = .ok head ∧
      (((∃ reason, e = .malformedLine (4 + cs.length) reason) ∧ ∀ c, bad ≠ cosignatureLine c) ∨
        ∃ c, bad = cosignatureLine c ∧ head.add c = .error e) := by
  rcases parse_error_iff.1 failed with
    unended | ⟨lines', read', fault | ⟨signed, later, taken, fault⟩⟩
  · rw [read] at unended
    contradiction
  · obtain rfl : lines = lines' := Except.ok.inj (read.symm.trans read')
    exact .inl (takeSigned_error fault)
  · obtain rfl : lines = lines' := Except.ok.inj (read.symm.trans read')
    obtain ⟨cs, head, bad, rest, rfl, collected, cause⟩ := addLines_error fault
    obtain rfl : head.signed = signed := ofList_signed collected
    refine .inr ⟨head, cs, bad, rest, ?_, collected, cause⟩
    rw [takeSigned_ok_iff.1 taken, List.append_assoc]

theorem firstAtFault {n : Nat} {reason : String} (ended : Ended text)
    (failed : parse text = .error (.malformedLine n reason)) :
    FirstAtFault (fun other => ∃ head, parse other = .ok head) text n := by
  rcases fault_cases (split_of_ended ended) failed with ⟨i, place, _, blamed⟩ |
    ⟨head, cs, bad, rest, lines, collected, ⟨⟨_, blamed⟩, other⟩ | ⟨c, _, refused⟩⟩
  · cases blamed
    apply place.firstAtFault
    · intro signed
      exact ⟨_, parse_textOf rfl⟩
    · rintro other ⟨head, read⟩
      obtain ⟨cs, rfl, _⟩ := parse_ok_iff.1 read
      exact ⟨head.signed, cs, rfl⟩
  · cases blamed
    apply firstAtFault_of_later lines ⟨head, parse_textOf collected⟩
    rintro text' ⟨head', read⟩
    obtain ⟨cs', rfl, _⟩ := parse_ok_iff.1 read
    refine ⟨head'.signed, cs', rfl, ?_⟩
    intro there
    obtain ⟨c, _, same⟩ := List.mem_map.1 (List.mem_of_getElem? there)
    exact other c same.symm
  · obtain ⟨_, wrong⟩ := add_error_iff.1 refused
    contradiction

theorem firstRepeat {key : KeyHash} (failed : parse text = .error (.duplicateCosignature key)) :
    ∃ i, FirstRepeat (linesIn text) i key ∧ ∃ head, parse (firstLines i text) = .ok head := by
  cases read : split text with
  | error e =>
      obtain ⟨_, _, rfl⟩ := split_error read
      rw [parse_error_iff.2 (.inl read)] at failed
      cases failed
  | ok lines =>
      rcases fault_cases read failed with ⟨_, _, _, wrong⟩ |
        ⟨head, cs, bad, rest, split, collected, ⟨⟨_, wrong⟩, _⟩ | ⟨c, rfl, refused⟩⟩
      · contradiction
      · contradiction
      · obtain ⟨known, same⟩ := add_error_iff.1 refused
        obtain rfl := TreeHeadError.duplicateCosignature.inj same
        have distinct := exists_ofList_iff.1 ⟨head, collected⟩
        rw [linesIn_of_split read]
        refine ⟨3 + cs.length, firstRepeat_of_known split distinct ?_, head, ?_⟩
        · exact (ofList_contains_iff collected).1 known
        · rw [firstLines, linesIn_of_split read, (take_getElem?_lines split).1]
          exact parse_textOf collected

end CosignedTreeHead

/-- Of a text whose lines are all ended the readers name the first line at fault, and a key hash
that is found to come again is the first that does. -/
theorem Fields.names_first_fault :
    (∀ text n reason, Ended text →
      SignedTreeHead.parse text = .error (.malformedLine n reason) →
      FirstAtFault (fun other => ∃ signed, SignedTreeHead.parse other = .ok signed) text n) ∧
    (∀ text n reason, Ended text →
      CosignedTreeHead.parse text = .error (.malformedLine n reason) →
      FirstAtFault (fun other => ∃ head, CosignedTreeHead.parse other = .ok head) text n) ∧
    ∀ text key, CosignedTreeHead.parse text = .error (.duplicateCosignature key) →
      ∃ i, FirstRepeat (linesIn text) i key ∧
        ∃ head, CosignedTreeHead.parse (firstLines i text) = .ok head := by
  refine ⟨?_, ?_, ?_⟩
  · intro text n reason ended failed
    exact SignedTreeHead.firstAtFault ended failed
  · intro text n reason ended failed
    exact CosignedTreeHead.firstAtFault ended failed
  · intro text key failed
    exact CosignedTreeHead.firstRepeat failed

/-- A text whose second line is in capital letters. -/
def Fields.capital : String := "size=7\nroot_hash=AA\n"

theorem Fields.names_first_fault_again :
    let again := textOf CosignedTreeHead.blank
      (CosignedTreeHead.unsorted ++ CosignedTreeHead.unsorted)
    (Ended capital ∧
      SignedTreeHead.parse capital = .error (.malformedLine 2 "hex must be lowercase") ∧
      FirstAtFault (fun other => ∃ signed, SignedTreeHead.parse other = .ok signed) capital 2) ∧
    (CosignedTreeHead.parse capital = .error (.malformedLine 2 "hex must be lowercase") ∧
      FirstAtFault (fun other => ∃ head, CosignedTreeHead.parse other = .ok head) capital 2) ∧
    CosignedTreeHead.parse again = .error (.duplicateCosignature (.fill .keyHash 2)) ∧
      ∃ i, FirstRepeat (linesIn again) i (.fill .keyHash 2) ∧
        ∃ head, CosignedTreeHead.parse (firstLines i again) = .ok head := by
  intro again
  obtain ⟨signed, cosigned, repeated⟩ := names_first_fault
  have ended : Ended capital := by decide
  have first : SignedTreeHead.parse capital =
      .error (.malformedLine 2 "hex must be lowercase") := by decide +kernel
  have second : CosignedTreeHead.parse capital =
      .error (.malformedLine 2 "hex must be lowercase") := by decide +kernel
  have twice : CosignedTreeHead.parse again = .error (.duplicateCosignature (.fill .keyHash 2)) :=
    CosignedTreeHead.parse_textOf_eq ..
  exact ⟨⟨ended, first, signed _ _ _ ended first⟩, ⟨second, cosigned _ _ _ ended second⟩, twice,
    repeated _ _ twice⟩

end Witnessed
