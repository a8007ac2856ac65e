import Witnessed.Proofs.Checkpoint.RoundTrip

/-!
What the signers of a checkpoint put in it. A log writes under the origin and the key id that
belong to its key. A witness adds a line that is well formed for every name, and that nobody takes
for the log's, because it has to hold the time of the cosignature as well.
-/

namespace Witnessed

variable {suite : Suite}

theorem length_toBigEndian (size n : Nat) : (toBigEndian size n).length = size := by
  induction size with
  | zero => rfl
  | succ size ih => exact congrArg (· + 1) ih

/-- The origin of a log can stand on its signature line. -/
theorem originOf_isName (log : KeyHash) : Note.IsName (originOf log).toList := by
  have plain : ∀ c ∈ "sigsum.org/v1/tree/".toList, c ≠ ' ' ∧ isControl c = false := by
    simp [isControl]
  have digits : ∀ n < 16, Hex.digit n ≠ ' ' ∧ isControl (Hex.digit n) = false := by decide
  rw [originOf_toList]
  constructor
  · simp
  · intro c hc
    rcases List.mem_append.1 hc with front | digit
    · exact plain c front
    · obtain ⟨n, small, rfl⟩ := Hex.mem_encode digit
      exact digits n small

/-! ## The log -/

namespace Checkpoint

theorem verify_ok_iff {c : Checkpoint} {key : PublicKey} {u : Unit} :
    c.verify suite key = .ok u ↔
      suite.keyId c.origin .ed25519 key = c.keyId ∧
        c.signed.verifyFor suite key c.origin = true := by
  rw [verify]
  by_cases id : suite.keyId c.origin .ed25519 key = c.keyId
  · by_cases signed : c.signed.verifyFor suite key c.origin = true
    · simp [id, signed]
    · simp [id, signed]
  · simp [id]

theorem verify_forLog_iff {signed : SignedTreeHead} {key : PublicKey} :
    (forLog suite signed key).verify suite key = .ok () ↔ signed.verify suite key = true := by
  rw [verify_ok_iff]
  constructor
  · intro accepted
    exact accepted.2
  · intro verifies
    exact ⟨rfl, verifies⟩

end Checkpoint

/-! ## The witnesses -/

/-- A cosignature, with the name and the key of the witness that its line is written for. -/
structure NamedCosignature where
  name : String
  key : PublicKey
  cosignature : Cosignature

namespace NamedCosignature

open Note

def line (suite : Suite) (w : NamedCosignature) : String :=
  w.cosignature.line suite w.name w.key

/-- What the line holds. -/
def entry (suite : Suite) (w : NamedCosignature) : Entry :=
  ⟨w.name.toList, (suite.keyId w.name .cosignature w.key).bytes ++
    toBigEndian 8 w.cosignature.time.toNat ++ w.cosignature.signature.bytes⟩

theorem toList_line (w : NamedCosignature) :
    (w.line suite).toList = (w.entry suite).line ++ ['\n'] :=
  String.toList_ofList

theorem length_blob (w : NamedCosignature) : (w.entry suite).blob.length = 76 := by
  have id := (suite.keyId w.name .cosignature w.key).length_bytes
  have signature := w.cosignature.signature.length_bytes
  rw [entry, List.length_append, List.length_append, length_toBigEndian, id, signature]
  rfl

theorem entry_wellFormed {w : NamedCosignature} (name : IsName w.name.toList) :
    (w.entry suite).WellFormed := by
  refine ⟨name, ?_⟩
  intro none
  have length := @length_blob suite w
  rw [none] at length
  contradiction

/-- Not even under the name of the log is the line the log's. -/
theorem held_entry (w : NamedCosignature) (origin : List Char) :
    (w.entry suite).held origin = none := by
  rw [Option.eq_none_iff_forall_ne_some]
  intro held own
  have size := length_log origin held
  rw [← held_eq_some_iff.1 own, length_blob] at size
  contradiction

/-- Lines of witnesses after a text are some more entries in it. -/
theorem text_append_lines (c : Checkpoint) (entries : List Entry) (ws : List NamedCosignature) :
    (Written.of c entries).text ++ String.join (ws.map (·.line suite)) =
      (Written.of c (entries ++ ws.map (·.entry suite))).text := by
  have lines : (ws.map (·.line suite)).flatMap String.toList =
      unlines ((ws.map (·.entry suite)).map (·.line)) := by
    rw [unlines, List.flatMap_map, List.map_map, List.flatMap_map]
    exact List.flatMap_congr fun w _ => w.toList_line
  rw [← String.toList_inj, String.toList_append, String.toList_join, lines, text_of, text_of,
    String.toList_ofList, String.toList_ofList, ← unlines_append, List.map_append,
    List.append_assoc, List.cons_append]

end NamedCosignature

open Note in
/-- A checkpoint is read as what was written, whatever lines the witnesses have added to it, as long
as these are no more than fifteen. -/
theorem Checkpoint.parse_cosigned {c : Checkpoint} {ws : List NamedCosignature}
    (name : IsName c.origin.toList) (names : ∀ w ∈ ws, IsName w.name.toList)
    (few : ws.length ≤ 15) :
    parse (c.render ++ String.join (ws.map (·.line suite))) = .ok c := by
  rw [render_eq, NamedCosignature.text_append_lines, List.singleton_append]
  have mute : (ws.map (·.entry suite)).filterMap (·.held c.origin.toList) = [] := by
    rw [List.filterMap_eq_nil_iff, List.forall_mem_map]
    intro w _
    exact w.held_entry c.origin.toList
  have own : (Entry.of c).held c.origin.toList = some (c.keyId, c.signed.signature) :=
    held_eq_some_iff.2 rfl
  apply parse_text_iff.2
  refine ⟨_, rfl, name, ?_, ?_, ?_⟩
  · rw [List.forall_mem_cons, List.forall_mem_map]
    exact ⟨wellFormed_of name, fun w mem => w.entry_wellFormed (names w mem)⟩
  · rw [List.length_cons, List.length_map]
    omega
  · rw [List.filterMap_cons_some own, mute]

end Witnessed
