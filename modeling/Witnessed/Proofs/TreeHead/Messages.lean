import Witnessed.Proofs.Text.Base64
import Witnessed.Proofs.Text.Forms
import Witnessed.Proofs.Text.Lines
import Witnessed.TreeHead

/-!
What is signed. A log signs three lines and a witness five, and each line but the fixed one is
known by its text, so a message tells who signed it in which role and everything that it is about.
-/

namespace Witnessed

/-- In which role a message is signed: as the log, or as a witness at a time. -/
inductive Role
  | log
  | witness (time : UInt64)
  deriving DecidableEq

variable {head head' : TreeHead} {role role' : Role} {log log' : KeyHash}

/-! ## Lines -/

/-- The lines of a tree head under an origin. -/
def TreeHead.lines (head : TreeHead) (origin : List Char) : List (List Char) :=
  [origin, Decimal.render head.size.toNat, Base64.encode head.root.bytes]

theorem body_eq_unlines (head : TreeHead) (origin : String) :
    head.body origin = unlines (head.lines origin.toList) := by
  simp [TreeHead.body, TreeHead.lines, unlines]

theorem head_lines_clean {origin : List Char} (plain : '\n' ∉ origin) (head : TreeHead) :
    ∀ line ∈ head.lines origin, '\n' ∉ line := by
  simp only [TreeHead.lines, List.forall_mem_cons]
  exact ⟨plain, Decimal.not_mem_render rfl _, Base64.not_mem_encode (.inr rfl) _, nofun⟩

theorem head_lines_inj {origin origin' : List Char} :
    head.lines origin = head'.lines origin' ↔ head = head' ∧ origin = origin' := by
  obtain ⟨size, root⟩ := head
  obtain ⟨size', root'⟩ := head'
  simp only [TreeHead.lines, List.cons.injEq, Decimal.render_inj, UInt64.toNat_inj,
    Base64.encode_inj, Octets.bytes_inj, TreeHead.mk.injEq, and_true]
  exact and_comm

/-! ## Messages -/

variable {origin origin' : String}

def Role.message (role : Role) (head : TreeHead) (origin : String) : List Char :=
  match role with
  | .log => head.body origin
  | .witness time => head.cosigned origin time

/-- The lines that only a witness signs. -/
def Role.opening : Role → List (List Char)
  | .log => []
  | .witness time => ["cosignature/v1".toList, "time ".toList ++ Decimal.render time.toNat]

theorem cosigned_eq_unlines (head : TreeHead) (origin : String) (time : UInt64) :
    head.cosigned origin time =
      unlines ((Role.witness time).opening ++ head.lines origin.toList) := by
  have whole : head.cosigned origin time = "cosignature/v1\ntime ".toList ++
      Decimal.render time.toNat ++ '\n' :: head.body origin := rfl
  rw [whole, body_eq_unlines, unlines_append]
  simp [Role.opening, unlines]

theorem message_eq_unlines (role : Role) (head : TreeHead) (origin : String) :
    role.message head origin = unlines (role.opening ++ head.lines origin.toList) := by
  cases role with
  | log => exact body_eq_unlines head origin
  | witness time => exact cosigned_eq_unlines head origin time

theorem message_lines_clean (role : Role) (head : TreeHead) (plain : '\n' ∉ origin.toList) :
    ∀ line ∈ role.opening ++ head.lines origin.toList, '\n' ∉ line := by
  refine List.forall_mem_append.2 ⟨?_, head_lines_clean plain head⟩
  cases role with
  | log => exact nofun
  | witness time =>
      have digits := @Decimal.not_mem_render '\n' rfl time.toNat
      simp only [Role.opening, List.forall_mem_cons, List.mem_append, not_or]
      exact ⟨by decide, ⟨by decide, digits⟩, nofun⟩

theorem opening_inj : role.opening = role'.opening ↔ role = role' := by
  cases role <;> cases role' <;>
    simp [Role.opening, Decimal.render_inj, UInt64.toNat_inj]

/-- The number of lines tells the roles apart, and then the lines tell everything else. -/
theorem message_inj (plain : '\n' ∉ origin.toList) (plain' : '\n' ∉ origin'.toList) :
    role.message head origin = role'.message head' origin' ↔
      role = role' ∧ head = head' ∧ origin = origin' := by
  constructor
  · intro same
    rw [message_eq_unlines, message_eq_unlines] at same
    have lines := unlines_inj (message_lines_clean role head plain)
      (message_lines_clean role' head' plain') same
    obtain ⟨opening, rest⟩ := List.append_inj' lines rfl
    obtain ⟨heads, origins⟩ := head_lines_inj.1 rest
    exact ⟨opening_inj.1 opening, heads, String.toList_inj.1 origins⟩
  · rintro ⟨rfl, rfl, rfl⟩
    rfl

theorem eq_of_body_eq (plain : '\n' ∉ origin.toList) (plain' : '\n' ∉ origin'.toList)
    (same : head.body origin = head'.body origin') : origin = origin' ∧ head = head' := by
  have log : Role.log.message head origin = Role.log.message head' origin' := same
  obtain ⟨_, heads, origins⟩ := (message_inj plain plain').1 log
  exact ⟨origins, heads⟩

theorem eq_of_cosigned_eq {time time' : UInt64} (plain : '\n' ∉ origin.toList)
    (plain' : '\n' ∉ origin'.toList)
    (same : head.cosigned origin time = head'.cosigned origin' time') :
    origin = origin' ∧ head = head' ∧ time = time' := by
  have witness : (Role.witness time).message head origin =
      (Role.witness time').message head' origin' := same
  obtain ⟨times, heads, origins⟩ := (message_inj plain plain').1 witness
  exact ⟨origins, heads, Role.witness.inj times⟩

theorem body_ne_cosigned {time : UInt64} (plain : '\n' ∉ origin.toList)
    (plain' : '\n' ∉ origin'.toList) : head.body origin ≠ head'.cosigned origin' time := by
  intro same
  have roles : Role.log.message head origin = (Role.witness time).message head' origin' := same
  nomatch ((message_inj plain plain').1 roles).1

/-! ## Origins -/

theorem originOf_toList (log : KeyHash) :
    (originOf log).toList = "sigsum.org/v1/tree/".toList ++ Hex.encode log.bytes := by
  have whole : originOf log = "sigsum.org/v1/tree/" ++ log.hex := rfl
  have digits : log.hex.toList = Hex.encode log.bytes := String.toList_ofList
  rw [whole, String.toList_append, digits]

theorem originOf_plain (log : KeyHash) : '\n' ∉ (originOf log).toList := by
  have digits := @Hex.not_mem_encode '\n' rfl log.bytes
  rw [originOf_toList, List.mem_append, not_or]
  exact ⟨by decide, digits⟩

theorem originOf_inj : originOf log = originOf log' ↔ log = log' := by
  rw [← String.toList_inj, originOf_toList, originOf_toList, List.append_cancel_left_eq,
    Hex.encode_inj, Octets.bytes_inj]

end Witnessed
