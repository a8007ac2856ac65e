import Witnessed.Proofs.Policy.Characters

/-!
What a line of a policy text can be refused for: characters and bytes that are no text, words that
are no declaration, and declarations that the draft does not accept. Errors of the policy as a
whole, of catalogs, and of drafts that are spoiled already have nothing to do with a line.
-/

namespace Witnessed

open Witnessed.Action

namespace PolicyError

/-- Whether a single line can be refused with the error. -/
def IsOfLine : PolicyError → Prop
  | .missingQuorum | .poisoned | .invalidPolicyName _ | .unknownPolicy _ | .directory _
  | .atLine .. => False
  | _ => True

/-- The codes of the errors that a single line can be refused with. -/
def lineCodes : List String :=
  ["E3001", "E3002", "E3003", "E3004", "E3005", "E3006", "E3007", "E3008", "E3009", "E3011",
    "E3012"]

theorem isOfLine_iff {e : PolicyError} : e.IsOfLine ↔ e.line? = none ∧ e.code ∈ lineCodes := by
  cases e <;> simp [IsOfLine, line?, code, lineCodes]

end PolicyError

open PolicyError

theorem Registry.raises_enter (suite : Suite) (entity : Entity) :
    Raises IsOfLine (Registry.enter suite entity) := by
  refine total_get.raises.bind fun r => ?_
  refine (raises_refuseIf _ trivial).bind fun _ => ?_
  exact ((total_set _).bind fun _ => total_pure _).raises

/-! ## Declarations -/

namespace Draft

variable {suite : Suite} {d d' : Draft} {e : PolicyError}

theorem raises_ensureNew (name : String) : Raises IsOfLine (ensureNew name) :=
  total_get.raises.bind fun _ => raises_refuseIf _ trivial

theorem raises_addWitness (name : String) (entity : Entity) :
    Raises IsOfLine (addWitness suite name entity) := by
  refine (raises_ensureNew name).bind fun _ => ?_
  refine (Registry.raises_enter suite entity).within.bind fun key => ?_
  exact ((total_modify _).bind fun _ => total_pure key).raises

theorem isOfLine_of_collect {group : String} {listed members : List String}
    (failed : d.collect group listed members = .error e) : e.IsOfLine := by
  induction members generalizing listed with
  | nil => contradiction
  | cons member rest ih =>
      simp only [collect] at failed
      split at failed
      · cases failed
        trivial
      · cases failed
        trivial
      · split at failed
        · cases failed
          trivial
        · rcases bind_error_iff.1 failed with others | ⟨nodes, _, done⟩
          · exact ih others
          · contradiction

theorem raises_addGroup (name : String) (threshold : Threshold) (members : List String) :
    Raises IsOfLine (addGroup name threshold members) := by
  refine (raises_ensureNew name).bind fun _ => ?_
  refine (raises_refuseIf _ trivial).bind fun _ => ?_
  refine total_get.raises.bind fun d => ?_
  refine (raises_ofResult fun e failed => isOfLine_of_collect failed).bind fun nodes => ?_
  exact ((total_modify _).bind fun _ => total_modify _).raises

theorem raises_setQuorum (name : String) : Raises IsOfLine (setQuorum name) := by
  refine total_get.raises.bind fun d => ?_
  refine (raises_refuseIf _ trivial).bind fun _ => ?_
  cases d.node? name with
  | none => exact raises_throw trivial
  | some node => exact (total_set _).raises

theorem raises_apply (x : Declaration) : Raises IsOfLine (apply suite x) := by
  cases x with
  | log entity =>
      exact (Registry.raises_enter suite entity).within.bind fun _ => (total_pure _).raises
  | witness name entity =>
      exact (raises_addWitness name entity).bind fun _ => (total_pure _).raises
  | group name threshold members =>
      exact (raises_addGroup name threshold members).bind fun _ => (total_pure _).raises
  | quorum name => exact (raises_setQuorum name).bind fun _ => (total_pure _).raises

/-- Only a draft that is spoiled refuses with an error that has nothing to do with the line. -/
theorem isOfLine_of_declare {x : Declaration} (good : d.poisoned = false)
    (refused : d.declare suite x = (.error e, d')) : e.IsOfLine := by
  cases applied : (apply suite x).run d with
  | ok key after => simp [declare, good, run_track, applied] at refused
  | error cause after =>
      simp only [declare, good, run_track, applied, Bool.false_eq_true, ↓reduceIte,
        Prod.mk.injEq, Except.error.injEq] at refused
      exact refused.1 ▸ raises_apply x d cause after applied

end Draft

/-! ## Lines -/

namespace Script

variable {suite : Suite} {d : Draft} {e : PolicyError}

theorem Fault.isOfLine {line : List UInt8} (fault : Fault line e) : e.IsOfLine := by
  cases fault <;> trivial

theorem isOfLine_of_entityOf {key : List Char} {url : Option (List Char)}
    (failed : entityOf key url = .error e) : e.IsOfLine := by
  rw [entityOf] at failed
  split at failed
  · contradiction
  · cases failed
    trivial

theorem isOfLine_of_declarationOf {keyword : Keyword} {arguments : List (List Char)}
    (failed : declarationOf keyword arguments = .error e) : e.IsOfLine := by
  have entity : ∀ {key url} {declared : Entity → Declaration},
      (do return declared (← entityOf key url)) = .error e → e.IsOfLine := by
    intro key url declared failed
    rcases bind_error_iff.1 failed with wrong | ⟨_, _, done⟩
    · exact isOfLine_of_entityOf wrong
    · contradiction
  unfold declarationOf at failed
  split at failed
  -- logs and witnesses, each without and with a URL
  · exact entity failed
  · exact entity failed
  · exact entity failed
  · exact entity failed
  · split at failed
    · contradiction
    · cases failed
      trivial
  · contradiction
  · cases failed
    trivial

theorem isOfLine_of_declaration? {cs : List Char} (failed : declaration? cs = .error e) :
    e.IsOfLine := by
  rw [declaration?] at failed
  split at failed
  · contradiction
  · split at failed
    · cases failed
      trivial
    · rcases bind_error_iff.1 failed with wrong | ⟨x, _, done⟩
      · exact isOfLine_of_declarationOf wrong
      · contradiction

theorem isOfLine_of_takeLine {line : List UInt8} (good : d.poisoned = false)
    (refused : takeLine suite d line = .error e) : e.IsOfLine := by
  rw [takeLine_eq, reading, bind_error_iff, bind_error_iff] at refused
  rcases refused with (broken | ⟨cs, _, wrong⟩) | ⟨x, _, unaccepted⟩
  · exact (lineText_error_iff.1 broken).isOfLine
  · exact isOfLine_of_declaration? wrong
  · cases x with
    | none => contradiction
    | some x => exact Draft.isOfLine_of_declare good (Prod.ext (follow_error_iff.1 unaccepted) rfl)

end Script

end Witnessed
