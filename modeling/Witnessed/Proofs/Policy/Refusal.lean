import Witnessed.Proofs.Policy.Run
import Witnessed.Proofs.Policy.Strength

/-!
Refused declarations. Whatever a draft refuses, it keeps everything that it held before, and from
then on it answers every call with the same error, so that it never becomes a policy.
-/

namespace Witnessed

open Witnessed.Action

theorem Registry.atomic_enter (suite : Suite) (entity : Entity) :
    Atomic (Registry.enter suite entity) := by
  apply ReadOnly.atomic_bind readOnly_get
  intro r
  apply ReadOnly.atomic_bind (readOnly_refuseIf ..)
  intro _
  exact ((total_set _).bind fun _ => total_pure _).atomic

namespace Draft

variable {suite : Suite} {d d' : Draft} {x : Declaration} {ds : List Declaration}

/-! ## What a refused call leaves -/

theorem readOnly_ensureNew (name : String) : ReadOnly (ensureNew name) := by
  constructor
  · intro d u d' passed
    exact (ensureNew_ok_iff.1 passed).2
  · intro d e d' failed
    exact (readOnly_get.atomic_bind fun _ => (readOnly_refuseIf ..).error) d e d' failed

theorem atomic_addLog (entity : Entity) : Atomic (addLog suite entity) :=
  (Registry.atomic_enter suite entity).within fun _ => rfl

/-- The name is checked first, and the registry refuses before the name is given out. -/
theorem atomic_addWitness (name : String) (entity : Entity) :
    Atomic (addWitness suite name entity) := by
  apply ReadOnly.atomic_bind (readOnly_ensureNew name)
  intro _
  apply Atomic.bind_total ((Registry.atomic_enter suite entity).within fun _ => rfl)
  intro key
  exact (total_modify _).bind fun _ => total_pure key

/-- All members are looked at before any of them is taken. -/
theorem atomic_addGroup (name : String) (threshold : Threshold) (members : List String) :
    Atomic (addGroup name threshold members) := by
  apply ReadOnly.atomic_bind (readOnly_ensureNew name)
  intro _
  apply ReadOnly.atomic_bind (readOnly_refuseIf ..)
  intro _
  apply ReadOnly.atomic_bind readOnly_get
  intro d
  apply ReadOnly.atomic_bind (readOnly_ofResult (d.collect name [] members))
  intro nodes
  exact ((total_modify _).bind fun _ => total_modify _).atomic

theorem atomic_setQuorum (name : String) : Atomic (setQuorum name) := by
  apply ReadOnly.atomic_bind readOnly_get
  intro d
  apply ReadOnly.atomic_bind (readOnly_refuseIf ..)
  intro _
  cases d.node? name with
  | none => exact atomic_throw _
  | some node => exact (total_set _).atomic

theorem atomic_apply (x : Declaration) : Atomic (apply suite x) := by
  cases x with
  | log entity => exact (atomic_addLog entity).bind_total fun _ => total_pure _
  | witness name entity => exact (atomic_addWitness name entity).bind_total fun _ => total_pure _
  | group name threshold members =>
      exact (atomic_addGroup name threshold members).bind_total fun _ => total_pure _
  | quorum name => exact (atomic_setQuorum name).bind_total fun _ => total_pure _

theorem declare_of_refused {e : PolicyError} (h : d.declare suite x = (.error e, d')) :
    d' = { d with poisoned := true } := by
  cases spoiled : d.poisoned with
  | true =>
      rw [declare_of_poisoned spoiled, Prod.mk.injEq] at h
      rw [← h.2, ← spoiled]
  | false =>
      cases applied : (apply suite x).run d with
      | ok key after => simp [declare, spoiled, run_track, applied] at h
      | error e' after =>
          have kept : after = d := atomic_apply x d e' after applied
          simp only [declare, spoiled, run_track, applied, Bool.false_eq_true, ↓reduceIte,
            Prod.mk.injEq] at h
          rw [← h.2, kept]

/-! ## What comes after it -/

/-- What the declarations are answered, one after the other. -/
def answers (suite : Suite) : Draft → List Declaration →
    List (Except PolicyError (Option KeyHash))
  | _, [] => []
  | d, x :: rest => (d.declare suite x).1 :: answers suite (d.declare suite x).2 rest

/-- The draft accepts every one of the declarations. -/
def Takes (suite : Suite) (d : Draft) (ds : List Declaration) : Prop :=
  ∀ answer ∈ d.answers suite ds, ∃ key, answer = .ok key

theorem answers_of_poisoned (spoiled : d.poisoned = true) :
    d.answers suite ds = List.replicate ds.length (.error .poisoned) := by
  induction ds with
  | nil => rfl
  | cons x rest ih =>
      rw [answers, declare_of_poisoned spoiled, ih, List.length_cons, List.replicate_succ]

theorem build_of_poisoned (spoiled : d.poisoned = true) : d.build = .error .poisoned := by
  rw [build, if_pos spoiled]

theorem takes_nil : d.Takes suite [] := by
  simp [Takes, answers]

theorem takes_cons_iff : d.Takes suite (x :: ds) ↔
    (∃ key, (d.declare suite x).1 = .ok key) ∧ (d.declare suite x).2.Takes suite ds := by
  rw [Takes, answers, List.forall_mem_cons, ← Takes]

theorem takes_append_iff {more : List Declaration} :
    d.Takes suite (ds ++ more) ↔ d.Takes suite ds ∧ (d.declareAll suite ds).Takes suite more := by
  induction ds generalizing d with
  | nil => simp [declareAll, takes_nil]
  | cons x rest ih =>
      rw [List.cons_append, takes_cons_iff, takes_cons_iff, ih, and_assoc, declareAll_cons]

theorem good_of_accepted {key : Option KeyHash} (h : d.declare suite x = (.ok key, d')) :
    d'.poisoned = false := by
  obtain ⟨good, step⟩ := declare_ok_iff.1 ⟨key, h⟩
  cases step <;> exact good

/-- A draft is good as long as it accepts what is declared. -/
theorem good_iff_takes (good : d.poisoned = false) :
    (d.declareAll suite ds).poisoned = false ↔ d.Takes suite ds := by
  induction ds generalizing d with
  | nil => simp [declareAll, good, takes_nil]
  | cons x rest ih =>
      rw [declareAll_cons, takes_cons_iff]
      rcases step : d.declare suite x with ⟨result, d'⟩
      cases result with
      | ok key => simp [ih (good_of_accepted step)]
      | error e =>
          have spoiled := poisoned_of_refused step
          simp [declareAll_of_poisoned spoiled, spoiled]

/-- A refused call changes nothing but that it is the last one that counts: every later call gets
the same error and changes nothing either, and no policy comes of declarations one of which was
refused. -/
theorem refusal_final (suite : Suite) :
    (∀ (d : Draft) (x : Declaration) (e : PolicyError) (d' : Draft),
      d.declare suite x = (.error e, d') →
      (d'.logs = d.logs ∧ d'.witnesses = d.witnesses ∧ d'.nodes = d.nodes ∧
        d'.memberOf = d.memberOf ∧ d'.quorum = d.quorum) ∧
      ∀ later : List Declaration,
        d'.answers suite later = List.replicate later.length (.error .poisoned) ∧
          d'.declareAll suite later = d' ∧
          (d'.declareAll suite later).build = .error .poisoned) ∧
    ∀ (ds : List Declaration) (e : PolicyError), .error e ∈ new.answers suite ds →
      (new.declareAll suite ds).build = .error .poisoned := by
  constructor
  · intro d x e d' refused
    have spoiled : d'.poisoned = true := poisoned_of_refused refused
    constructor
    · rw [declare_of_refused refused]
      exact ⟨rfl, rfl, rfl, rfl, rfl⟩
    · intro later
      have same : d'.declareAll suite later = d' := declareAll_of_poisoned spoiled
      exact ⟨answers_of_poisoned spoiled, same, same.symm ▸ build_of_poisoned spoiled⟩
  · intro ds e refused
    apply build_of_poisoned
    by_contra good
    rw [Bool.not_eq_true, good_iff_takes rfl] at good
    obtain ⟨key, accepted⟩ := good _ refused
    contradiction

/-- The second member of the group is refused, when the first has been found. -/
theorem refusal_final_member :
    let declared := new.declareAll .plain [.witness "a" (.filled 2), .quorum "a"]
    let group := Declaration.group "g" .any ["a", "b"]
    (∃ d', declared.declare .plain group = (.error (.undefinedName "b"), d') ∧
      d'.nodes = declared.nodes ∧ d'.memberOf = [] ∧ d'.quorum = declared.quorum ∧
      d'.answers .plain [.log (.filled 1), .witness "b" (.filled 3)] =
        [.error .poisoned, .error .poisoned]) ∧
    (new.declareAll .plain [.witness "a" (.filled 2), .quorum "a", group]).build =
      .error .poisoned := by
  intro declared group
  have refused : declared.declare .plain group = (.error (.undefinedName "b"), _) := rfl
  obtain ⟨⟨_, _, nodes, memberOf, quorum⟩, later⟩ :=
    (refusal_final .plain).1 declared group _ _ refused
  refine ⟨⟨_, refused, nodes, memberOf, quorum, (later _).1⟩, ?_⟩
  exact (refusal_final .plain).2 _ (.undefinedName "b") (by decide)

end Draft

end Witnessed
