import Witnessed.Policy.Script
import Witnessed.Proofs.Except
import Witnessed.Proofs.KeyMap
import Witnessed.Proofs.Policy.Action

/-!
Drafts as a system that takes steps. A step is a declaration that is accepted, with everything
that has to hold for it and everything that it changes; a run is a sequence of steps from the new
draft. Every policy, built or read, comes from a run over its declarations.
-/

namespace Witnessed

/-! ## Registries -/

namespace Registry

variable {suite : Suite} {r : Registry}

/-- The registry with one more entity, under the hash of its key. -/
def put (suite : Suite) (r : Registry) (entity : Entity) : Registry :=
  { r with entities := r.entities.insert (suite.keyHash entity.key) entity }

theorem enter_ok_iff {entity : Entity} {key : KeyHash} {r' : Registry} :
    (enter suite entity).run r = .ok key r' ↔
      r.contains (suite.keyHash entity.key) = false ∧ key = suite.keyHash entity.key ∧
        r' = r.put suite entity := by
  simp only [enter, Action.run_bind_ok_iff, Action.run_get_ok_iff, Action.run_refuseIf_ok_iff,
    Action.run_set_ok_iff, Action.run_pure_ok_iff, Bool.not_eq_true, put]
  constructor
  · rintro ⟨_, _, ⟨rfl, rfl⟩, _, _, ⟨fresh, rfl⟩, _, _, rfl, rfl, rfl⟩
    exact ⟨fresh, rfl, rfl⟩
  · rintro ⟨fresh, rfl, rfl⟩
    exact ⟨_, _, ⟨rfl, rfl⟩, (), _, ⟨fresh, rfl⟩, (), _, rfl, rfl, rfl⟩

@[simp] theorem find?_put (entity : Entity) (key : KeyHash) :
    (r.put suite entity).find? key =
      if key = suite.keyHash entity.key then some entity else r.find? key :=
  KeyMap.find?_insert ..

theorem contains_put (entity : Entity) (key : KeyHash) :
    (r.put suite entity).contains key =
      (decide (key = suite.keyHash entity.key) || r.contains key) :=
  KeyMap.contains_insert ..

/-- The registry has just the given entities, each under the hash of its key. -/
def Holds (suite : Suite) (r : Registry) (entities : List Entity) : Prop :=
  ∀ key entity, r.find? key = some entity ↔ entity ∈ entities ∧ suite.keyHash entity.key = key

theorem holds_empty (suite : Suite) (kind : EntityKind) : (empty kind).Holds suite [] := by
  simp [Holds, find?, empty]

theorem Holds.put {entities : List Entity} (h : r.Holds suite entities) {entity : Entity}
    (fresh : r.contains (suite.keyHash entity.key) = false) :
    (r.put suite entity).Holds suite (entities ++ [entity]) := by
  intro key other
  have absent : ∀ e, ¬(e ∈ entities ∧ suite.keyHash e.key = suite.keyHash entity.key) := by
    intro e he
    rw [← h] at he
    rw [contains, KeyMap.contains_eq_false] at fresh
    simp [find?, fresh] at he
  rw [find?_put, List.mem_append, List.mem_singleton]
  by_cases same : key = suite.keyHash entity.key
  · subst same
    simp only [↓reduceIte, Option.some.injEq]
    constructor
    · rintro rfl; exact ⟨.inr rfl, rfl⟩
    · rintro ⟨mem | eq, hash⟩
      · exact absurd ⟨mem, hash⟩ (absent other)
      · exact eq.symm
  · simp only [same, ↓reduceIte, h key other]
    constructor
    · rintro ⟨mem, hash⟩; exact ⟨.inl mem, hash⟩
    · rintro ⟨mem | rfl, hash⟩
      · exact ⟨mem, hash⟩
      · exact absurd hash.symm same

/-- Of the entities that a registry has, no two share a hash. -/
theorem Holds.unique {entities : List Entity} (h : r.Holds suite entities) {a b : Entity}
    (ha : a ∈ entities) (hb : b ∈ entities) (same : suite.keyHash a.key = suite.keyHash b.key) :
    a = b := by
  have found := (h _ a).2 ⟨ha, same⟩
  rw [(h _ b).2 ⟨hb, rfl⟩] at found
  exact (Option.some.inj found).symm

/-- Registries of one kind that have the same entities are the same. -/
theorem Holds.ext {r' : Registry} {entities entities' : List Entity}
    (h : r.Holds suite entities) (h' : r'.Holds suite entities') (kind : r.kind = r'.kind)
    (same : ∀ entity, entity ∈ entities ↔ entity ∈ entities') : r = r' := by
  have contents : r.entities = r'.entities := by
    apply KeyMap.ext_find?
    intro key
    apply Option.ext
    intro entity
    have here := h key entity
    have there := h' key entity
    rw [find?] at here there
    rw [here, there, same]
  cases r
  cases r'
  cases kind
  cases contents
  rfl

end Registry

/-- The logs among declarations. -/
def logsOf (ds : List Declaration) : List Entity :=
  ds.filterMap fun
    | .log entity => some entity
    | _ => none

/-- The witnesses among declarations. -/
def witnessesOf (ds : List Declaration) : List Entity :=
  ds.filterMap fun
    | .witness _ entity => some entity
    | _ => none

theorem logsOf_append (xs ys : List Declaration) : logsOf (xs ++ ys) = logsOf xs ++ logsOf ys :=
  List.filterMap_append

theorem witnessesOf_append (xs ys : List Declaration) :
    witnessesOf (xs ++ ys) = witnessesOf xs ++ witnessesOf ys :=
  List.filterMap_append

/-! ## Steps -/

namespace Draft

variable {suite : Suite} {d d' : Draft}

/-- The name belongs to no group yet. -/
def Free (d : Draft) (name : String) : Prop :=
  d.memberOf.lookup name = none

/-- What an accepted declaration asks of a draft, and what it makes of it. -/
inductive Step (suite : Suite) (d : Draft) : Declaration → Draft → Prop
  | log (entity : Entity) (fresh : d.logs.contains (suite.keyHash entity.key) = false) :
      Step suite d (.log entity) { d with logs := d.logs.put suite entity }
  | witness (name : String) (entity : Entity) (unnamed : d.node? name = none)
      (fresh : d.witnesses.contains (suite.keyHash entity.key) = false) :
      Step suite d (.witness name entity)
        { d with
          witnesses := d.witnesses.put suite entity
          nodes := (name, .witness (suite.keyHash entity.key)) :: d.nodes }
  | group (name : String) (threshold : Threshold) (members : List String) (nodes : List Quorum)
      (unnamed : d.node? name = none) (low : 1 ≤ threshold.resolve members.length)
      (high : threshold.resolve members.length ≤ members.length)
      (named : members.map d.node? = nodes.map some) (free : ∀ m ∈ members, d.Free m)
      (once : members.Nodup) :
      Step suite d (.group name threshold members)
        { d with
          nodes := (name, .group (threshold.resolve members.length) nodes) :: d.nodes
          memberOf := members.map (·, name) ++ d.memberOf }
  | quorum (name : String) (q : Quorum) (unset : d.quorum = none)
      (named : d.node? name = some q) :
      Step suite d (.quorum name) { d with quorum := some q }

theorem ensureNew_ok_iff {name : String} {u : Unit} :
    (ensureNew name).run d = .ok u d' ↔ d.node? name = none ∧ d' = d := by
  simp only [ensureNew, Action.run_bind_ok_iff, Action.run_get_ok_iff, Action.run_refuseIf_ok_iff,
    Bool.not_eq_true, Option.isSome_eq_false_iff, Option.isNone_iff_eq_none]
  constructor
  · rintro ⟨_, _, ⟨rfl, rfl⟩, unnamed, rfl⟩
    exact ⟨unnamed, rfl⟩
  · rintro ⟨unnamed, rfl⟩
    exact ⟨_, _, ⟨rfl, rfl⟩, unnamed, rfl⟩

theorem addLog_ok_iff {entity : Entity} {key : KeyHash} :
    (addLog suite entity).run d = .ok key d' ↔
      d.logs.contains (suite.keyHash entity.key) = false ∧ key = suite.keyHash entity.key ∧
        d' = { d with logs := d.logs.put suite entity } := by
  simp only [addLog, Action.run_within_ok_iff, Registry.enter_ok_iff]
  constructor
  · rintro ⟨_, ⟨fresh, rfl, rfl⟩, rfl⟩
    exact ⟨fresh, rfl, rfl⟩
  · rintro ⟨fresh, rfl, rfl⟩
    exact ⟨_, ⟨fresh, rfl, rfl⟩, rfl⟩

theorem addWitness_ok_iff {name : String} {entity : Entity} {key : KeyHash} :
    (addWitness suite name entity).run d = .ok key d' ↔
      d.node? name = none ∧ d.witnesses.contains (suite.keyHash entity.key) = false ∧
        key = suite.keyHash entity.key ∧
        d' = { d with
          witnesses := d.witnesses.put suite entity
          nodes := (name, .witness (suite.keyHash entity.key)) :: d.nodes } := by
  simp only [addWitness, Action.run_bind_ok_iff, ensureNew_ok_iff, Action.run_within_ok_iff,
    Registry.enter_ok_iff, Action.run_modify_ok_iff, Action.run_pure_ok_iff]
  constructor
  · rintro ⟨_, _, ⟨unnamed, rfl⟩, _, _, ⟨_, ⟨fresh, rfl, rfl⟩, rfl⟩, _, _, rfl, rfl, rfl⟩
    exact ⟨unnamed, fresh, rfl, rfl⟩
  · rintro ⟨unnamed, fresh, rfl, rfl⟩
    exact ⟨(), _, ⟨unnamed, rfl⟩, _, _, ⟨_, ⟨fresh, rfl, rfl⟩, rfl⟩, (), _, rfl, rfl, rfl⟩

theorem collect_ok_iff {group : String} {listed members : List String} {nodes : List Quorum} :
    d.collect group listed members = .ok nodes ↔
      members.map d.node? = nodes.map some ∧ (∀ m ∈ members, d.Free m) ∧ members.Nodup ∧
        ∀ m ∈ members, m ∉ listed := by
  induction members generalizing listed nodes with
  | nil => cases nodes <;> simp [collect]
  | cons member rest ih =>
      simp only [collect, List.map_cons, List.forall_mem_cons, List.nodup_cons, Free]
      cases named : d.node? member with
      | none => cases nodes <;> simp
      | some node =>
          cases free : d.memberOf.lookup member with
          | some other => simp
          | none =>
              by_cases again : member ∈ listed
              · simp [again]
              · simp only [again, ↓reduceIte, bind_ok_iff, pure_ok_iff, ih, Free,
                  List.mem_cons, not_or]
                cases nodes with
                | nil => simp
                | cons first others =>
                    simp only [List.map_cons, List.cons.injEq, Option.some.injEq]
                    grind

theorem addGroup_ok_iff {name : String} {threshold : Threshold} {members : List String}
    {u : Unit} :
    (addGroup name threshold members).run d = .ok u d' ↔
      d.node? name = none ∧ 1 ≤ threshold.resolve members.length ∧
        threshold.resolve members.length ≤ members.length ∧
        ∃ nodes, members.map d.node? = nodes.map some ∧ (∀ m ∈ members, d.Free m) ∧
          members.Nodup ∧
          d' = { d with
            nodes := (name, .group (threshold.resolve members.length) nodes) :: d.nodes
            memberOf := members.map (·, name) ++ d.memberOf } := by
  simp only [addGroup, Action.run_bind_ok_iff, ensureNew_ok_iff, Action.run_refuseIf_ok_iff,
    Action.run_get_ok_iff, Action.run_ofResult_ok_iff, collect_ok_iff, Action.run_modify_ok_iff,
    not_or, Nat.not_lt, List.not_mem_nil, not_false_eq_true, implies_true, and_true]
  constructor
  · rintro ⟨_, _, ⟨unnamed, rfl⟩, _, _, ⟨⟨low, high⟩, rfl⟩, _, _, ⟨rfl, rfl⟩, nodes, _,
      ⟨⟨named, free, once⟩, rfl⟩, _, _, rfl, rfl⟩
    exact ⟨unnamed, low, high, nodes, named, free, once, rfl⟩
  · rintro ⟨unnamed, low, high, nodes, named, free, once, rfl⟩
    exact ⟨(), _, ⟨unnamed, rfl⟩, (), _, ⟨⟨low, high⟩, rfl⟩, _, _, ⟨rfl, rfl⟩, nodes, _,
      ⟨⟨named, free, once⟩, rfl⟩, (), _, rfl, rfl⟩

theorem setQuorum_ok_iff {name : String} {u : Unit} :
    (setQuorum name).run d = .ok u d' ↔
      d.quorum = none ∧ ∃ q, d.node? name = some q ∧ d' = { d with quorum := some q } := by
  simp only [setQuorum, Action.run_bind_ok_iff, Action.run_get_ok_iff, Action.run_refuseIf_ok_iff,
    Bool.not_eq_true, Option.isSome_eq_false_iff, Option.isNone_iff_eq_none]
  constructor
  · rintro ⟨_, _, ⟨rfl, rfl⟩, _, d, ⟨unset, rfl⟩, done⟩
    cases named : d.node? name with
    | none => simp [named] at done
    | some q =>
        simp only [named, Action.run_set_ok_iff] at done
        exact ⟨unset, q, rfl, done⟩
  · rintro ⟨unset, q, named, rfl⟩
    refine ⟨_, _, ⟨rfl, rfl⟩, (), _, ⟨unset, rfl⟩, ?_⟩
    simp only [named, Action.run_set_ok_iff]

/-- The accepted declarations are the steps. -/
theorem apply_ok_iff {x : Declaration} :
    (∃ key, (apply suite x).run d = .ok key d') ↔ Step suite d x d' := by
  cases x with
  | log entity =>
      simp only [apply, Action.run_bind_ok_iff, Action.run_pure_ok_iff, addLog_ok_iff]
      constructor
      · rintro ⟨_, _, _, ⟨fresh, rfl, rfl⟩, _, rfl⟩
        exact .log entity fresh
      · intro step
        cases step with
        | log _ fresh => exact ⟨_, _, _, ⟨fresh, rfl, rfl⟩, rfl, rfl⟩
  | witness name entity =>
      simp only [apply, Action.run_bind_ok_iff, Action.run_pure_ok_iff, addWitness_ok_iff]
      constructor
      · rintro ⟨_, _, _, ⟨unnamed, fresh, rfl, rfl⟩, _, rfl⟩
        exact .witness name entity unnamed fresh
      · intro step
        cases step with
        | witness _ _ unnamed fresh => exact ⟨_, _, _, ⟨unnamed, fresh, rfl, rfl⟩, rfl, rfl⟩
  | group name threshold members =>
      simp only [apply, Action.run_bind_ok_iff, Action.run_pure_ok_iff, addGroup_ok_iff]
      constructor
      · rintro ⟨_, _, _, ⟨unnamed, low, high, nodes, named, free, once, rfl⟩, _, rfl⟩
        exact .group name threshold members nodes unnamed low high named free once
      · intro step
        cases step with
        | group _ _ _ nodes unnamed low high named free once =>
            exact ⟨_, (), _, ⟨unnamed, low, high, nodes, named, free, once, rfl⟩, rfl, rfl⟩
  | quorum name =>
      simp only [apply, Action.run_bind_ok_iff, Action.run_pure_ok_iff, setQuorum_ok_iff]
      constructor
      · rintro ⟨_, _, _, ⟨unset, q, named, rfl⟩, _, rfl⟩
        exact .quorum name q unset named
      · intro step
        cases step with
        | quorum _ q unset named => exact ⟨_, (), _, ⟨unset, q, named, rfl⟩, rfl, rfl⟩

theorem run_track {α : Type} (action : Action Draft α) (d : Draft) :
    (track action).run d = match action.run d with
      | .ok a d => .ok a d
      | .error e d => .error e { d with poisoned := true } := rfl

theorem declare_ok_iff {x : Declaration} :
    (∃ key, d.declare suite x = (.ok key, d')) ↔ d.poisoned = false ∧ Step suite d x d' := by
  rw [← apply_ok_iff]
  cases spoiled : d.poisoned with
  | true => simp [declare, spoiled]
  | false =>
      cases applied : (apply suite x).run d with
      | ok key after => simp [declare, spoiled, run_track, applied, Prod.ext_iff]
      | error e after => simp [declare, spoiled, run_track, applied]

theorem declare_of_poisoned (spoiled : d.poisoned = true) (x : Declaration) :
    d.declare suite x = (.error .poisoned, d) := by
  simp [declare, spoiled]

/-- A draft that a refused declaration leaves behind takes no more declarations. -/
theorem poisoned_of_refused {x : Declaration} {e : PolicyError}
    (h : d.declare suite x = (.error e, d')) : d'.poisoned = true := by
  cases spoiled : d.poisoned with
  | true =>
      rw [declare_of_poisoned spoiled, Prod.mk.injEq] at h
      exact h.2 ▸ spoiled
  | false =>
      cases applied : (apply suite x).run d with
      | ok key after => simp [declare, spoiled, run_track, applied] at h
      | error e' after =>
          simp only [declare, spoiled, run_track, applied, Bool.false_eq_true, ↓reduceIte,
            Prod.mk.injEq] at h
          rw [← h.2]

/-! ## Runs -/

/-- The drafts that accepted declarations lead to, from the new draft on. -/
inductive Run (suite : Suite) : List Declaration → Draft → Prop
  | start : Run suite [] .new
  | next {ds : List Declaration} {x : Declaration} {d d' : Draft} (run : Run suite ds d)
      (step : Step suite d x d') : Run suite (ds ++ [x]) d'

variable {ds : List Declaration}

theorem Run.logs (h : Run suite ds d) : d.logs.Holds suite (logsOf ds) := by
  induction h with
  | start => exact Registry.holds_empty suite .log
  | next _ step ih =>
      rw [logsOf_append]
      cases step with
      | log entity fresh => exact ih.put fresh
      | witness | group | quorum => simpa [logsOf] using ih

theorem Run.witnesses (h : Run suite ds d) : d.witnesses.Holds suite (witnessesOf ds) := by
  induction h with
  | start => exact Registry.holds_empty suite .witness
  | next _ step ih =>
      rw [witnessesOf_append]
      cases step with
      | witness name entity _ fresh => exact ih.put fresh
      | log | group | quorum => simpa [witnessesOf] using ih

/-- The draft after a sequence of declarations, whether or not they are accepted. -/
def declareAll (suite : Suite) (d : Draft) (ds : List Declaration) : Draft :=
  ds.foldl (fun d x => (d.declare suite x).2) d

theorem declareAll_cons (suite : Suite) (d : Draft) (x : Declaration) (ds : List Declaration) :
    d.declareAll suite (x :: ds) = (d.declare suite x).2.declareAll suite ds :=
  rfl

theorem declareAll_append (d : Draft) (xs ys : List Declaration) :
    d.declareAll suite (xs ++ ys) = (d.declareAll suite xs).declareAll suite ys :=
  List.foldl_append

theorem declareAll_of_poisoned (spoiled : d.poisoned = true) : d.declareAll suite ds = d := by
  induction ds with
  | nil => rfl
  | cons x rest ih => rw [declareAll_cons, declare_of_poisoned spoiled, ih]

/-- A draft that is good in the end was good all along. -/
theorem good_of_declareAll (good : (d.declareAll suite ds).poisoned = false) :
    d.poisoned = false := by
  cases spoiled : d.poisoned with
  | false => rfl
  | true =>
      rw [declareAll_of_poisoned spoiled] at good
      exact spoiled.symm.trans good

/-- Unless one of them is refused, declarations run on. -/
theorem Run.declareAll {more : List Declaration} (h : Run suite ds d)
    (good : (d.declareAll suite more).poisoned = false) :
    Run suite (ds ++ more) (d.declareAll suite more) := by
  induction more generalizing ds d with
  | nil => simpa [Draft.declareAll] using h
  | cons x rest ih =>
      rcases step : d.declare suite x with ⟨result, d'⟩
      rw [declareAll_cons, step] at good ⊢
      cases result with
      | error e =>
          have spoiled := poisoned_of_refused step
          rw [good_of_declareAll good] at spoiled
          contradiction
      | ok key =>
          have run := ih (h.next (declare_ok_iff.1 ⟨key, step⟩).2) good
          rwa [List.append_assoc] at run

theorem build_ok_iff {p : Policy} :
    d.build = .ok p ↔ d.poisoned = false ∧ d.logs = p.logs ∧ d.witnesses = p.witnesses ∧
      d.quorum = some p.quorum := by
  obtain ⟨logs, witnesses, quorum⟩ := p
  cases spoiled : d.poisoned <;> cases set : d.quorum <;> simp [build, spoiled, set]

theorem missing_of_build {e : PolicyError} (good : d.poisoned = false)
    (failed : d.build = .error e) : e = .missingQuorum := by
  cases set : d.quorum with
  | none =>
      simp only [build, good, Bool.false_eq_true, ↓reduceIte, set, Except.error.injEq] at failed
      exact failed.symm
  | some q => simp [build, good, set] at failed

end Draft

/-! ## Policies -/

namespace Script

/-- The declaration on a line, if the line is well formed and declares anything. -/
def declares? (bytes : List UInt8) : Option Declaration :=
  match lineText bytes >>= declaration? with
  | .ok x => x
  | .error _ => none

/-- The declarations on the well-formed lines of a text. -/
def declarations (bytes : List UInt8) : List Declaration :=
  (bytes.splitOn 10).filterMap declares?

/-- What a line says: a declaration, nothing, or something that cannot be read. -/
def reading (bytes : List UInt8) : Except PolicyError (Option Declaration) :=
  lineText bytes >>= declaration?

/-- What a draft becomes by what a line says. -/
def follow (suite : Suite) (d : Draft) : Option Declaration → Except PolicyError Draft
  | none => .ok d
  | some x =>
      match d.declare suite x with
      | (.ok _, d) => .ok d
      | (.error e, _) => .error e

variable {suite : Suite} {d d' : Draft} {ds : List Declaration}

theorem declares?_of_reading {bytes : List UInt8} {x : Option Declaration}
    (read : reading bytes = .ok x) : declares? bytes = x := by
  rw [declares?, ← reading, read]

theorem follow_error_iff {x : Declaration} {e : PolicyError} :
    follow suite d (some x) = .error e ↔ (d.declare suite x).1 = .error e := by
  rw [follow]
  rcases d.declare suite x with ⟨answer, after⟩
  cases answer <;> simp

theorem takeLine_eq (suite : Suite) (d : Draft) (bytes : List UInt8) :
    takeLine suite d bytes = reading bytes >>= follow suite d := by
  cases text : lineText bytes with
  | error e => simp only [takeLine, reading, text, bind, Except.bind]
  | ok cs =>
      cases said : declaration? cs with
      | error e => simp only [takeLine, reading, text, said, bind, Except.bind]
      | ok x =>
          simp only [takeLine, reading, text, said, bind, Except.bind]
          cases x <;> rfl

theorem run_takeLine {bytes : List UInt8} (h : Draft.Run suite ds d)
    (taken : takeLine suite d bytes = .ok d') :
    Draft.Run suite (ds ++ (declares? bytes).toList) d' := by
  rw [takeLine_eq, bind_ok_iff] at taken
  obtain ⟨x, read, followed⟩ := taken
  rw [declares?_of_reading read]
  cases x with
  | none =>
      cases followed
      simpa using h
  | some x =>
      rcases step : d.declare suite x with ⟨result, after⟩
      simp only [follow, step] at followed
      cases result with
      | error e => contradiction
      | ok key =>
          cases followed
          exact h.next (Draft.declare_ok_iff.1 ⟨key, step⟩).2

theorem run_takeLines {number : Nat} {lines : List (List UInt8)} (h : Draft.Run suite ds d)
    (taken : takeLines suite d number lines = .ok d') :
    Draft.Run suite (ds ++ lines.filterMap declares?) d' := by
  induction lines generalizing ds d number with
  | nil =>
      cases taken
      simpa using h
  | cons bytes rest ih =>
      simp only [takeLines] at taken
      cases first : takeLine suite d bytes with
      | error e => simp [first] at taken
      | ok next =>
          simp only [first] at taken
          have run := ih (run_takeLine h first) taken
          cases said : declares? bytes <;> simpa [said] using run

end Script

namespace Policy

/-- The policies that come about, with the declarations that they come from. -/
inductive Made (suite : Suite) : List Declaration → Policy → Prop
  | built (ds : List Declaration) {p : Policy}
      (h : (Draft.new.declareAll suite ds).build = .ok p) : Made suite ds p
  | parsed (bytes : List UInt8) {p : Policy} (h : parse suite bytes = .ok p) :
      Made suite (Script.declarations bytes) p

variable {suite : Suite} {ds : List Declaration} {p : Policy}

theorem Made.run (h : Made suite ds p) : ∃ d, Draft.Run suite ds d ∧ d.build = .ok p := by
  cases h with
  | built _ h => exact ⟨_, Draft.Run.start.declareAll (Draft.build_ok_iff.1 h).1, h⟩
  | parsed bytes h =>
      obtain ⟨d, taken, built⟩ := bind_ok_iff.1 h
      exact ⟨d, Script.run_takeLines .start taken, built⟩

theorem Made.logs (h : Made suite ds p) : p.logs.Holds suite (logsOf ds) := by
  obtain ⟨d, run, built⟩ := h.run
  exact (Draft.build_ok_iff.1 built).2.1 ▸ run.logs

theorem Made.witnesses (h : Made suite ds p) : p.witnesses.Holds suite (witnessesOf ds) := by
  obtain ⟨d, run, built⟩ := h.run
  exact (Draft.build_ok_iff.1 built).2.2.1 ▸ run.witnesses

end Policy

end Witnessed
