import Mathlib.Data.List.Induction
import Mathlib.Data.List.Pairwise
import Witnessed.Proofs.Policy.Refusal

/-!
Which declarations make a policy, and which policy they make. A draft decides call by call, from
its tables; here the same is said of the declarations themselves, without any draft. The quorum
is what its name expands to, whatever the order in which the names were declared.
-/

namespace Witnessed

namespace Declaration

/-- The name that a declaration gives away. -/
@[simp] def name? : Declaration → Option String
  | .witness name _ => some name
  | .group name _ _ => some name
  | .log _ | .quorum _ => none

@[simp] def members : Declaration → List String
  | .group _ _ members => members
  | .log _ | .witness _ _ | .quorum _ => []

/-- The name that a declaration makes the quorum. -/
@[simp] def quorum? : Declaration → Option String
  | .quorum name => some name
  | .log _ | .witness _ _ | .group _ _ _ => none

/-- The names that have to stand for something already. -/
@[simp] def mentions (x : Declaration) : List String :=
  x.members ++ x.quorum?.toList

end Declaration

/-- The names that declarations give away. -/
def namesOf (ds : List Declaration) : List String :=
  ds.filterMap Declaration.name?

/-- The members of all the groups together. -/
def membersOf (ds : List Declaration) : List String :=
  ds.flatMap Declaration.members

/-- The names that declarations make the quorum. -/
def quorumsOf (ds : List Declaration) : List String :=
  ds.filterMap Declaration.quorum?

/-- The hashes of the keys of entities. -/
def Suite.keyHashes (suite : Suite) (entities : List Entity) : List KeyHash :=
  entities.map fun entity => suite.keyHash entity.key

/-- Declarations that do not stand in each other's way. -/
structure Orderly (suite : Suite) (ds : List Declaration) : Prop where
  logs : (suite.keyHashes (logsOf ds)).Nodup
  witnesses : (suite.keyHashes (witnessesOf ds)).Nodup
  names : (namesOf ds).Nodup
  reserved : "none" ∉ namesOf ds
  /-- Every group asks for some of its members, and not for more than it has. -/
  thresholds : ∀ name threshold members, Declaration.group name threshold members ∈ ds →
    1 ≤ threshold.resolve members.length ∧ threshold.resolve members.length ≤ members.length
  /-- Names stand for something before they are used. -/
  declared : ∀ before x, before ++ [x] <+: ds → ∀ m ∈ x.mentions, m = "none" ∨ m ∈ namesOf before
  /-- No name is a member twice, be it of one group or of two. -/
  once : (membersOf ds).Nodup

/-- Orderly declarations just one of which sets the quorum. -/
structure WellFormed (suite : Suite) (ds : List Declaration) : Prop extends Orderly suite ds where
  quorum : (quorumsOf ds).length = 1

/-- What a name stands for, when the names of the members of groups are expanded as well. -/
inductive Expands (suite : Suite) (ds : List Declaration) : String → Quorum → Prop
  | none : Expands suite ds "none" .none
  | witness {name : String} {entity : Entity} (mem : .witness name entity ∈ ds) :
      Expands suite ds name (.witness (suite.keyHash entity.key))
  | group {name : String} {threshold : Threshold} {members : List String} {nodes : List Quorum}
      (mem : .group name threshold members ∈ ds) (count : members.length = nodes.length)
      (each : ∀ m q, (m, q) ∈ members.zip nodes → Expands suite ds m q) :
      Expands suite ds name (.group (threshold.resolve members.length) nodes)

variable {suite : Suite} {ds : List Declaration} {x : Declaration}

theorem filterMap_concat {α β : Type} (f : α → Option β) (as : List α) (a : α) :
    (as ++ [a]).filterMap f = as.filterMap f ++ (f a).toList := by
  rw [List.filterMap_append]
  cases value : f a with
  | none => rw [List.filterMap_cons_none value, List.filterMap_nil, Option.toList_none]
  | some b => rw [List.filterMap_cons_some value, List.filterMap_nil, Option.toList_some]

theorem namesOf_concat (ds : List Declaration) (x : Declaration) :
    namesOf (ds ++ [x]) = namesOf ds ++ x.name?.toList :=
  filterMap_concat Declaration.name? ds x

theorem quorumsOf_concat (ds : List Declaration) (x : Declaration) :
    quorumsOf (ds ++ [x]) = quorumsOf ds ++ x.quorum?.toList :=
  filterMap_concat Declaration.quorum? ds x

theorem membersOf_concat (ds : List Declaration) (x : Declaration) :
    membersOf (ds ++ [x]) = membersOf ds ++ x.members := by
  simp [membersOf]

theorem Suite.keyHashes_append (suite : Suite) (xs ys : List Entity) :
    suite.keyHashes (xs ++ ys) = suite.keyHashes xs ++ suite.keyHashes ys :=
  List.map_append

/-! ## One more declaration -/

/-- What earlier declarations ask of the next one. -/
structure Follows (suite : Suite) (ds : List Declaration) (x : Declaration) : Prop where
  log : (suite.keyHashes (logsOf ds)).Disjoint (suite.keyHashes (logsOf [x]))
  witness : (suite.keyHashes (witnessesOf ds)).Disjoint (suite.keyHashes (witnessesOf [x]))
  unnamed : ∀ name, x.name? = some name → name ≠ "none" ∧ name ∉ namesOf ds
  threshold : ∀ name threshold members, x = .group name threshold members →
    1 ≤ threshold.resolve members.length ∧ threshold.resolve members.length ≤ members.length
  declared : ∀ m ∈ x.mentions, m = "none" ∨ m ∈ namesOf ds
  free : ∀ m ∈ x.members, m ∉ membersOf ds
  once : x.members.Nodup
  unset : ∀ name, x.quorum? = some name → quorumsOf ds = []

theorem orderly_nil (suite : Suite) : Orderly suite [] where
  logs := List.nodup_nil
  witnesses := List.nodup_nil
  names := List.nodup_nil
  reserved := List.not_mem_nil
  thresholds := by simp
  declared := by simp
  once := List.nodup_nil

/-- A single declaration repeats no key hash. -/
theorem nodup_keyHashes_single (suite : Suite) (x : Declaration) :
    (suite.keyHashes (logsOf [x])).Nodup ∧ (suite.keyHashes (witnessesOf [x])).Nodup := by
  cases x <;> simp [logsOf, witnessesOf, Suite.keyHashes]

theorem nodup_names_concat_iff :
    (namesOf (ds ++ [x])).Nodup ∧ "none" ∉ namesOf (ds ++ [x]) ↔
      ((namesOf ds).Nodup ∧ "none" ∉ namesOf ds) ∧
        ∀ name, x.name? = some name → name ≠ "none" ∧ name ∉ namesOf ds := by
  rw [namesOf_concat]
  cases x.name? with
  | none => simp
  | some name =>
      simp only [Option.toList_some, List.nodup_append, List.mem_append, List.mem_singleton]
      grind

theorem length_quorums_concat_iff :
    (quorumsOf (ds ++ [x])).length ≤ 1 ↔
      (quorumsOf ds).length ≤ 1 ∧ ∀ name, x.quorum? = some name → quorumsOf ds = [] := by
  rw [quorumsOf_concat, List.length_append, ← List.length_eq_zero_iff]
  cases x.quorum? with
  | none => simp
  | some name =>
      simp only [Option.toList_some, List.length_singleton, Option.some.injEq, forall_eq']
      omega

theorem declared_concat_iff :
    (∀ before y, before ++ [y] <+: ds ++ [x] → ∀ m ∈ y.mentions, m = "none" ∨ m ∈ namesOf before) ↔
      (∀ before y, before ++ [y] <+: ds → ∀ m ∈ y.mentions, m = "none" ∨ m ∈ namesOf before) ∧
        ∀ m ∈ x.mentions, m = "none" ∨ m ∈ namesOf ds := by
  constructor
  · intro all
    constructor
    · intro before y earlier
      exact all before y (earlier.trans (List.prefix_append ds [x]))
    · exact all ds x (List.prefix_refl _)
  · rintro ⟨earlier, last⟩ before y here
    rcases List.prefix_concat_iff.1 here with same | within
    · obtain ⟨rfl, rfl⟩ : before = ds ∧ y = x := by simpa using List.append_inj' same rfl
      exact last
    · exact earlier before y within

/-- Declarations stay orderly as long as each of them follows those before it. -/
theorem orderly_concat_iff :
    Orderly suite (ds ++ [x]) ∧ (quorumsOf (ds ++ [x])).length ≤ 1 ↔
      (Orderly suite ds ∧ (quorumsOf ds).length ≤ 1) ∧ Follows suite ds x := by
  have logs : suite.keyHashes (logsOf (ds ++ [x])) =
      suite.keyHashes (logsOf ds) ++ suite.keyHashes (logsOf [x]) := by
    rw [logsOf_append, suite.keyHashes_append]
  have witnesses : suite.keyHashes (witnessesOf (ds ++ [x])) =
      suite.keyHashes (witnessesOf ds) ++ suite.keyHashes (witnessesOf [x]) := by
    rw [witnessesOf_append, suite.keyHashes_append]
  have members := membersOf_concat ds x
  rw [length_quorums_concat_iff]
  constructor
  · rintro ⟨orderly, single, unset⟩
    obtain ⟨⟨names, reserved⟩, unnamed⟩ :=
      nodup_names_concat_iff.1 ⟨orderly.names, orderly.reserved⟩
    obtain ⟨declared, last⟩ := declared_concat_iff.1 orderly.declared
    obtain ⟨once, lastOnce, free⟩ := List.nodup_append'.1 (members ▸ orderly.once)
    obtain ⟨logsOnce, _, log⟩ := List.nodup_append'.1 (logs ▸ orderly.logs)
    obtain ⟨witnessesOnce, _, witness⟩ := List.nodup_append'.1 (witnesses ▸ orderly.witnesses)
    refine ⟨⟨⟨logsOnce, witnessesOnce, names, reserved, ?_, declared, once⟩, single⟩,
      ⟨log, witness, unnamed, ?_, last, ?_, lastOnce, unset⟩⟩
    · intro name threshold ms mem
      exact orderly.thresholds name threshold ms (List.mem_append_left _ mem)
    · rintro name threshold ms rfl
      apply orderly.thresholds name threshold ms
      exact List.mem_append_right ds (List.mem_singleton_self _)
    · intro m hm mem
      exact free mem hm
  · rintro ⟨⟨orderly, single⟩, follows⟩
    obtain ⟨logOnce, witnessOnce⟩ := nodup_keyHashes_single suite x
    obtain ⟨names, reserved⟩ :=
      nodup_names_concat_iff.2 ⟨⟨orderly.names, orderly.reserved⟩, follows.unnamed⟩
    refine ⟨⟨?_, ?_, names, reserved, ?_, ?_, ?_⟩, single, follows.unset⟩
    · rw [logs]
      exact List.nodup_append'.2 ⟨orderly.logs, logOnce, follows.log⟩
    · rw [witnesses]
      exact List.nodup_append'.2 ⟨orderly.witnesses, witnessOnce, follows.witness⟩
    · intro name threshold ms mem
      rcases List.mem_append.1 mem with earlier | last
      · exact orderly.thresholds name threshold ms earlier
      · exact follows.threshold name threshold ms (List.mem_singleton.1 last).symm
    · exact declared_concat_iff.2 ⟨orderly.declared, follows.declared⟩
    · rw [members]
      exact List.nodup_append'.2 ⟨orderly.once, follows.once, fun m mem hm => follows.free m hm mem⟩

/-! ## Drafts and their history -/

theorem Registry.Holds.contains_iff {r : Registry} {entities : List Entity}
    (h : r.Holds suite entities) (key : KeyHash) :
    r.contains key = false ↔ key ∉ suite.keyHashes entities := by
  rw [Registry.contains, KeyMap.contains_eq_false, Option.eq_none_iff_forall_ne_some]
  simp only [Suite.keyHashes, List.mem_map, not_exists]
  exact forall_congr' fun entity => not_congr (h key entity)

namespace Draft

variable {d : Draft}

/-- The tables of a draft say what the declarations say. -/
structure Recalls (suite : Suite) (d : Draft) (ds : List Declaration) : Prop where
  logs : ∀ key, d.logs.contains key = false ↔ key ∉ suite.keyHashes (logsOf ds)
  witnesses : ∀ key, d.witnesses.contains key = false ↔ key ∉ suite.keyHashes (witnessesOf ds)
  names : ∀ name, d.node? name = none ↔ name ≠ "none" ∧ name ∉ namesOf ds
  members : ∀ name, d.Free name ↔ name ∉ membersOf ds
  quorum : d.quorum = none ↔ quorumsOf ds = []

theorem names_of_run (h : Run suite ds d) (name : String) :
    d.node? name = none ↔ name ≠ "none" ∧ name ∉ namesOf ds := by
  induction h with
  | start => simp [node?, new, lookup_cons_eq, namesOf]
  | next _ step ih =>
      rw [namesOf_concat, List.mem_append, not_or, ← and_assoc, ← ih]
      cases step with
      | log | quorum => simp [node?]
      | witness given | group given =>
          by_cases same : name = given <;> simp [node?, lookup_cons_eq, same]

theorem members_of_run (h : Run suite ds d) (name : String) :
    d.Free name ↔ name ∉ membersOf ds := by
  induction h with
  | start => simp [Free, new, membersOf]
  | next _ step ih =>
      rw [membersOf_concat, List.mem_append, not_or, ← ih]
      cases step with
      | log | witness | quorum => simp [Free]
      | group group threshold members =>
          rw [Free, lookup_members, and_comm, ← Free, Declaration.members]

theorem quorum_of_run (h : Run suite ds d) : d.quorum = none ↔ quorumsOf ds = [] := by
  induction h with
  | start => simp [new, quorumsOf]
  | next _ step ih =>
      rw [quorumsOf_concat, List.append_eq_nil_iff, ← ih]
      cases step <;> simp

theorem recalls_of_run (h : Run suite ds d) : d.Recalls suite ds where
  logs := h.logs.contains_iff
  witnesses := h.witnesses.contains_iff
  names := names_of_run h
  members := members_of_run h
  quorum := quorum_of_run h

end Draft

/-! ## Acceptance -/

theorem follows_log_iff {entity : Entity} :
    Follows suite ds (.log entity) ↔
      suite.keyHash entity.key ∉ suite.keyHashes (logsOf ds) := by
  have single : suite.keyHashes (logsOf [.log entity]) = [suite.keyHash entity.key] := rfl
  constructor
  · intro follows mem
    exact follows.log mem (single ▸ List.mem_singleton_self _)
  · intro fresh
    exact
      { log := single ▸ List.disjoint_singleton.2 fresh
        witness := by simp [witnessesOf, Suite.keyHashes]
        unnamed := by simp
        threshold := by simp
        declared := by simp
        free := by simp
        once := by simp
        unset := by simp }

theorem follows_witness_iff {name : String} {entity : Entity} :
    Follows suite ds (.witness name entity) ↔ (name ≠ "none" ∧ name ∉ namesOf ds) ∧
      suite.keyHash entity.key ∉ suite.keyHashes (witnessesOf ds) := by
  have single : suite.keyHashes (witnessesOf [.witness name entity]) =
    [suite.keyHash entity.key] := rfl
  constructor
  · intro follows
    constructor
    · exact follows.unnamed name rfl
    · intro mem
      exact follows.witness mem (single ▸ List.mem_singleton_self _)
  · rintro ⟨unnamed, fresh⟩
    exact
      { log := by simp [logsOf, Suite.keyHashes]
        witness := single ▸ List.disjoint_singleton.2 fresh
        unnamed := by simpa using unnamed
        threshold := by simp
        declared := by simp
        free := by simp
        once := by simp
        unset := by simp }

theorem follows_group_iff {name : String} {threshold : Threshold} {members : List String} :
    Follows suite ds (.group name threshold members) ↔
      (name ≠ "none" ∧ name ∉ namesOf ds) ∧
        (1 ≤ threshold.resolve members.length ∧
          threshold.resolve members.length ≤ members.length) ∧
        (∀ m ∈ members, m = "none" ∨ m ∈ namesOf ds) ∧ (∀ m ∈ members, m ∉ membersOf ds) ∧
        members.Nodup := by
  constructor
  · intro follows
    have declared : ∀ m ∈ members, m = "none" ∨ m ∈ namesOf ds := by
      simpa using follows.declared
    exact ⟨follows.unnamed name rfl, follows.threshold name threshold members rfl, declared,
      follows.free, follows.once⟩
  · rintro ⟨unnamed, range, declared, free, once⟩
    exact
      { log := by simp [logsOf, Suite.keyHashes]
        witness := by simp [witnessesOf, Suite.keyHashes]
        unnamed := by simpa using unnamed
        threshold := by
          rintro _ _ _ ⟨⟩
          exact range
        declared := by simpa using declared
        free := free
        once := once
        unset := by simp }

theorem follows_quorum_iff {name : String} :
    Follows suite ds (.quorum name) ↔ quorumsOf ds = [] ∧ (name = "none" ∨ name ∈ namesOf ds) := by
  constructor
  · intro follows
    exact ⟨follows.unset name rfl, by simpa using follows.declared⟩
  · rintro ⟨unset, declared⟩
    exact
      { log := by simp [logsOf, Suite.keyHashes]
        witness := by simp [witnessesOf, Suite.keyHashes]
        unnamed := by simp
        threshold := by simp
        declared := by simpa using declared
        free := by simp
        once := by simp
        unset := fun _ _ => unset }

namespace Draft

variable {d : Draft}

theorem Recalls.declared_iff (h : d.Recalls suite ds) (name : String) :
    d.node? name ≠ none ↔ name = "none" ∨ name ∈ namesOf ds := by
  rw [Ne, h.names]
  tauto

/-- Nodes can be collected if all the names stand for something. -/
theorem exists_nodes_iff {members : List String} :
    (∃ nodes : List Quorum, members.map d.node? = nodes.map some) ↔
      ∀ m ∈ members, d.node? m ≠ none := by
  constructor
  · rintro ⟨nodes, named⟩ m hm
    exact declared_of_collected named hm
  · intro declared
    induction members with
    | nil => exact ⟨[], rfl⟩
    | cons m rest ih =>
        obtain ⟨first, others⟩ := List.forall_mem_cons.1 declared
        obtain ⟨q, node⟩ := Option.ne_none_iff_exists'.1 first
        obtain ⟨nodes, named⟩ := ih others
        exact ⟨q :: nodes, by rw [List.map_cons, List.map_cons, node, named]⟩

/-- What a draft asks of a call is what the earlier declarations ask of the next. -/
theorem Recalls.step_iff (h : d.Recalls suite ds) :
    (∃ d', Step suite d x d') ↔ Follows suite ds x := by
  cases x with
  | log entity =>
      rw [follows_log_iff, ← h.logs]
      constructor
      · rintro ⟨_, step⟩
        cases step with
        | log _ fresh => exact fresh
      · intro fresh
        exact ⟨_, .log entity fresh⟩
  | witness name entity =>
      rw [follows_witness_iff, ← h.names, ← h.witnesses]
      constructor
      · rintro ⟨_, step⟩
        cases step with
        | witness _ _ unnamed fresh => exact ⟨unnamed, fresh⟩
      · rintro ⟨unnamed, fresh⟩
        exact ⟨_, .witness name entity unnamed fresh⟩
  | group name threshold members =>
      simp only [follows_group_iff, ← h.names, ← h.declared_iff, ← h.members]
      constructor
      · rintro ⟨_, step⟩
        cases step with
        | group _ _ _ nodes unnamed low high named free once =>
            exact ⟨unnamed, ⟨low, high⟩, exists_nodes_iff.1 ⟨nodes, named⟩, free, once⟩
      · rintro ⟨unnamed, ⟨low, high⟩, declared, free, once⟩
        obtain ⟨nodes, named⟩ := exists_nodes_iff.2 declared
        exact ⟨_, .group name threshold members nodes unnamed low high named free once⟩
  | quorum name =>
      rw [follows_quorum_iff, ← h.quorum, ← h.declared_iff, Option.ne_none_iff_exists']
      constructor
      · rintro ⟨_, step⟩
        cases step with
        | quorum _ q unset named => exact ⟨unset, q, named⟩
      · rintro ⟨unset, q, named⟩
        exact ⟨_, .quorum name q unset named⟩

theorem takes_singleton_iff (good : d.poisoned = false) :
    d.Takes suite [x] ↔ ∃ d', Step suite d x d' := by
  rw [Takes, answers, answers, List.forall_mem_singleton]
  rcases taken : d.declare suite x with ⟨answer, after⟩
  constructor
  · rintro ⟨key, rfl⟩
    exact ⟨after, (declare_ok_iff.1 ⟨key, taken⟩).2⟩
  · rintro ⟨d', step⟩
    obtain ⟨key, accepted⟩ := declare_ok_iff.2 ⟨good, step⟩
    rw [taken, Prod.mk.injEq] at accepted
    exact ⟨key, accepted.1⟩

theorem takes_concat_iff (good : d.poisoned = false) :
    d.Takes suite (ds ++ [x]) ↔
      d.Takes suite ds ∧ ∃ d', Step suite (d.declareAll suite ds) x d' := by
  rw [takes_append_iff]
  apply and_congr_right
  intro taken
  exact takes_singleton_iff ((good_iff_takes good).2 taken)

/-- A draft takes the declarations that are orderly and set the quorum once at most. -/
theorem takes_iff : new.Takes suite ds ↔ Orderly suite ds ∧ (quorumsOf ds).length ≤ 1 := by
  induction ds using List.reverseRecOn with
  | nil => simp [takes_nil, orderly_nil, quorumsOf]
  | append_singleton ds x ih =>
      rw [takes_concat_iff rfl, orderly_concat_iff, ← ih]
      apply and_congr_right
      intro taken
      have run := Run.start.declareAll ((good_iff_takes rfl).2 taken)
      exact (recalls_of_run run).step_iff

end Draft

/-! ## What a name expands to -/

theorem Expands.mono {more : List Declaration} {name : String} {q : Quorum}
    (h : Expands suite ds name q) (sub : ds ⊆ more) : Expands suite more name q := by
  induction h with
  | none => exact .none
  | witness mem => exact .witness (sub mem)
  | group mem count _ ih => exact .group (sub mem) count ih

/-- A name is given away by one declaration only. -/
theorem Orderly.named_once (orderly : Orderly suite ds) {y : Declaration} {name : String}
    (hx : x ∈ ds) (hy : y ∈ ds) (namex : x.name? = some name) (namey : y.name? = some name) :
    x = y := by
  have symm : Std.Symm fun a b : Declaration =>
      ∀ n, a.name? = some n → ∀ m, b.name? = some m → n ≠ m :=
    ⟨fun a b differ n hn m hm eq => differ m hm n hn eq.symm⟩
  by_contra ne
  have apart := (List.pairwise_filterMap.1 orderly.names).forall hx hy ne
  exact apart name namex name namey rfl

theorem Orderly.name_ne_none (orderly : Orderly suite ds) {name : String} (hx : x ∈ ds)
    (named : x.name? = some name) : name ≠ "none" := by
  rintro rfl
  exact orderly.reserved (List.mem_filterMap.2 ⟨x, hx, named⟩)

theorem Orderly.expands_unique (orderly : Orderly suite ds) {name : String} {p q : Quorum}
    (hp : Expands suite ds name p) (hq : Expands suite ds name q) : p = q := by
  induction hp generalizing q with
  | none =>
      cases hq with
      | none => rfl
      | witness mem | group mem => exact absurd rfl (orderly.name_ne_none mem rfl)
  | witness mem =>
      cases hq with
      | none => exact absurd rfl (orderly.name_ne_none mem rfl)
      | witness other =>
          cases orderly.named_once mem other rfl rfl
          rfl
      | group other => cases orderly.named_once mem other rfl rfl
  | @group name threshold members nodes mem count each ih =>
      cases hq with
      | none => exact absurd rfl (orderly.name_ne_none mem rfl)
      | witness other => cases orderly.named_once mem other rfl rfl
      | @group _ _ _ nodes' other count' each' =>
          cases orderly.named_once mem other rfl rfl
          have same : nodes = nodes' := by
            apply List.ext_getElem (count.symm.trans count')
            intro i hi hi'
            have hm : i < members.length := count ▸ hi
            apply ih members[i] nodes[i] (List.mem_iff_getElem.2 ⟨i, by simp [hm, hi], by simp⟩)
            exact each' _ _ (List.mem_iff_getElem.2 ⟨i, by simp [hm, hi'], by simp⟩)
          rw [same]

namespace Draft

variable {d : Draft}

/-- Each member has the node that was collected for it. -/
theorem node?_of_mem_zip {members : List String} {nodes : List Quorum} {m : String} {q : Quorum}
    (named : members.map d.node? = nodes.map some) (mem : (m, q) ∈ members.zip nodes) :
    d.node? m = some q := by
  induction members generalizing nodes with
  | nil => simp at mem
  | cons first rest ih =>
      cases nodes with
      | nil => simp at mem
      | cons node others =>
          rw [List.map_cons, List.map_cons, List.cons.injEq] at named
          rw [List.zip_cons_cons, List.mem_cons, Prod.mk.injEq] at mem
          rcases mem with ⟨rfl, rfl⟩ | later
          · exact named.1
          · exact ih named.2 later

/-- What a draft has under a name is what the name expands to. -/
theorem expands_of_run {name : String} {q : Quorum} (h : Run suite ds d)
    (node : d.node? name = some q) : Expands suite ds name q := by
  induction h generalizing name q with
  | start =>
      simp only [node?, new, lookup_cons_eq, List.lookup_nil, Option.ite_none_right_eq_some,
        Option.some.injEq] at node
      obtain ⟨rfl, rfl⟩ := node
      exact .none
  | @next ds x _ _ _ step ih =>
      have earlier : ds ⊆ ds ++ [x] := List.subset_append_left ds [x]
      have last : x ∈ ds ++ [x] := List.mem_append_right ds (List.mem_singleton_self x)
      cases step with
      | log | quorum => exact (ih node).mono earlier
      | witness given entity =>
          rw [node?, lookup_cons_eq] at node
          split at node
          · subst name
            cases node
            exact .witness last
          · exact (ih node).mono earlier
      | group given threshold members nodes _ _ _ named =>
          rw [node?, lookup_cons_eq] at node
          split at node
          · subst name
            cases node
            have count : members.length = nodes.length := by
              simpa using congrArg List.length named
            apply Expands.group last count
            intro m q pair
            exact (ih (node?_of_mem_zip named pair)).mono earlier
          · exact (ih node).mono earlier

theorem quorum_expands_of_run {q : Quorum} (h : Run suite ds d) (set : d.quorum = some q) :
    ∃ name, quorumsOf ds = [name] ∧ Expands suite ds name q := by
  induction h with
  | start => simp [new] at set
  | @next ds x _ _ run step ih =>
      have earlier : ds ⊆ ds ++ [x] := List.subset_append_left ds [x]
      rw [quorumsOf_concat]
      cases step with
      | log | witness | group =>
          obtain ⟨name, only, expands⟩ := ih set
          exact ⟨name, by simp [only], expands.mono earlier⟩
      | quorum name q unset named =>
          cases set
          have first : quorumsOf ds = [] := (quorum_of_run run).1 unset
          exact ⟨name, by simp [first],
            (expands_of_run run named).mono earlier⟩

/-- Of good declarations one sets the quorum just if the draft can be built. -/
theorem builds_iff (taken : new.Takes suite ds) :
    (∃ p, (new.declareAll suite ds).build = .ok p) ↔ quorumsOf ds ≠ [] := by
  have good := (good_iff_takes rfl).2 taken
  have run : Run suite ds (new.declareAll suite ds) := Run.start.declareAll good
  rw [Ne, ← quorum_of_run run]
  cases set : (new.declareAll suite ds).quorum <;> simp [build, good, set]

/-- A draft takes just the well-formed sequences of declarations and becomes a policy: the one
that has the logs and the witnesses that were declared, and the quorum that was named. -/
theorem accepts_wellFormed (suite : Suite) (ds : List Declaration) :
    (new.Takes suite ds ∧ (∃ p, (new.declareAll suite ds).build = .ok p) ↔
      WellFormed suite ds) ∧
    ∀ p, (new.declareAll suite ds).build = .ok p →
      p.logs.Holds suite (logsOf ds) ∧ p.witnesses.Holds suite (witnessesOf ds) ∧
        ∃ name, quorumsOf ds = [name] ∧ ∀ q, Expands suite ds name q ↔ q = p.quorum := by
  constructor
  · constructor
    · rintro ⟨taken, built⟩
      obtain ⟨orderly, most⟩ := takes_iff.1 taken
      have least := List.length_pos_iff.2 ((builds_iff taken).1 built)
      exact ⟨orderly, by omega⟩
    · intro wellFormed
      have taken := takes_iff.2 ⟨wellFormed.toOrderly, wellFormed.quorum.le⟩
      have set : quorumsOf ds ≠ [] := List.ne_nil_of_length_eq_add_one wellFormed.quorum
      exact ⟨taken, (builds_iff taken).2 set⟩
  · intro p built
    obtain ⟨good, logs, witnesses, quorum⟩ := build_ok_iff.1 built
    have run : Run suite ds (new.declareAll suite ds) := Run.start.declareAll good
    have orderly := (takes_iff.1 ((good_iff_takes rfl).1 good)).1
    obtain ⟨name, set, expands⟩ := quorum_expands_of_run run quorum
    refine ⟨logs ▸ run.logs, witnesses ▸ run.witnesses, name, set, ?_⟩
    intro q
    constructor
    · intro other
      exact orderly.expands_unique other expands
    · rintro rfl
      exact expands

/-- The quorum is set to a group over a group, and over the empty group, which needs no
declaration. -/
theorem accepts_nested :
    WellFormed .plain nestedDeclarations ∧
      ∃ p, (new.declareAll .plain nestedDeclarations).build = .ok p ∧
        p.logs.Holds .plain [.filled 1] ∧
        p.witnesses.Holds .plain [.filled 2, .filled 3, .filled 4] ∧
        ∀ q, Expands .plain nestedDeclarations "outer" q ↔ q = p.quorum := by
  obtain ⟨accepts, makes⟩ := accepts_wellFormed .plain nestedDeclarations
  have built : (new.declareAll .plain nestedDeclarations).build = .ok _ := rfl
  have taken : new.Takes .plain nestedDeclarations := (good_iff_takes rfl).1 rfl
  obtain ⟨logs, witnesses, _, ⟨⟩, expands⟩ := makes _ built
  exact ⟨accepts.1 ⟨taken, _, built⟩, _, built, logs, witnesses, expands⟩

end Draft

end Witnessed
