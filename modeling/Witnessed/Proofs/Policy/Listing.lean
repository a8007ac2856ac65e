import Witnessed.Proofs.Policy.Strength

/-!
Listings of a registry: the entities that can be reached, in an order that is drawn. Whatever is
drawn, each of them is listed once. The listing depends on nothing but what is drawn and what the
registry holds, because the entities are first put in the order of their keys, and no two entities
of a registry have the same key.
-/

namespace Witnessed

/-! ## Shuffles -/

section Shuffle

variable {α σ : Type} (source : Source σ)

theorem swapIfInBounds_perm (xs : Array α) (i j : Nat) : (xs.swapIfInBounds i j).Perm xs := by
  unfold Array.swapIfInBounds
  split
  · split
    · exact Array.swap_perm ..
    · exact .refl xs
  · exact .refl xs

/-- Each step only exchanges two elements, whatever is drawn. -/
theorem shuffleFrom_perm (last : Nat) (xs : Array α) (s : σ) :
    (shuffleFrom source last xs s).1.Perm xs := by
  induction last generalizing xs s with
  | zero => exact .refl xs
  | succ last ih => exact (ih _ _).trans (swapIfInBounds_perm ..)

theorem shuffle_perm (xs : List α) (s : σ) : (shuffle source xs s).1.Perm xs :=
  (shuffleFrom_perm source _ xs.toArray s).toList

end Shuffle

namespace Registry

variable {suite : Suite} {r r' : Registry} {as bs : List Entity}

/-! ## Calls -/

/-- What a call leaves, whether it is refused or not. -/
def leave (suite : Suite) (r : Registry) (entity : Entity) : Registry :=
  match (enter suite entity).run r with
  | .ok _ left => left
  | .error _ left => left

/-- What calls leave that come one after the other. -/
def after (suite : Suite) (r : Registry) (calls : List Entity) : Registry :=
  calls.foldl (leave suite) r

theorem run_enter (entity : Entity) (r : Registry) :
    (enter suite entity).run r =
      if r.contains (suite.keyHash entity.key) then
        .error (.duplicateKey r.kind (suite.keyHash entity.key)) r
      else
        .ok (suite.keyHash entity.key) (r.put suite entity) := by
  cases known : r.contains (suite.keyHash entity.key) with
  | false => exact enter_ok_iff.2 ⟨known, rfl, rfl⟩
  | true => simp [enter, Action.refuseIf, known]

theorem leave_eq (r : Registry) (entity : Entity) :
    r.leave suite entity =
      { r with entities := r.entities.keep (fun e => suite.keyHash e.key) entity } := by
  unfold leave KeyMap.keep
  rw [run_enter, contains]
  cases r.entities.contains (suite.keyHash entity.key) <;> rfl

theorem after_eq (r : Registry) (calls : List Entity) :
    r.after suite calls =
      { r with entities := r.entities.keepAll (fun e => suite.keyHash e.key) calls } := by
  induction calls generalizing r with
  | nil => rfl
  | cons entity rest ih =>
      rw [after, List.foldl_cons, ← after, ih, leave_eq]
      rfl

/-- Of the calls with one key hash the first is kept. -/
theorem find?_after (kind : EntityKind) (calls : List Entity) (key : KeyHash) :
    ((empty kind).after suite calls).find? key =
      calls.find? fun e => suite.keyHash e.key = key := by
  rw [after_eq, find?, KeyMap.find?_keepAll, empty, KeyMap.find?_empty, Option.none_or]

theorem own_after (kind : EntityKind) (calls : List Entity) :
    ((empty kind).after suite calls).entities.Own fun e => suite.keyHash e.key := by
  rw [after_eq]
  exact (KeyMap.own_empty _).keepAll calls

/-! ## The order of keys -/

/-- Whether an entity may stand before another one in the order of keys. -/
def before (a b : Entity) : Bool :=
  a.key < b.key ∨ a.key = b.key

theorem before_trans (a b c : Entity) (ab : before a b = true) (bc : before b c = true) :
    before a c = true := by
  simp only [before, decide_eq_true_eq] at ab bc ⊢
  rcases ab with lt | same
  · rcases bc with lt' | same'
    · exact .inl (Octets.lt_trans lt lt')
    · exact .inl (same' ▸ lt)
  · rwa [same]

theorem before_total (a b : Entity) : (before a b || before b a) = true := by
  simp only [before, Bool.or_eq_true, decide_eq_true_eq]
  by_cases lt : a.key < b.key
  · exact .inl (.inl lt)
  · by_cases same : a.key = b.key
    · exact .inl (.inr same)
    · exact .inr (.inl (Octets.lt_of_not_lt_of_ne lt same))

theorem key_eq_of_before {a b : Entity} (ab : before a b = true) (ba : before b a = true) :
    a.key = b.key := by
  simp only [before, decide_eq_true_eq] at ab ba
  rcases ab with lt | same
  · rcases ba with gt | same
    · exact absurd (Octets.lt_trans lt gt) (Octets.lt_irrefl a.key)
    · exact same.symm
  · exact same

/-- Entities with different keys have one order only. -/
theorem mergeSort_eq_of_perm (perm : as.Perm bs)
    (distinct : ∀ a ∈ as, ∀ b ∈ as, a.key = b.key → a = b) :
    as.mergeSort before = bs.mergeSort before := by
  have sorted : ∀ xs : List Entity,
      (xs.mergeSort before).Pairwise fun a b => before a b = true :=
    List.pairwise_mergeSort before_trans before_total
  have all : (as.mergeSort before).Perm (bs.mergeSort before) :=
    ((List.mergeSort_perm as before).trans perm).trans (List.mergeSort_perm bs before).symm
  refine all.eq_of_pairwise (fun a b ha hb ab ba => ?_) (sorted as) (sorted bs)
  have hb : b ∈ as := perm.mem_iff.2 (List.mem_mergeSort.1 hb)
  exact distinct a (List.mem_mergeSort.1 ha) b hb (key_eq_of_before ab ba)

/-! ## Listings -/

variable {σ : Type} (source : Source σ) (s : σ)

theorem hasUrl_iff {entity : Entity} :
    hasUrl entity = true ↔ ∃ url, entity.url = some url ∧ url ≠ "" := by
  cases shape : entity.url <;> simp [hasUrl, shape]

theorem listing_perm (entities : List Entity) :
    (listing source entities s).1.Perm (entities.filter hasUrl) :=
  (shuffle_perm source _ s).trans (List.mergeSort_perm ..)

theorem listing_eq_of_perm (perm : as.Perm bs)
    (distinct : ∀ a ∈ as, ∀ b ∈ as, a.key = b.key → a = b) :
    listing source as s = listing source bs s := by
  have sorted : (as.filter hasUrl).mergeSort before = (bs.filter hasUrl).mergeSort before := by
    refine mergeSort_eq_of_perm (perm.filter _) fun a ha b hb => ?_
    exact distinct a (List.mem_of_mem_filter ha) b (List.mem_of_mem_filter hb)
  exact congrArg (shuffle source · s) sorted

/-- However a registry has come about, its listing has every entity that has a URL once and
nothing else. Any other registry with the same entities has the same listing when the same is
drawn, in whatever order its entities come. -/
theorem lists_reachable (suite : Suite) (kind : EntityKind) (calls : List Entity) :
    let r := (empty kind).after suite calls
    (∀ key, r.find? key = calls.find? fun e => suite.keyHash e.key = key) ∧
    ((r.withUrl source s).1.Nodup ∧
      ∀ e, e ∈ (r.withUrl source s).1 ↔
        r.find? (suite.keyHash e.key) = some e ∧ ∃ url, e.url = some url ∧ url ≠ "") ∧
    ∀ (kind' : EntityKind) (calls' order : List Entity),
      let r' := (empty kind').after suite calls'
      (∀ e, e ∈ r'.entities.values ↔ e ∈ r.entities.values) → order.Perm r'.entities.values →
        listing source order s = r.withUrl source s := by
  intro r
  have own : r.entities.Own fun e => suite.keyHash e.key := own_after kind calls
  have listed : (r.withUrl source s).1.Perm (r.entities.values.filter hasUrl) :=
    listing_perm source s r.entities.values
  refine ⟨find?_after kind calls, ⟨?_, fun e => ?_⟩, fun kind' calls' order => ?_⟩
  · exact listed.nodup_iff.2 (own.nodup_values.filter _)
  · rw [listed.mem_iff, List.mem_filter, own.mem_values_iff, hasUrl_iff]
    rfl
  · intro r' same perm
    have own' : r'.entities.Own fun e => suite.keyHash e.key := own_after kind' calls'
    have all : order.Perm r.entities.values :=
      perm.trans ((List.perm_ext_iff_of_nodup own'.nodup_values own.nodup_values).2 same)
    refine listing_eq_of_perm source s all fun a ha b hb key => ?_
    exact own.unique (all.mem_iff.1 ha) (all.mem_iff.1 hb) (congrArg suite.keyHash key)

/-- The last call is refused. The other registry is of the other kind, its calls come in another
order, and its entities in a third one. -/
theorem lists_reachable_reordered :
    let site (byte : UInt8) (url : Option String) : Entity := ⟨.fill .publicKey byte, url⟩
    let calls := [site 4 (some "d"), site 2 none, site 1 (some "a"), site 3 (some ""),
      site 4 (some "x")]
    let calls' := [site 1 (some "a"), site 3 (some ""), site 4 (some "d"), site 2 none]
    let r := (empty .witness).after .plain calls
    let r' := (empty .log).after .plain calls'
    let words : Words := ⟨[7, 4000000000], 1⟩
    let listed := r.withUrl Words.source words
    (∀ e, e ∈ r'.entities.values ↔ e ∈ r.entities.values) ∧
      calls'.reverse.Perm r'.entities.values ∧
      listing Words.source calls'.reverse words = listed ∧ listed.1.Nodup ∧
      site 4 (some "d") ∈ listed.1 ∧ site 4 (some "x") ∉ listed.1 ∧
      site 3 (some "") ∉ listed.1 := by
  intro site calls calls' r r' words listed
  obtain ⟨_, ⟨once, reachable⟩, alike⟩ :=
    lists_reachable Words.source words .plain .witness calls
  have entities : r'.entities.values.Perm r.entities.values := by decide
  have same : ∀ e, e ∈ r'.entities.values ↔ e ∈ r.entities.values := fun _ => entities.mem_iff
  have order : calls'.reverse.Perm r'.entities.values := by decide
  refine ⟨same, order, alike .log calls' _ same order, once, ?_, ?_, ?_⟩
  · exact (reachable _).2 ⟨by decide, "d", rfl, by decide⟩
  · intro mem
    exact absurd ((reachable _).1 mem).1 (by decide)
  · intro mem
    obtain ⟨_, url, same, some⟩ := (reachable _).1 mem
    exact some (Option.some.inj same).symm

end Registry

end Witnessed
