import Witnessed.Proofs.Policy.Run
import Witnessed.Proofs.Quorum.Tree

/-!
The names of a draft as a forest. The free names stand for quorums that end in places of their
own; a group joins the trees of its members and takes their names out of use. So the quorum that
a policy gets is a tree in which no witness occurs twice.
-/

namespace Witnessed

/-- What holds of every quorum that has a name: it ends nowhere twice, its witnesses are known,
and its thresholds are in range. -/
structure Quorum.Sound (known : Registry) (q : Quorum) : Prop where
  once : q.ends.Nodup
  known : ∀ w ∈ q.leaves, known.contains w = true
  range : q.InRange

namespace Quorum

variable {suite : Suite} {r : Registry} {q : Quorum}

theorem sound_none (r : Registry) : none.Sound r :=
  ⟨by simp, by simp [none], .none⟩

theorem sound_witness {entity : Entity} :
    (witness (suite.keyHash entity.key)).Sound (r.put suite entity) :=
  ⟨by simp, by simp [Registry.contains_put], .witness _⟩

theorem Sound.put (h : q.Sound r) (entity : Entity) : q.Sound (r.put suite entity) :=
  ⟨h.once, fun w hw => by simp [Registry.contains_put, h.known w hw], h.range⟩

/-- A witness that is not known is none of the ends. -/
theorem Sound.fresh (h : q.Sound r) {key : KeyHash} (fresh : r.contains key = false) :
    some key ∉ q.ends := by
  intro mem
  have known := h.known key (mem_leaves_iff.2 mem)
  rw [fresh] at known
  contradiction

theorem sound_group {threshold : Nat} {members : List Quorum}
    (once : (members.flatMap ends).Nodup) (each : ∀ q ∈ members, q.Sound r)
    (low : 1 ≤ threshold) (high : threshold ≤ members.length) :
    (group threshold members).Sound r := by
  have some : members ≠ [] := by
    rintro rfl
    simp only [List.length_nil] at high
    omega
  refine ⟨by rwa [ends_group threshold some], fun w hw => ?_,
    .group threshold members low high fun q hq => (each q hq).range⟩
  obtain ⟨q, hq, leaf⟩ : ∃ q ∈ members, w ∈ q.leaves := by simpa using hw
  exact (each q hq).known w leaf

end Quorum

namespace Draft

variable {suite : Suite} {d d' : Draft} {ds : List Declaration}

structure Sound (d : Draft) : Prop where
  /-- Only declared names are members. -/
  declared : ∀ a, d.node? a = none → d.Free a
  sound : ∀ a q, d.node? a = some q → q.Sound d.witnesses
  /-- Free names share no end. -/
  apart : ∀ a b p q, a ≠ b → d.Free a → d.Free b → d.node? a = some p → d.node? b = some q →
    p.ends.Disjoint q.ends
  quorum : ∀ q, d.quorum = some q → q.Sound d.witnesses

theorem lookup_cons_eq {α : Type} (name a : String) (value : α) (rest : List (String × α)) :
    ((name, value) :: rest).lookup a = if a = name then some value else rest.lookup a := by
  by_cases h : a = name
  · simp [h]
  · simp [List.lookup_cons, beq_eq_false_iff_ne.2 h, h]

theorem lookup_members (name a : String) (members : List String)
    (memberOf : List (String × String)) :
    (members.map (·, name) ++ memberOf).lookup a = none ↔
      a ∉ members ∧ memberOf.lookup a = none := by
  simp only [List.lookup_append, Option.or_eq_none_iff, List.lookup_eq_none_iff,
    List.mem_map, forall_exists_index, and_imp, forall_apply_eq_imp_iff₂, bne_iff_ne]
  constructor
  · rintro ⟨out, free⟩
    exact ⟨fun mem => out a mem rfl, free⟩
  · rintro ⟨out, free⟩
    exact ⟨fun m hm eq => out (eq ▸ hm), free⟩

/-- The names of members and the nodes collected for them belong together. -/
theorem collected_iff {members : List String} {nodes : List Quorum}
    (named : members.map d.node? = nodes.map some) (q : Quorum) :
    q ∈ nodes ↔ ∃ m ∈ members, d.node? m = some q := by
  have mem : some q ∈ members.map d.node? ↔ some q ∈ nodes.map some := by rw [named]
  simpa using mem.symm

theorem declared_of_collected {members : List String} {nodes : List Quorum}
    (named : members.map d.node? = nodes.map some) {m : String} (hm : m ∈ members) :
    d.node? m ≠ none := by
  have mem : d.node? m ∈ nodes.map some := named ▸ List.mem_map_of_mem hm
  obtain ⟨q, _, node⟩ := List.mem_map.1 mem
  exact node ▸ Option.some_ne_none q

/-! ## What a step keeps -/

theorem new_sound : new.Sound where
  declared := by simp [new, Free]
  sound := by
    intro a q named
    simp only [node?, new, lookup_cons_eq, List.lookup_nil] at named
    split at named
    · cases named
      exact Quorum.sound_none _
    · contradiction
  apart := by
    intro a b p q ne _ _ ha hb
    simp only [node?, new, lookup_cons_eq, List.lookup_nil] at ha hb
    split at ha <;> split at hb
    · subst_vars
      contradiction
    all_goals contradiction
  quorum := by simp [new]

/-- A new tree that shares no end with the trees that stay free keeps the forest in order. -/
theorem Sound.plant (h : d.Sound) {name : String} {tree : Quorum} (members : List String)
    (nodes : d'.nodes = (name, tree) :: d.nodes)
    (memberOf : d'.memberOf = members.map (·, name) ++ d.memberOf)
    (quorum : d'.quorum = d.quorum) (declared : ∀ m ∈ members, d.node? m ≠ none)
    (grow : ∀ q : Quorum, q.Sound d.witnesses → q.Sound d'.witnesses)
    (sound : tree.Sound d'.witnesses)
    (beside : ∀ b q, b ∉ members → d.Free b → d.node? b = some q → tree.ends.Disjoint q.ends) :
    d'.Sound := by
  have node : ∀ a, d'.node? a = if a = name then some tree else d.node? a := fun a => by
    rw [node?, nodes, lookup_cons_eq, node?]
  -- Only the members stop being free; the new name itself was never a member.
  have free : ∀ a, d'.Free a ↔ a ∉ members ∧ d.Free a := fun a => by
    rw [Free, memberOf, lookup_members, Free]
  refine ⟨fun a ha => ?_, fun a q ha => ?_, fun a b p q ne fa fb ha hb => ?_,
    fun q set => grow q (h.quorum q (quorum ▸ set))⟩
  · rw [node] at ha
    split at ha
    · contradiction
    · exact (free a).2 ⟨fun mem => declared a mem ha, h.declared a ha⟩
  · rw [node] at ha
    split at ha
    · cases ha
      exact sound
    · exact grow q (h.sound a q ha)
  · obtain ⟨outa, fa⟩ := (free a).1 fa
    obtain ⟨outb, fb⟩ := (free b).1 fb
    rw [node] at ha hb
    split at ha <;> split at hb
    · subst_vars
      contradiction
    · cases ha
      exact beside b q outb fb hb
    · cases hb
      exact List.disjoint_comm.1 (beside a p outa fa ha)
    · exact h.apart a b p q ne fa fb ha hb

/-- Joined trees share no end. -/
theorem Sound.nodup_collected (h : d.Sound) {members : List String} {nodes : List Quorum}
    (named : members.map d.node? = nodes.map some) (free : ∀ m ∈ members, d.Free m)
    (once : members.Nodup) : (nodes.flatMap Quorum.ends).Nodup := by
  refine List.nodup_flatMap.2 ⟨fun q hq => ?_, ?_⟩
  · obtain ⟨m, _, node⟩ := (collected_iff named q).1 hq
    exact (h.sound m q node).once
  · have apart : (members.map d.node?).Pairwise fun x y =>
        ∀ p q, x = some p → y = some q → p.ends.Disjoint q.ends :=
      List.pairwise_map.2 (once.imp_of_mem fun ha hb ne p q =>
        h.apart _ _ p q ne (free _ ha) (free _ hb))
    rw [named, List.pairwise_map] at apart
    exact apart.imp fun disjoint => disjoint _ _ rfl rfl

theorem step_sound {x : Declaration} (h : Step suite d x d') (sound : d.Sound) : d'.Sound := by
  cases h with
  | log entity fresh => exact ⟨sound.declared, sound.sound, sound.apart, sound.quorum⟩
  | witness name entity unnamed fresh =>
      refine sound.plant [] rfl rfl rfl (by simp) (fun q hq => hq.put entity)
        Quorum.sound_witness ?_
      intro b q _ fb hb
      simpa using (sound.sound b q hb).fresh fresh
  | group name threshold members nodes unnamed low high named free once =>
      have count : members.length = nodes.length := by
        simpa using congrArg List.length named
      have each : ∀ q ∈ nodes, q.Sound d.witnesses := by
        intro q hq
        obtain ⟨m, _, node⟩ := (collected_iff named q).1 hq
        exact sound.sound m q node
      refine sound.plant members rfl rfl rfl (fun m hm => declared_of_collected named hm)
        (fun q hq => hq)
        (Quorum.sound_group (sound.nodup_collected named free once) each low (count ▸ high)) ?_
      intro b q out fb hb key hkey
      rw [Quorum.ends_group _ (List.ne_nil_of_length_pos (by omega))] at hkey
      obtain ⟨p, hp, mem⟩ := List.mem_flatMap.1 hkey
      obtain ⟨m, hm, node⟩ := (collected_iff named p).1 hp
      exact sound.apart m b p q (fun eq => out (eq ▸ hm)) (free m hm) fb node hb mem
  | quorum name q unset named =>
      refine ⟨sound.declared, sound.sound, sound.apart, fun p set => ?_⟩
      cases set
      exact sound.sound name q named

theorem run_sound (h : Run suite ds d) : d.Sound := by
  induction h with
  | start => exact new_sound
  | next _ step ih => exact step_sound step ih

end Draft

/-- Every policy has a quorum in which no end occurs twice, all witnesses are known and all
thresholds are in range. -/
theorem Policy.Made.sound {suite : Suite} {ds : List Declaration} {p : Policy}
    (h : Made suite ds p) : p.quorum.Sound p.witnesses := by
  obtain ⟨d, run, built⟩ := h.run
  obtain ⟨_, _, witnesses, quorum⟩ := Draft.build_ok_iff.1 built
  exact witnesses ▸ (Draft.run_sound run).quorum p.quorum quorum

end Witnessed
