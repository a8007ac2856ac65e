import Witnessed.Proofs.Policy.Declarations

/-!
The order of declarations. A draft resolves every name at once, so that names have to be declared
before they are used; but of all the orders that it accepts it makes the same policy. Nothing that
comes after the quorum has been set changes it.
-/

namespace Witnessed

variable {suite : Suite} {ds ds' : List Declaration}

namespace Draft

variable {d d' : Draft} {x : Declaration} {q : Quorum}

/-! ## What no later declaration changes -/

theorem step_quorum (h : Step suite d x d') (set : d.quorum = some q) : d'.quorum = some q := by
  cases h with
  | log | witness | group => exact set
  | quorum name other unset named =>
      rw [unset] at set
      contradiction

theorem declare_quorum (set : d.quorum = some q) : (d.declare suite x).2.quorum = some q := by
  rcases taken : d.declare suite x with ⟨answer, d'⟩
  cases answer with
  | ok key => exact step_quorum (declare_ok_iff.1 ⟨key, taken⟩).2 set
  | error e =>
      rw [declare_of_refused taken]
      exact set

theorem declareAll_quorum (set : d.quorum = some q) : (d.declareAll suite ds).quorum = some q := by
  induction ds generalizing d with
  | nil => exact set
  | cons x rest ih =>
      rw [declareAll_cons]
      exact ih (declare_quorum set)

/-- Once the quorum is set, a policy can be made, and it has the quorum of every later one. -/
theorem build_quorum_of_append {p : Policy} {later : List Declaration}
    (set : quorumsOf ds ≠ []) (built : (new.declareAll suite (ds ++ later)).build = .ok p) :
    ∃ earlier, (new.declareAll suite ds).build = .ok earlier ∧ earlier.quorum = p.quorum := by
  rw [declareAll_append] at built
  obtain ⟨good, _, _, last⟩ := build_ok_iff.1 built
  have early := good_of_declareAll good
  have run : Run suite ds (new.declareAll suite ds) := Run.start.declareAll early
  obtain ⟨q, first⟩ := Option.ne_none_iff_exists'.1 fun none => set ((quorum_of_run run).1 none)
  rw [declareAll_quorum first, Option.some.injEq] at last
  exact ⟨⟨_, _, q⟩, build_ok_iff.2 ⟨early, rfl, rfl, first⟩, last⟩

/-! ## What the order does not change -/

theorem kinds_of_run (h : Run suite ds d) : d.logs.kind = .log ∧ d.witnesses.kind = .witness := by
  induction h with
  | start => exact ⟨rfl, rfl⟩
  | next _ step ih => cases step <;> exact ih

/-- What a name stands for depends on the declarations alone. -/
theorem expands_perm (perm : ds.Perm ds') {name : String} :
    Expands suite ds name q ↔ Expands suite ds' name q :=
  ⟨fun h => h.mono perm.subset, fun h => h.mono perm.symm.subset⟩

/-- Runs over the same declarations end with the same registries, and with the same quorum once
both have set it. -/
theorem Run.eq_of_perm {q' : Quorum} (h : Run suite ds d) (h' : Run suite ds' d')
    (orderly : Orderly suite ds) (perm : ds.Perm ds') (set : d.quorum = some q)
    (set' : d'.quorum = some q') :
    d.logs = d'.logs ∧ d.witnesses = d'.witnesses ∧ q = q' := by
  obtain ⟨logKind, witnessKind⟩ := kinds_of_run h
  obtain ⟨logKind', witnessKind'⟩ := kinds_of_run h'
  have logs : (logsOf ds).Perm (logsOf ds') := perm.filterMap _
  have witnesses : (witnessesOf ds).Perm (witnessesOf ds') := perm.filterMap _
  have quorums : (quorumsOf ds).Perm (quorumsOf ds') := perm.filterMap _
  obtain ⟨name, only, expands⟩ := quorum_expands_of_run h set
  obtain ⟨name', only', expands'⟩ := quorum_expands_of_run h' set'
  -- the one name that was set is the same, and it stands for one quorum only
  have same : name = name' := by
    rw [only, only'] at quorums
    exact List.singleton_perm_singleton.1 quorums
  subst name'
  refine ⟨?_, ?_, ?_⟩
  · exact h.logs.ext h'.logs (logKind.trans logKind'.symm) fun _ => logs.mem_iff
  · exact h.witnesses.ext h'.witnesses (witnessKind.trans witnessKind'.symm)
      fun _ => witnesses.mem_iff
  · exact orderly.expands_unique expands ((expands_perm perm).2 expands')

/-- However declarations are ordered, if they are accepted they make the same policy, and it has
the quorum that could be had as soon as it was set. -/
theorem same_policy_of_perm (suite : Suite) :
    (∀ ds ds' p p', ds.Perm ds' → (new.declareAll suite ds).build = .ok p →
      (new.declareAll suite ds').build = .ok p' → p = p') ∧
    ∀ before name after p,
      (new.declareAll suite (before ++ .quorum name :: after)).build = .ok p →
      ∃ earlier, (new.declareAll suite (before ++ [.quorum name])).build = .ok earlier ∧
        earlier.quorum = p.quorum := by
  constructor
  · rintro ds ds' ⟨_, _, q⟩ ⟨_, _, q'⟩ perm built built'
    obtain ⟨good, rfl, rfl, set⟩ := build_ok_iff.1 built
    obtain ⟨good', rfl, rfl, set'⟩ := build_ok_iff.1 built'
    have run : Run suite ds (new.declareAll suite ds) := Run.start.declareAll good
    have run' : Run suite ds' (new.declareAll suite ds') := Run.start.declareAll good'
    have orderly := (takes_iff.1 ((good_iff_takes rfl).1 good)).1
    rw [Policy.mk.injEq]
    exact run.eq_of_perm run' orderly perm set set'
  · intro before name after p built
    have set : quorumsOf (before ++ [.quorum name]) ≠ [] := by
      simp [quorumsOf_concat]
    apply build_quorum_of_append set
    rwa [List.append_assoc]

/-- The same declarations in another order. The last two come after the quorum has been set. -/
def reorderedDeclarations : List Declaration :=
  [.witness "c" (.filled 4), .witness "b" (.filled 3), .group "inner" .any ["b", "c"],
    .witness "a" (.filled 2), .group "outer" (.count 2) ["none", "inner", "a"], .quorum "outer",
    .log (.filled 1)]

theorem same_policy_of_perm_nested :
    ∃ p p' earlier, nestedDeclarations.Perm reorderedDeclarations ∧
      (new.declareAll .plain nestedDeclarations).build = .ok p ∧
      (new.declareAll .plain reorderedDeclarations).build = .ok p' ∧ p = p' ∧
      (new.declareAll .plain (reorderedDeclarations.take 6)).build = .ok earlier ∧
      earlier.logs ≠ p'.logs ∧ earlier.quorum = p'.quorum := by
  obtain ⟨confluent, settled⟩ := same_policy_of_perm .plain
  have perm : nestedDeclarations.Perm reorderedDeclarations := by decide
  have built : (new.declareAll .plain nestedDeclarations).build = .ok _ := rfl
  have built' : (new.declareAll .plain reorderedDeclarations).build = .ok _ := rfl
  obtain ⟨earlier, early, same⟩ :=
    settled (reorderedDeclarations.take 5) "outer" [.log (.filled 1)] _ built'
  refine ⟨_, _, earlier, perm, built, built', confluent _ _ _ _ perm built built', early, ?_, same⟩
  cases early
  decide

end Draft

end Witnessed
