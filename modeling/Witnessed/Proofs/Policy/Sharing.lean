import Mathlib.Logic.Function.Basic
import Witnessed.Policy.Store
import Witnessed.Proofs.Policy.Verdict

/-!
A store that clients share. Each client makes its calls one after the other, and the calls of all
clients come in any order. No policy gets lost on the way and none is handed back twice, and a
client that has taken hold of a policy is judged by that policy, whatever is installed later.
-/

namespace Witnessed

/-- What a client may ask for. A hold goes by the number that was given for it. -/
inductive Call
  | hold
  | replace (policy : Policy)
  | reload (bytes : List UInt8)
  | verify (hold : Nat) (log : KeyHash) (head : CosignedTreeHead)

inductive Answer
  | held (hold : Nat)
  | replaced (previous : Policy)
  | refused (error : PolicyError)
  | judged (verdict : Except VerifyError Report)
  | unheld

/-- Answers the call of one client. -/
def Session.answer (suite : Suite) (s : Session) : Call → Answer × Session
  | .hold => s.hold.map .held id
  | .replace policy => (s.store.replace policy).map .replaced fun store => { s with store }
  | .reload bytes =>
      match s.reload suite bytes with
      | (.ok previous, s) => (.replaced previous, s)
      | (.error e, s) => (.refused e, s)
  | .verify hold log head =>
      match s.held[hold]? with
      | some policy => (.judged (policy.verify suite log head), s)
      | none => (.unheld, s)

/-- The policy that a call installs. -/
def Call.installs? (suite : Suite) : Call → Option Policy
  | .replace policy => some policy
  | .reload bytes => (Policy.parse suite bytes).toOption
  | .hold | .verify .. => none

/-- The policy that an answer hands back. -/
def Answer.returns? : Answer → Option Policy
  | .replaced previous => some previous
  | .held _ | .refused _ | .judged _ | .unheld => none

/-- A store, and the policies that each client has taken from it, in order. -/
structure Shared (Client : Type) where
  store : Store
  held : Client → List Policy

namespace Shared

variable {Client : Type}

def start (policy : Policy) : Shared Client := ⟨⟨policy⟩, fun _ => []⟩

/-- The policies that the calls install, in order. -/
def installed (suite : Suite) (schedule : List (Client × Call)) : List Policy :=
  schedule.filterMap fun x => x.2.installs? suite

/-- The policies that the answers hand back, in order. -/
def returned (answers : List Answer) : List Policy :=
  answers.filterMap Answer.returns?

variable [DecidableEq Client]

/-- The call of a client touches the store and what this client holds. -/
def step (suite : Suite) (s : Shared Client) (client : Client) (call : Call) :
    Answer × Shared Client :=
  (Session.answer suite ⟨s.store, s.held client⟩ call).map id fun session =>
    ⟨session.store, Function.update s.held client session.held⟩

def after (suite : Suite) (s : Shared Client) (schedule : List (Client × Call)) : Shared Client :=
  schedule.foldl (fun s x => (s.step suite x.1 x.2).2) s

/-- What the calls are answered, one after the other. -/
def answers (suite : Suite) : Shared Client → List (Client × Call) → List Answer
  | _, [] => []
  | s, (client, call) :: rest =>
      (s.step suite client call).1 :: answers suite (s.step suite client call).2 rest

variable {suite : Suite} {s : Shared Client} {client : Client} {schedule : List (Client × Call)}

/-! ## One call -/

/-- A call hands back the policy in force when it installs another, and nothing otherwise. -/
theorem step_conserves (s : Shared Client) (client : Client) (call : Call) :
    (s.step suite client call).1.returns?.toList ++ [(s.step suite client call).2.store.current] =
      s.store.current :: (call.installs? suite).toList := by
  cases call with
  | hold | replace policy => rfl
  | reload bytes =>
      cases read : Policy.parse suite bytes <;>
        simp [step, Session.answer, Session.reload, Store.reload, Store.replace, Call.installs?,
          Answer.returns?, Except.toOption, read]
  | verify hold log head =>
      cases taken : (s.held client)[hold]? <;>
        simp [step, Session.answer, Call.installs?, Answer.returns?, taken]

theorem step_reload {bytes : List UInt8} {e : PolicyError}
    (unread : Policy.parse suite bytes = .error e) :
    s.step suite client (.reload bytes) = (.refused e, s) := by
  simp [step, Session.answer, Session.reload, Store.reload, unread]

theorem step_hold (s : Shared Client) (client : Client) :
    (s.step suite client .hold).1 = .held (s.held client).length ∧
      (s.step suite client .hold).2.held client = s.held client ++ [s.store.current] := by
  simp [step, Session.answer, Session.hold]

theorem step_verify {hold : Nat} {policy : Policy} {log : KeyHash} {head : CosignedTreeHead}
    (taken : (s.held client)[hold]? = some policy) :
    (s.step suite client (.verify hold log head)).1 = .judged (policy.verify suite log head) := by
  simp [step, Session.answer, taken]

/-- A call takes no hold back. -/
theorem held_prefix_answer (s : Session) (call : Call) :
    s.held <+: (s.answer suite call).2.held := by
  cases call with
  | hold => exact List.prefix_append s.held [s.store.current]
  | replace policy => exact List.prefix_rfl
  | reload bytes =>
      cases read : Policy.parse suite bytes <;>
        simp [Session.answer, Session.reload, Store.reload, Store.replace, read]
  | verify hold log head =>
      cases taken : s.held[hold]? <;> simp [Session.answer, taken]

theorem held_prefix_step (s : Shared Client) (client other : Client) (call : Call) :
    s.held client <+: (s.step suite other call).2.held client := by
  by_cases same : client = other
  · subst same
    have kept := @held_prefix_answer suite ⟨s.store, s.held client⟩ call
    simpa [step] using kept
  · simp [step, same]

/-! ## Runs -/

theorem after_cons (x : Client × Call) (rest : List (Client × Call)) :
    s.after suite (x :: rest) = (s.step suite x.1 x.2).2.after suite rest :=
  rfl

theorem after_append (xs ys : List (Client × Call)) :
    s.after suite (xs ++ ys) = (s.after suite xs).after suite ys :=
  List.foldl_append

theorem after_take_succ {i : Nat} {call : Call} (next : schedule[i]? = some (client, call)) :
    s.after suite (schedule.take (i + 1)) =
      ((s.after suite (schedule.take i)).step suite client call).2 := by
  rw [List.take_add_one, next, after_append]
  rfl

theorem getElem?_answers (s : Shared Client) (schedule : List (Client × Call)) (i : Nat) :
    (s.answers suite schedule)[i]? =
      schedule[i]?.map fun x => ((s.after suite (schedule.take i)).step suite x.1 x.2).1 := by
  induction schedule generalizing s i with
  | nil => rfl
  | cons x rest ih =>
      cases i with
      | zero => rfl
      | succ i => exact ih _ i

/-- What was handed back and what is in force is what there was and what was installed. -/
theorem returned_current (s : Shared Client) (schedule : List (Client × Call)) :
    returned (s.answers suite schedule) ++ [(s.after suite schedule).store.current] =
      s.store.current :: installed suite schedule := by
  induction schedule generalizing s with
  | nil => rfl
  | cons x rest ih =>
      have returned_cons : ∀ answer others,
          returned (answer :: others) = answer.returns?.toList ++ returned others := by
        intro answer others
        cases back : answer.returns? <;> simp [returned, back]
      have installed_cons :
          installed suite (x :: rest) = (x.2.installs? suite).toList ++ installed suite rest := by
        cases new : x.2.installs? suite <;> simp [installed, new]
      rw [answers, after_cons, returned_cons, List.append_assoc, ih, installed_cons,
        ← List.cons_append, ← step_conserves s x.1 x.2, List.append_assoc, List.singleton_append]

theorem held_prefix_after (s : Shared Client) (client : Client)
    (schedule : List (Client × Call)) :
    s.held client <+: (s.after suite schedule).held client := by
  induction schedule generalizing s with
  | nil => exact List.prefix_rfl
  | cons x rest ih => exact (held_prefix_step s client x.1 x.2).trans (ih _)

/-- A hold goes on standing for the policy that was in force when it was taken. -/
theorem held_later {i j : Nat} (taken : schedule[i]? = some (client, .hold)) (later : i < j) :
    let before := s.after suite (schedule.take i)
    ((s.after suite (schedule.take j)).held client)[(before.held client).length]? =
      some before.store.current := by
  intro before
  have early : (schedule.take j).take (i + 1) = schedule.take (i + 1) := by
    rw [List.take_take, Nat.min_eq_left later]
  obtain ⟨others, kept⟩ := @held_prefix_after _ _ suite (before.step suite client .hold).2 client
    ((schedule.take j).drop (i + 1))
  rw [← List.take_append_drop (i + 1) (schedule.take j), early, after_append,
    after_take_succ taken, ← kept, (step_hold before client).2, List.append_assoc,
    List.getElem?_append_right (Nat.le_refl _), Nat.sub_self]
  rfl

/-- The policies that are handed back, and after them the one in force, are the first policy and
those that were installed, in order. A text that holds no policy changes nothing, and whoever took
hold of a policy gets its verdicts, as they were when the hold was taken. -/
theorem keeps_policies (suite : Suite) (initial : Policy) (schedule : List (Client × Call)) :
    let answers := (start initial).answers suite schedule
    let before := fun i => (start initial).after suite (schedule.take i)
    returned answers ++ [((start initial).after suite schedule).store.current] =
      initial :: installed suite schedule ∧
    (∀ (i : Nat) (client : Client) (bytes : List UInt8) (e : PolicyError),
      schedule[i]? = some (client, .reload bytes) → Policy.parse suite bytes = .error e →
        answers[i]? = some (.refused e) ∧ before (i + 1) = before i) ∧
    ∀ (i : Nat) (client : Client), schedule[i]? = some (client, .hold) →
      ∃ hold, answers[i]? = some (.held hold) ∧
        ∀ (j : Nat) (log : KeyHash) (head : CosignedTreeHead), i < j →
          schedule[j]? = some (client, .verify hold log head) →
            answers[j]? = some (.judged ((before i).store.current.verify suite log head)) := by
  intro answers before
  have answered : ∀ i, answers[i]? =
      schedule[i]?.map fun x => ((before i).step suite x.1 x.2).1 :=
    getElem?_answers (start initial) schedule
  refine ⟨returned_current (start initial) schedule, ?_, ?_⟩
  · intro i client bytes e call unread
    have step := @step_reload _ _ suite (before i) client _ _ unread
    constructor
    · rw [answered, call, Option.map_some, step]
    · exact (after_take_succ call).trans (congrArg Prod.snd step)
  · intro i client call
    refine ⟨((before i).held client).length, ?_, ?_⟩
    · rw [answered, call, Option.map_some, (step_hold (before i) client).1]
    · intro j log head later use
      rw [answered, use, Option.map_some, step_verify (held_later call later)]

/-- One client takes hold of a policy, and another one installs a policy that knows no log. The
first is still judged by the policy that it holds, and the text that holds none changes nothing. -/
theorem keeps_policies_nested :
    let bare : Policy := ⟨.empty .log, .empty .witness, .none⟩
    let log := Suite.plain.keyHash (.fill .publicKey 1)
    let schedule : List (Bool × Call) :=
      [(true, .hold), (false, .replace bare), (false, .reload [1]), (false, .hold),
        (true, .verify 0 log Policy.cosignedByThree)]
    ∃ p, Policy.Made .plain nestedDeclarations p ∧
      let answers := (start p).answers .plain schedule
      returned answers ++ [((start p).after .plain schedule).store.current] = [p, bare] ∧
      answers[2]? = some (.refused (.atLine 1 (.invalidCharacter '\x01'))) ∧
      answers[4]? = some (.judged (.ok ⟨3, 1, 1, 1⟩)) := by
  intro bare log schedule
  have made : Policy.Made .plain nestedDeclarations _ := .built nestedDeclarations rfl
  obtain ⟨conserved, unread, isolated⟩ := keeps_policies .plain _ schedule
  obtain ⟨hold, ⟨⟩, judged⟩ := isolated 0 true rfl
  have refused := (unread 2 false [1] _ rfl rfl).1
  exact ⟨_, made, conserved, refused, judged 4 log Policy.cosignedByThree (by decide) rfl⟩

end Shared

end Witnessed
