import Witnessed.Policy.Registry
import Witnessed.Policy.Threshold
import Witnessed.Quorum

/-!
Policies and how they come about. A draft takes declarations one by one: logs, witnesses, groups
over what was declared before, and the quorum. A witness or a group is a member of at most one
group, so no witness counts on two branches of a quorum. After the first refused declaration a
draft is of no use any more.
-/

namespace Witnessed

structure Policy where
  logs : Registry
  witnesses : Registry
  quorum : Quorum

namespace Policy

def log? (p : Policy) (key : KeyHash) : Option Entity :=
  p.logs.find? key

def witness? (p : Policy) (key : KeyHash) : Option Entity :=
  p.witnesses.find? key

end Policy

inductive Declaration
  | log (entity : Entity)
  | witness (name : String) (entity : Entity)
  | group (name : String) (threshold : Threshold) (members : List String)
  | quorum (name : String)
  deriving DecidableEq

structure Draft where
  logs : Registry
  witnesses : Registry
  /-- What each declared name stands for, the latest first. -/
  nodes : List (String × Quorum)
  /-- The group that each member belongs to. -/
  memberOf : List (String × String)
  quorum : Option Quorum
  poisoned : Bool

namespace Draft

/-- A draft in which only the empty group has a name. -/
def new : Draft :=
  { logs := .empty .log, witnesses := .empty .witness, nodes := [("none", .none)],
    memberOf := [], quorum := none, poisoned := false }

def node? (d : Draft) (name : String) : Option Quorum :=
  d.nodes.lookup name

/-- Refuses a name that is taken. -/
def ensureNew (name : String) : Action Draft Unit := do
  Action.refuseIf ((← get).node? name).isSome (.duplicateName name)

def addLog (suite : Suite) (entity : Entity) : Action Draft KeyHash :=
  Action.within (·.logs) (fun d logs => { d with logs }) (Registry.enter suite entity)

def addWitness (suite : Suite) (name : String) (entity : Entity) : Action Draft KeyHash := do
  ensureNew name
  let key ← Action.within (·.witnesses) (fun d witnesses => { d with witnesses })
    (Registry.enter suite entity)
  modify fun d => { d with nodes := (name, .witness key) :: d.nodes }
  return key

/-- The nodes of the members of a new group. Each has to be declared, free, and not among those
already `listed`. -/
def collect (d : Draft) (group : String) (listed : List String) :
    List String → Except PolicyError (List Quorum)
  | [] => .ok []
  | member :: rest =>
      match d.node? member, d.memberOf.lookup member with
      | none, _ => .error (.undefinedName member)
      | some _, some other => .error (.alreadyMember member other)
      | some node, none =>
          if member ∈ listed then .error (.alreadyMember member group)
          else do return node :: (← d.collect group (member :: listed) rest)

def addGroup (name : String) (threshold : Threshold) (members : List String) :
    Action Draft Unit := do
  ensureNew name
  let required := threshold.resolve members.length
  Action.refuseIf (required < 1 ∨ members.length < required)
    (.invalidThreshold (String.ofList threshold.render) members.length)
  let nodes ← Action.ofResult ((← get).collect name [] members)
  modify fun d => { d with memberOf := members.map (·, name) ++ d.memberOf }
  modify fun d => { d with nodes := (name, .group required nodes) :: d.nodes }

def setQuorum (name : String) : Action Draft Unit := do
  let d ← get
  Action.refuseIf d.quorum.isSome .quorumAlreadySet
  match d.node? name with
  | none => throw (.undefinedName name)
  | some node => set { d with quorum := some node }

/-- What a declaration does to a draft that is still good. The answer is the hash of the key that
it adds, if it adds one. -/
def apply (suite : Suite) : Declaration → Action Draft (Option KeyHash)
  | .log entity => do return some (← addLog suite entity)
  | .witness name entity => do return some (← addWitness suite name entity)
  | .group name threshold members => do
      addGroup name threshold members
      return none
  | .quorum name => do
      setQuorum name
      return none

/-- Poisons the draft when the action fails. -/
def track {α : Type} (action : Action Draft α) : Action Draft α := fun d =>
  match action.run d with
  | .ok a d => .ok a d
  | .error e d => .error e { d with poisoned := true }

/-- Takes a declaration, unless an earlier one was refused. -/
def declare (suite : Suite) (d : Draft) (declaration : Declaration) :
    Except PolicyError (Option KeyHash) × Draft :=
  if d.poisoned then (.error .poisoned, d)
  else
    match (track (apply suite declaration)).run d with
    | .ok key d => (.ok key, d)
    | .error e d => (.error e, d)

def build (d : Draft) : Except PolicyError Policy :=
  if d.poisoned then .error .poisoned
  else
    match d.quorum with
    | none => .error .missingQuorum
    | some quorum => .ok ⟨d.logs, d.witnesses, quorum⟩

end Draft

end Witnessed
