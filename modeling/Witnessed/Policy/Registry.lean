import Witnessed.KeyMap
import Witnessed.Policy.Action
import Witnessed.Policy.Draws
import Witnessed.Suite

/-!
Registries: the logs or the witnesses that a policy knows, each under the hash of its key.
-/

namespace Witnessed

/-- A log or a witness. -/
structure Entity where
  key : PublicKey
  /-- Where it can be reached, if that is known. -/
  url : Option String
  deriving DecidableEq

structure Registry where
  kind : EntityKind
  entities : KeyMap Entity
  deriving DecidableEq

namespace Registry

def empty (kind : EntityKind) : Registry := ⟨kind, .empty⟩

def find? (r : Registry) (key : KeyHash) : Option Entity :=
  r.entities.find? key

def contains (r : Registry) (key : KeyHash) : Bool :=
  r.entities.contains key

def size (r : Registry) : Nat :=
  r.entities.size

def keys (r : Registry) : List KeyHash :=
  r.entities.keys

/-- Puts an entity under the hash of its key; a second entity with that hash is refused. -/
def enter (suite : Suite) (entity : Entity) : Action Registry KeyHash := do
  let r ← get
  let key := suite.keyHash entity.key
  Action.refuseIf (r.contains key) (.duplicateKey r.kind key)
  set { r with entities := r.entities.insert key entity }
  return key

/-- The hash of an entity's key, and the registry with that entity in it. -/
def add (suite : Suite) (r : Registry) (entity : Entity) :
    Except PolicyError (KeyHash × Registry) :=
  match (enter suite entity).run r with
  | .ok key r => .ok (key, r)
  | .error e _ => .error e

/-- Whether an entity advertises where it can be reached. -/
def hasUrl (entity : Entity) : Bool :=
  match entity.url with
  | some url => url ≠ ""
  | none => false

/-- The given entities that have a URL, shuffled. They are first put in the order of their
keys, so that only the numbers drawn decide. -/
def listing {σ : Type} (source : Source σ) (entities : List Entity) (s : σ) :
    List Entity × σ :=
  shuffle source
    ((entities.filter hasUrl).mergeSort fun a b => decide (a.key < b.key ∨ a.key = b.key)) s

def withUrl {σ : Type} (source : Source σ) (r : Registry) (s : σ) : List Entity × σ :=
  listing source r.entities.values s

end Registry

end Witnessed
