import Witnessed.Policy.Script

/-!
The policy in force. It is replaced as a whole; whoever holds the one before keeps it.
-/

namespace Witnessed

structure Store where
  current : Policy

namespace Store

/-- Installs a policy and hands back the one that it replaces. -/
def replace (store : Store) (policy : Policy) : Policy × Store :=
  (store.current, ⟨policy⟩)

/-- Installs the policy that a text holds. A text that holds none changes nothing. -/
def reload (suite : Suite) (store : Store) (bytes : List UInt8) :
    Except PolicyError Policy × Store :=
  match Policy.parse suite bytes with
  | .error e => (.error e, store)
  | .ok policy => ((store.replace policy).map .ok id)

end Store

/-- A store, and the policies that were taken from it so far, in order. -/
structure Session where
  store : Store
  held : List Policy

namespace Session

def start (policy : Policy) : Session := ⟨⟨policy⟩, []⟩

/-- Takes hold of the policy in force; gives the number of the hold. -/
def hold (s : Session) : Nat × Session :=
  (s.held.length, { s with held := s.held ++ [s.store.current] })

def reload (suite : Suite) (s : Session) (bytes : List UInt8) :
    Except PolicyError Policy × Session :=
  (s.store.reload suite bytes).map id fun store => { s with store }

end Session

end Witnessed
