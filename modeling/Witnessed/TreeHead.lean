import Witnessed.KeyMap
import Witnessed.Suite
import Witnessed.Text.Base64
import Witnessed.Text.Decimal

/-!
Tree heads, the log's signature on them, and the cosignatures of witnesses.

A log signs three lines: its origin, the tree size and the root hash. A witness signs the same
lines under two more, which fix the role and the time, so that no message of one role is a
message of the other.
-/

namespace Witnessed

/-- A log's claim about its state: a number of leaves and the root over them. -/
structure TreeHead where
  size : UInt64
  root : Hash
  deriving DecidableEq

/-- The origin of the log with the given key hash. -/
def originOf (log : KeyHash) : String :=
  "sigsum.org/v1/tree/" ++ log.hex

namespace TreeHead

/-- The message that a log signs. -/
def body (head : TreeHead) (origin : String) : List Char :=
  origin.toList ++ '\n' :: Decimal.render head.size.toNat ++ '\n' ::
    Base64.encode head.root.bytes ++ ['\n']

/-- The message that a witness signs at `time`. -/
def cosigned (head : TreeHead) (origin : String) (time : UInt64) : List Char :=
  "cosignature/v1\ntime ".toList ++ Decimal.render time.toNat ++ '\n' :: head.body origin

end TreeHead

structure SignedTreeHead where
  head : TreeHead
  signature : Signature
  deriving DecidableEq

/-- The endorsement of a tree head by the witness with the given key hash. -/
structure Cosignature where
  witness : KeyHash
  /-- Seconds since 1970. -/
  time : UInt64
  signature : Signature
  deriving DecidableEq

def TreeHead.signFor (head : TreeHead) (signer : Signer) (origin : String) :
    Except TreeHeadError SignedTreeHead :=
  (signer.sign (utf8 (head.body origin))).map fun signature => ⟨head, signature⟩

/-- Signs as the log that owns the signer's key. -/
def TreeHead.sign (suite : Suite) (head : TreeHead) (signer : Signer) :
    Except TreeHeadError SignedTreeHead :=
  head.signFor signer (originOf (suite.keyHash signer.publicKey))

def TreeHead.cosign (suite : Suite) (head : TreeHead) (signer : Signer) (origin : String)
    (time : UInt64) : Except TreeHeadError Cosignature :=
  (signer.sign (utf8 (head.cosigned origin time))).map fun signature =>
    ⟨suite.keyHash signer.publicKey, time, signature⟩

def SignedTreeHead.verifyFor (suite : Suite) (signed : SignedTreeHead) (key : PublicKey)
    (origin : String) : Bool :=
  suite.verify key (utf8 (signed.head.body origin)) signed.signature

/-- Checks the signature under the origin that belongs to the key. -/
def SignedTreeHead.verify (suite : Suite) (signed : SignedTreeHead) (key : PublicKey) : Bool :=
  signed.verifyFor suite key (originOf (suite.keyHash key))

def Cosignature.verify (suite : Suite) (cosignature : Cosignature) (key : PublicKey)
    (origin : String) (head : TreeHead) : Bool :=
  suite.verify key (utf8 (head.cosigned origin cosignature.time)) cosignature.signature

/-- A signed tree head and at most one cosignature of each witness, whether or not anyone
knows the witness. -/
structure CosignedTreeHead where
  signed : SignedTreeHead
  cosignatures : KeyMap Cosignature
  deriving DecidableEq

namespace CosignedTreeHead

def ofSigned (signed : SignedTreeHead) : CosignedTreeHead := ⟨signed, .empty⟩

/-- Puts a cosignature in place, under the key hash of its witness. The first one of each witness
stays, and a second one is refused. -/
def enter (cosignature : Cosignature) : EStateM TreeHeadError CosignedTreeHead Unit := do
  let head ← get
  if head.cosignatures.contains cosignature.witness then
    throw (.duplicateCosignature cosignature.witness)
  set { head with
    cosignatures := head.cosignatures.insert cosignature.witness cosignature }

/-- The tree head with one more cosignature. -/
def add (head : CosignedTreeHead) (cosignature : Cosignature) :
    Except TreeHeadError CosignedTreeHead :=
  match (enter cosignature).run head with
  | .ok _ head => .ok head
  | .error e _ => .error e

def addAll (head : CosignedTreeHead) : List Cosignature → Except TreeHeadError CosignedTreeHead
  | [] => .ok head
  | cosignature :: rest => do (← head.add cosignature).addAll rest

def ofList (signed : SignedTreeHead) (cosignatures : List Cosignature) :
    Except TreeHeadError CosignedTreeHead :=
  (ofSigned signed).addAll cosignatures

end CosignedTreeHead

end Witnessed
