import Witnessed.Checkpoint.Note
import Witnessed.Suite.Ed25519

/-!
Tree heads for trying things out, signed with keys that everyone can make anew, and on purpose
wrong where that is asked for.
-/

namespace Witnessed.Sample

/-- The time of a cosignature when it does not matter. -/
def defaultTime : UInt64 := 1700000000

def signer (seed : UInt8) : Signer :=
  Ed25519.signer (.fill .privateKey seed)

def log : Signer := signer 0x11

/-- The witness with the given number. -/
def witness? (index : Nat) : Option Signer :=
  if index ≤ 0xdf then some (signer (UInt8.ofNat (0x20 + index))) else none

structure Cosigner where
  signer : Signer
  time : UInt64
  /-- Whether the cosignature is to verify. -/
  genuine : Bool

structure Plan where
  log : Signer
  head : TreeHead
  cosigners : List Cosigner
  /-- Whether the log's signature is to verify. -/
  genuine : Bool

namespace Plan

/-- A small tree head without cosigners. -/
def ofLog (log : Signer) : Plan := ⟨log, ⟨42, .fill .hash 7⟩, [], true⟩

variable (suite : Suite) (plan : Plan)

def origin : String :=
  originOf (suite.keyHash plan.log.publicKey)

/-- The signature with one bit turned over. -/
def spoil (signature : Signature) : Signature :=
  .take .signature (signature.bytes.modifyHead (· ^^^ 1))

/-- A cosignature that is to fail was made for the next second. -/
def cosign (c : Cosigner) : Except TreeHeadError Cosignature := do
  let time := if c.genuine then c.time else c.time + 1
  let cosignature ← plan.head.cosign suite c.signer (plan.origin suite) time
  return { cosignature with time := c.time }

def addCosigners (head : CosignedTreeHead) :
    List Cosigner → Except TreeHeadError CosignedTreeHead
  | [] => .ok head
  | c :: rest => do addCosigners (← head.add (← plan.cosign suite c)) rest

def build : Except TreeHeadError CosignedTreeHead := do
  let signed ← plan.head.sign suite plan.log
  let signature := if plan.genuine then signed.signature else spoil signed.signature
  plan.addCosigners suite (.ofSigned { signed with signature }) plan.cosigners

/-- The checkpoint, followed by a signature line for each cosigner. -/
def checkpoint : Except TreeHeadError String := do
  let head ← plan.build suite
  let lines := plan.cosigners.zipIdx.map fun (c, i) =>
    let key := c.signer.publicKey
    match head.cosignatures.find? (suite.keyHash key) with
    | some cosignature =>
        cosignature.line suite ("witness-" ++ toString i ++ ".example.org") key
    | none => ""
  return (Checkpoint.forLog suite head.signed plan.log.publicKey).render ++ String.join lines

end Plan

end Witnessed.Sample
