import Witnessed.Suite
import Witnessed.Suite.Sha2
import Witnessed.Suite.Edwards

/-!
Ed25519 signatures, and the suite that tree heads are signed with in practice: Ed25519 and
SHA-256.
-/

namespace Witnessed.Ed25519

open Edwards

/-- A number below the group order from a SHA-512 digest. -/
def reduced (message : List UInt8) : Nat :=
  littleEndian (Sha2.digest Sha2.sha512 message) % order

/-- Checks a signature by computing its first half anew. That half is compared as bytes and
never read as a point; the second half has to be below the group order. A key that is no point
verifies nothing. -/
def verify (key : PublicKey) (message : List UInt8) (signature : Signature) : Bool :=
  let commitment := signature.bytes.take 32
  let s := littleEndian (signature.bytes.drop 32)
  match decompress? key.bytes with
  | none => false
  | some a =>
      let k := reduced (commitment ++ key.bytes ++ message)
      s < order && compress ((base.times s).plus (a.neg.times k)) == commitment

/-- The secret scalar: bits 0 to 2 and 255 are cleared and bit 254 is set. -/
def clamp (bytes : List UInt8) : Nat :=
  let n := littleEndian bytes
  let top := 1 <<< 254
  top + (n % top - n % 8)

/-- The signer whose secret is expanded from 32 bytes. It never fails, and signs a message
always the same way. -/
def signer (seed : Octets .privateKey) : Signer :=
  let expanded := Sha2.digest Sha2.sha512 seed.bytes
  let secret := clamp (expanded.take 32)
  let key : PublicKey := .take .publicKey (compress (base.times secret))
  { publicKey := key
    sign := fun message =>
      let nonce := reduced (expanded.drop 32 ++ message)
      let commitment := compress (base.times nonce)
      let k := reduced (commitment ++ key.bytes ++ message)
      .ok (.take .signature
        (commitment ++ toLittleEndian 32 ((nonce + k * secret) % order))) }

/-- The signer of a seed, which has to be 32 bytes. -/
def signerOfSeed (seed : List UInt8) : Except TreeHeadError Signer :=
  match Octets.ofBytes? .privateKey seed with
  | some seed => .ok (signer seed)
  | none =>
      .error (.invalidHex .privateKey ("expected 32 bytes, got " ++ toString seed.length))

end Witnessed.Ed25519

namespace Witnessed

def Suite.standard : Suite where
  digest := fun bytes => .take .hash (Sha2.digest Sha2.sha256 bytes)
  verify := Ed25519.verify

end Witnessed
