import Witnessed.TreeHead.Error

/-!
The cryptography that tree heads and policies rest on, as a parameter: everything below asks
for a digest and a signature check and relies on nothing else about them.
-/

namespace Witnessed

structure Suite where
  digest : List UInt8 → Hash
  verify : PublicKey → List UInt8 → Signature → Bool

/-- The name of a key: the digest of its bytes. -/
def Suite.keyHash (suite : Suite) (key : PublicKey) : KeyHash :=
  ⟨(suite.digest key.bytes).bytes, (suite.digest key.bytes).length_bytes⟩

/-- The capability to sign with one key. -/
structure Signer where
  publicKey : PublicKey
  sign : List UInt8 → Except TreeHeadError Signature

end Witnessed
