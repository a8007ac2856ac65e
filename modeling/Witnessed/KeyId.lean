import Witnessed.Suite

/-!
Key ids: four bytes that help a reader of a signature line to pick the key. They depend on the
name, the kind of signature and the key.
-/

namespace Witnessed

inductive SignatureType
  /-- A log's signature over its own tree head. -/
  | ed25519
  /-- A witness's cosignature. -/
  | cosignature
  deriving DecidableEq, Repr

def SignatureType.byte : SignatureType → UInt8
  | .ed25519 => 0x01
  | .cosignature => 0x04

def SignatureType.ofByte (byte : UInt8) : Except TreeHeadError SignatureType :=
  if byte = 0x01 then .ok .ed25519
  else if byte = 0x04 then .ok .cosignature
  else .error (.signatureType byte)

/-- The first bytes of the digest of the name, a line feed, the type and the key. -/
def Suite.keyId (suite : Suite) (name : String) (type : SignatureType) (key : PublicKey) :
    KeyId :=
  .take .keyId (suite.digest (bytesOf name ++ 10 :: type.byte :: key.bytes)).bytes

end Witnessed
