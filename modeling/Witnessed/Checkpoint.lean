import Witnessed.KeyId
import Witnessed.TreeHead

/-!
Checkpoints: a signed tree head under an origin, with the id of the key that signed it.
-/

namespace Witnessed

structure Checkpoint where
  /-- Names the log, and the key on its signature line. -/
  origin : String
  signed : SignedTreeHead
  keyId : KeyId
  deriving DecidableEq

inductive CheckpointError
  | missingNewline (line : Nat)
  | malformedHeader (line : Nat) (reason : String)
  | malformedSignatureLine (line : Nat) (reason : String)
  | tooManySignatures (max : Nat)
  | missingSignature (origin : String)
  | duplicateSignature (line : Nat)
  | trailingData (line : Nat)
  | keyIdMismatch (expected found : KeyId)
  | invalidSignature
  deriving DecidableEq

namespace CheckpointError

def code : CheckpointError → String
  | .missingNewline .. => "E1001"
  | .malformedHeader .. => "E1002"
  | .malformedSignatureLine .. => "E1003"
  | .tooManySignatures .. => "E1004"
  | .missingSignature .. => "E1005"
  | .duplicateSignature .. => "E1006"
  | .trailingData .. => "E1007"
  | .keyIdMismatch .. => "E1008"
  | .invalidSignature => "E1009"

def text : CheckpointError → String
  | .missingNewline line =>
      "Missing newline: line " ++ toString line ++ " is not newline-terminated"
  | .malformedHeader line reason => "Malformed header: line " ++ toString line ++ ": " ++ reason
  | .malformedSignatureLine line reason =>
      "Malformed signature line " ++ toString line ++ ": " ++ reason
  | .tooManySignatures max => "Too many signature lines: more than " ++ toString max
  | .missingSignature origin =>
      "Missing signature: no log signature line for origin " ++ origin
  | .duplicateSignature line =>
      "Duplicate signature: line " ++ toString line ++ " repeats the log signature"
  | .trailingData line => "Trailing data at line " ++ toString line
  | .keyIdMismatch expected found =>
      "Key id mismatch: expected " ++ expected.hex ++ ", found " ++ found.hex
  | .invalidSignature => "Invalid signature: checkpoint signature does not verify"

def message (e : CheckpointError) : String :=
  "[" ++ e.code ++ "] " ++ e.text

/-- Whether the checkpoint was well formed and its signature was the trouble. -/
def isRejection : CheckpointError → Bool
  | .keyIdMismatch .. | .invalidSignature => true
  | _ => false

end CheckpointError

namespace Checkpoint

/-- Puts a signed tree head under the origin and the key id that belong to the log's key. -/
def forLog (suite : Suite) (signed : SignedTreeHead) (key : PublicKey) : Checkpoint :=
  let origin := originOf (suite.keyHash key)
  ⟨origin, signed, suite.keyId origin .ed25519 key⟩

/-- Checks the key id, then the signature. -/
def verify (suite : Suite) (c : Checkpoint) (key : PublicKey) : Except CheckpointError Unit :=
  let expected := suite.keyId c.origin .ed25519 key
  if expected ≠ c.keyId then .error (.keyIdMismatch expected c.keyId)
  else if c.signed.verifyFor suite key c.origin then .ok ()
  else .error .invalidSignature

end Checkpoint

end Witnessed
