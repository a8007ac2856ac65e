import Witnessed.Octets
import Witnessed.Text.Quoted

/-!
What can go wrong between bytes and tree heads: values that do not decode, a signer that
fails, and malformed or repeated lines.
-/

namespace Witnessed

inductive TreeHeadError
  | invalidHex (kind : Kind) (reason : String)
  | keyIdLength (found : Nat)
  | signatureType (byte : UInt8)
  | signingFailed (reason : String)
  | malformedLine (line : Nat) (reason : String)
  | duplicateCosignature (witness : KeyHash)
  deriving DecidableEq

def hexFaultText : Hex.Fault → String
  | .oddLength => "Odd number of digits"
  | .wrongLength => "Invalid string length"
  | .badDigit byte position =>
      "Invalid character " ++ Quoted.char (Char.ofNat byte.toNat) ++ " at position " ++
        toString position

namespace TreeHeadError

def code : TreeHeadError → String
  | .invalidHex .. => "E0001"
  | .keyIdLength .. => "E0002"
  | .signatureType .. => "E0003"
  | .signingFailed .. => "E0004"
  | .malformedLine .. => "E0005"
  | .duplicateCosignature .. => "E0006"

def text : TreeHeadError → String
  | .invalidHex kind reason => "Invalid " ++ kind.label ++ ": " ++ reason
  | .keyIdLength found => "Invalid key id length: expected 4 bytes, got " ++ toString found
  | .signatureType byte => "Unsupported signature type 0x" ++ String.ofList (Hex.encode [byte])
  | .signingFailed reason => "Signing failed: " ++ reason
  | .malformedLine line reason => "Line " ++ toString line ++ ": " ++ reason
  | .duplicateCosignature witness => "Duplicate cosignature from witness " ++ witness.hex

def message (e : TreeHeadError) : String :=
  "[" ++ e.code ++ "] " ++ e.text

/-- Whether the input is at fault, and not the signer. -/
def blamesInput : TreeHeadError → Bool
  | .signingFailed _ => false
  | _ => true

end TreeHeadError

/-- Reads a value of the given kind from hexadecimal in either letter case. -/
def Octets.ofHex (kind : Kind) (cs : List Char) : Except TreeHeadError (Octets kind) :=
  match Hex.decode kind.size (utf8 cs) with
  | .error fault => .error (.invalidHex kind (hexFaultText fault))
  | .ok bytes =>
      match ofBytes? kind bytes with
      | some o => .ok o
      | none => .error (.invalidHex kind (hexFaultText .wrongLength))

/-- A key id of exactly four bytes. -/
def KeyId.ofBytes (bytes : List UInt8) : Except TreeHeadError KeyId :=
  match Octets.ofBytes? .keyId bytes with
  | some id => .ok id
  | none => .error (.keyIdLength bytes.length)

end Witnessed
