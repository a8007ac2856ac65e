import Witnessed.Checkpoint
import Witnessed.Endian
import Witnessed.Text.Blank
import Witnessed.Text.Lines

/-!
Checkpoints as text: the origin, the size and the root hash on a line each, an empty line, and
then signature lines. A signature line is a dash, the name of a key, and base64. The line of the
log bears the origin as its name and holds a key id and a signature; there is exactly one. All
other lines only have to be well formed.
-/

namespace Witnessed.Note

/-- What every signature line starts with. -/
def dash : List Char := ['—', ' ']

/-- Most signature lines that a checkpoint may have. -/
def maxSignatures : Nat := 16

def base64FaultText : Base64.Fault → String
  | .badSymbol byte position =>
      "Invalid symbol " ++ toString byte.toNat ++ ", offset " ++ toString position ++ "."
  | .badLength symbols => "Invalid input length: " ++ toString symbols
  | .badPadding => "Invalid padding"
  | .strayBits byte position =>
      "Invalid last symbol " ++ toString byte.toNat ++ ", offset " ++ toString position ++ "."

/-- What is wrong with a line of the header. -/
inductive HeaderFault
  | absent (what : String)
  | emptyOrigin
  | badCharacter (c : Char)
  | badSize (text : List Char)
  | badRoot (fault : Base64.Fault)
  | rootLength (found : Nat)
  | notBlank

def HeaderFault.reason : HeaderFault → String
  | .absent what => "missing " ++ what
  | .emptyOrigin => "empty origin"
  | .badCharacter c =>
      "character 0x" ++ String.ofList (Hex.encode [UInt8.ofNat c.toNat]) ++
        " not allowed in origin"
  | .badSize text => "invalid size " ++ Quoted.text text
  | .badRoot fault => "invalid root hash: " ++ base64FaultText fault
  | .rootLength found => "root hash is " ++ toString found ++ " bytes, expected 32"
  | .notBlank => "expected blank line after header"

/-- What is wrong with a signature line. -/
inductive SignatureFault
  | noDash
  | noNameAndBlob
  | controlInName
  | badBlob (fault : Base64.Fault)

def SignatureFault.reason : SignatureFault → String
  | .noDash => "missing signature line prefix"
  | .noNameAndBlob => "expected a key name and a base64 signature"
  | .controlInName => "control character in name"
  | .badBlob fault => "invalid base64: " ++ base64FaultText fault

def inHeader {α : Type} (line : Nat) : Except HeaderFault α → Except CheckpointError α
  | .ok a => .ok a
  | .error fault => .error (.malformedHeader line fault.reason)

def inSignature {α : Type} (line : Nat) : Except SignatureFault α → Except CheckpointError α
  | .ok a => .ok a
  | .error fault => .error (.malformedSignatureLine line fault.reason)

def signatureLine (name : List Char) (blob : List UInt8) : List Char :=
  dash ++ name ++ ' ' :: Base64.encode blob

/-- A witness's line: its key id, the time in eight bytes, and the signature. It is never taken
for the log's line, for it holds more bytes. -/
def cosignatureLine (suite : Suite) (name : String) (key : PublicKey) (c : Cosignature) :
    List Char :=
  signatureLine name.toList
    ((suite.keyId name .cosignature key).bytes ++ toBigEndian 8 c.time.toNat ++
      c.signature.bytes)

def checkOrigin (text : List Char) : Except HeaderFault Unit :=
  if text = [] then .error .emptyOrigin
  else
    match text.find? fun c => c == ' ' || isControl c with
    | some c => .error (.badCharacter c)
    | none => .ok ()

def sizeOf (text : List Char) : Except HeaderFault UInt64 :=
  match Decimal.parse? text with
  | some n => .ok n
  | none => .error (.badSize text)

def rootOf (text : List Char) : Except HeaderFault Hash :=
  match Base64.decode (utf8 text) with
  | .error fault => .error (.badRoot fault)
  | .ok bytes =>
      match Octets.ofBytes? .hash bytes with
      | some root => .ok root
      | none => .error (.rootLength bytes.length)

/-- The line at the front, and the lines after it. -/
def takeLine (position : Nat) (what : String) :
    List (List Char) → Except CheckpointError (List Char × List (List Char))
  | [] => inHeader position (.error (.absent what))
  | text :: rest => .ok (text, rest)

/-- Reads the origin and the tree head; gives the lines after the empty line, too. -/
def takeHeader (lines : List (List Char)) :
    Except CheckpointError (List Char × TreeHead × List (List Char)) := do
  let (origin, lines) ← takeLine 1 "origin" lines
  inHeader 1 (checkOrigin origin)
  let (size, lines) ← takeLine 2 "size" lines
  let size ← inHeader 2 (sizeOf size)
  let (root, lines) ← takeLine 3 "root hash" lines
  let root ← inHeader 3 (rootOf root)
  let (blank, lines) ← takeLine 4 "blank line" lines
  if blank ≠ [] then inHeader 4 (.error .notBlank)
  return (origin, ⟨size, root⟩, lines)

/-- The name and the bytes on a signature line. -/
def readSignature (text : List Char) : Except SignatureFault (List Char × List UInt8) :=
  match after? dash text with
  | none => .error .noDash
  | some rest =>
      match rest.splitOn ' ' with
      | [name, blob] =>
          if name = [] ∨ blob = [] then .error .noNameAndBlob
          else if name.any isControl then .error .controlInName
          else
            match Base64.decode (utf8 blob) with
            | .ok bytes => .ok (name, bytes)
            | .error fault => .error (.badBlob fault)
      | _ => .error .noNameAndBlob

/-- The key id and the signature on the log's line. -/
def logSignature? (blob : List UInt8) : Option (KeyId × Signature) := do
  let id ← Octets.ofBytes? .keyId (blob.take Kind.keyId.size)
  let signature ← Octets.ofBytes? .signature (blob.drop Kind.keyId.size)
  return (id, signature)

/-- Goes through the signature lines, of which `seen` are done, and keeps what the log's line
holds. The first signature line is the fifth of the text. -/
def findLog (origin : List Char) (seen : Nat) (found : Option (KeyId × Signature)) :
    List (List Char) → Except CheckpointError (Option (KeyId × Signature))
  | [] => .ok found
  | text :: rest => do
      if text = [] then .error (.trailingData (seen + 5))
      else if seen = maxSignatures then .error (.tooManySignatures maxSignatures)
      else
        let (name, blob) ← inSignature (seen + 5) (readSignature text)
        match (if name = origin then logSignature? blob else none), found with
        | none, _ => findLog origin (seen + 1) found rest
        | some _, some _ => .error (.duplicateSignature (seen + 5))
        | some first, none => findLog origin (seen + 1) (some first) rest

end Note

open Note

namespace Checkpoint

/-- The text with the log's signature line only. -/
def render (c : Checkpoint) : String :=
  String.ofList (c.signed.head.body c.origin ++ '\n' ::
    signatureLine c.origin.toList (c.keyId.bytes ++ c.signed.signature.bytes) ++ ['\n'])

def parse (text : String) : Except CheckpointError Checkpoint := do
  match linesOf text.toList with
  | .error line => .error (.missingNewline line)
  | .ok lines =>
      let (origin, head, lines) ← takeHeader lines
      match ← findLog origin 0 none lines with
      | none => .error (.missingSignature (String.ofList origin))
      | some (id, signature) => .ok ⟨String.ofList origin, ⟨head, signature⟩, id⟩

end Checkpoint

/-- A witness's signature line with its line end. -/
def Cosignature.line (suite : Suite) (c : Cosignature) (name : String) (key : PublicKey) :
    String :=
  String.ofList (cosignatureLine suite name key c ++ ['\n'])

end Witnessed
