import Witnessed.Text.Lines
import Witnessed.TreeHead

/-!
Tree heads as lines of `key=value`: the size, the root hash and the log's signature, then a line
for each cosignature. Keys come in this order, every line is ended, hexadecimal is lowercase and
decimals are canonical; lines of cosignatures are written in the order of their key hashes.
-/

namespace Witnessed.Fields

inductive Key
  | size
  | root
  | signature
  | cosignature
  deriving DecidableEq, Repr

def Key.name : Key → String
  | .size => "size"
  | .root => "root_hash"
  | .signature => "signature"
  | .cosignature => "cosignature"

/-- What is wrong with a line. -/
inductive Fault
  | unended
  | absent (key : Key)
  | otherKey (key : Key)
  | badSize (text : List Char)
  | badTime (text : List Char)
  | upperCase
  | badHex (error : TreeHeadError)
  | fieldCount (found : Nat)
  | surplus (line : List Char)

def Fault.reason : Fault → String
  | .unended => "missing trailing newline"
  | .absent key => "missing key " ++ Quoted.string key.name
  | .otherKey key => "expected key " ++ Quoted.string key.name
  | .badSize text => "invalid size " ++ Quoted.text text
  | .badTime text => "invalid timestamp " ++ Quoted.text text
  | .upperCase => "hex must be lowercase"
  | .badHex error => error.message
  | .fieldCount found => "expected 3 space-separated fields, got " ++ toString found
  | .surplus line => "unexpected line " ++ Quoted.text line

/-- Blames a line, counted from one, for a fault found in it. -/
def onLine {α : Type} (line : Nat) : Except Fault α → Except TreeHeadError α
  | .ok a => .ok a
  | .error fault => .error (.malformedLine line fault.reason)

def line (key : Key) (value : List Char) : List Char :=
  key.name.toList ++ '=' :: value

/-- What a line says, if it is a line of the given key. -/
def valueOf (key : Key) (text : List Char) : Except Fault (List Char) :=
  match after? (line key []) text with
  | some value => .ok value
  | none => .error (.otherKey key)

def number (fault : Fault) (text : List Char) : Except Fault UInt64 :=
  match Decimal.parse? text with
  | some n => .ok n
  | none => .error fault

def octets (kind : Kind) (text : List Char) : Except Fault (Octets kind) :=
  if text.any Char.isUpper then .error .upperCase
  else
    match Octets.ofHex kind text with
    | .ok o => .ok o
    | .error e => .error (.badHex e)

def signedLines (signed : SignedTreeHead) : List (List Char) :=
  [line .size (Decimal.render signed.head.size.toNat),
    line .root (Hex.encode signed.head.root.bytes),
    line .signature (Hex.encode signed.signature.bytes)]

def cosignatureLine (c : Cosignature) : List Char :=
  line .cosignature (Hex.encode c.witness.bytes ++ ' ' :: Decimal.render c.time.toNat ++
    ' ' :: Hex.encode c.signature.bytes)

/-- The line of a key that has to stand at the front, and the lines after it. -/
def takeLine (position : Nat) (key : Key) :
    List (List Char) → Except TreeHeadError (List Char × List (List Char))
  | [] => onLine position (.error (.absent key))
  | text :: rest => (onLine position (valueOf key text)).map (·, rest)

/-- Reads the three lines of a signed tree head; gives the lines after them, too. -/
def takeSigned (lines : List (List Char)) :
    Except TreeHeadError (SignedTreeHead × List (List Char)) := do
  let (size, lines) ← takeLine 1 .size lines
  let size ← onLine 1 (number (.badSize size) size)
  let (root, lines) ← takeLine 2 .root lines
  let root ← onLine 2 (octets .hash root)
  let (signature, lines) ← takeLine 3 .signature lines
  let signature ← onLine 3 (octets .signature signature)
  return (⟨⟨size, root⟩, signature⟩, lines)

def cosignatureOfLine (text : List Char) : Except Fault Cosignature := do
  match (← valueOf .cosignature text).splitOn ' ' with
  | [witness, time, signature] =>
      let witness ← octets .keyHash witness
      let time ← number (.badTime time) time
      let signature ← octets .signature signature
      return ⟨witness, time, signature⟩
  | fields => .error (.fieldCount fields.length)

/-- Adds the cosignatures of the remaining lines, the first of which has the given number. -/
def addLines (position : Nat) (head : CosignedTreeHead) :
    List (List Char) → Except TreeHeadError CosignedTreeHead
  | [] => .ok head
  | text :: rest => do
      let cosignature ← onLine position (cosignatureOfLine text)
      addLines (position + 1) (← head.add cosignature) rest

def split (text : String) : Except TreeHeadError (List (List Char)) :=
  match linesOf text.toList with
  | .ok lines => .ok lines
  | .error position => onLine position (.error .unended)

end Fields

open Fields

def SignedTreeHead.render (signed : SignedTreeHead) : String :=
  String.ofList (unlines (signedLines signed))

def SignedTreeHead.parse (text : String) : Except TreeHeadError SignedTreeHead := do
  match ← takeSigned (← split text) with
  | (signed, []) => .ok signed
  | (_, surplus :: _) => onLine 4 (.error (.surplus surplus))

def CosignedTreeHead.render (head : CosignedTreeHead) : String :=
  String.ofList (unlines
    (signedLines head.signed ++ head.cosignatures.values.map cosignatureLine))

def CosignedTreeHead.parse (text : String) : Except TreeHeadError CosignedTreeHead := do
  let (signed, lines) ← takeSigned (← split text)
  addLines 4 (.ofSigned signed) lines

end Witnessed
