import Witnessed.Policy.Draft
import Witnessed.Text.Blank
import Witnessed.Text.Utf8
import Witnessed.TreeHead.Error

/-!
Policies as text: a declaration a line. A `#` opens a comment, blank lines say nothing, and
control characters other than the tab are refused wherever they stand. Text is read from bytes,
and an error names the first line that is at fault.
-/

namespace Witnessed.Script

inductive Keyword
  | log
  | witness
  | group
  | quorum
  deriving DecidableEq, Repr

def Keyword.name : Keyword → String
  | .log => "log"
  | .witness => "witness"
  | .group => "group"
  | .quorum => "quorum"

/-- What follows the keyword. -/
def Keyword.usage : Keyword → String
  | .log => "<public key> [<url>]"
  | .witness => "<name> <public key> [<url>]"
  | .group => "<name> <threshold> <member>..."
  | .quorum => "<name>"

def Keyword.ofName? (cs : List Char) : Option Keyword :=
  [Keyword.log, .witness, .group, .quorum].find? fun k => k.name.toList = cs

def wrongCount {α : Type} (keyword : Keyword) (found : Nat) : Except PolicyError α :=
  .error (.invalidSyntax keyword.name
    ("expected " ++ keyword.name ++ " " ++ keyword.usage ++ ", got " ++ toString found ++
      " arguments"))

def entityOf (key : List Char) (url : Option (List Char)) : Except PolicyError Entity :=
  match Octets.ofHex .publicKey key with
  | .ok key => .ok ⟨key, url.map String.ofList⟩
  | .error e => .error (.invalidPublicKey e.message)

def declarationOf (keyword : Keyword) (arguments : List (List Char)) :
    Except PolicyError Declaration :=
  match keyword, arguments with
  | .log, [key] => return .log (← entityOf key none)
  | .log, [key, url] => return .log (← entityOf key (some url))
  | .witness, [name, key] => return .witness (String.ofList name) (← entityOf key none)
  | .witness, [name, key, url] =>
      return .witness (String.ofList name) (← entityOf key (some url))
  | .group, name :: threshold :: member :: members =>
      match Threshold.parse? threshold with
      | some threshold =>
          .ok (.group (String.ofList name) threshold ((member :: members).map String.ofList))
      | none =>
          .error (.invalidThreshold (String.ofList threshold) (members.length + 1))
  | .quorum, [name] => .ok (.quorum (String.ofList name))
  | keyword, arguments => wrongCount keyword arguments.length

/-- Whether a character must not stand in a line. -/
def isForbidden (c : Char) : Bool :=
  isControl c && c != '\t'

/-- Whether a byte by itself is a character that must not stand in a line. -/
def isForbiddenByte (b : UInt8) : Bool :=
  b < 128 && isForbidden (Char.ofNat b.toNat)

/-- The text of a line. Forbidden ASCII characters are reported before bytes that are no text,
and those before forbidden characters beyond ASCII. -/
def lineText (bytes : List UInt8) : Except PolicyError (List Char) :=
  match bytes.find? isForbiddenByte with
  | some b => .error (.invalidCharacter (Char.ofNat b.toNat))
  | none =>
      match ofUtf8? bytes with
      | none => .error .invalidUtf8
      | some cs =>
          match cs.find? isForbidden with
          | some c => .error (.invalidCharacter c)
          | none => .ok cs

/-- What a line declares, if it declares anything. -/
def declaration? (cs : List Char) : Except PolicyError (Option Declaration) :=
  match words (cs.takeWhile (· ≠ '#')) with
  | [] => .ok none
  | keyword :: arguments =>
      match Keyword.ofName? keyword with
      | none => .error (.unknownKeyword (String.ofList keyword))
      | some keyword => return some (← declarationOf keyword arguments)

def takeLine (suite : Suite) (d : Draft) (bytes : List UInt8) : Except PolicyError Draft := do
  match ← declaration? (← lineText bytes) with
  | none => return d
  | some declaration =>
      match d.declare suite declaration with
      | (.ok _, d) => .ok d
      | (.error e, _) => .error e

/-- Takes lines, the first of which has the given number, up to one that is refused. -/
def takeLines (suite : Suite) (d : Draft) (number : Nat) :
    List (List UInt8) → Except PolicyError Draft
  | [] => .ok d
  | bytes :: rest =>
      match takeLine suite d bytes with
      | .ok d => takeLines suite d (number + 1) rest
      | .error e => .error (.atLine number e)

/-- A line of a policy text, with the threshold as it is to be written. -/
inductive Line
  | log (key : PublicKey) (url : Option String)
  | witness (name : String) (key : PublicKey) (url : Option String)
  | group (name threshold : String) (members : List String)
  | quorum (name : String)
  | comment (text : String)

def Line.ofDeclaration : Declaration → Line
  | .log entity => .log entity.key entity.url
  | .witness name entity => .witness name entity.key entity.url
  | .group name threshold members => .group name (String.ofList threshold.render) members
  | .quorum name => .quorum name

/-- Fields with one space between them. -/
def spaced (fields : List String) : List Char :=
  [' '].intercalate (fields.map String.toList)

def Line.render : Line → List Char
  | .log key url => spaced (["log", key.hex] ++ url.toList)
  | .witness name key url => spaced (["witness", name, key.hex] ++ url.toList)
  | .group name threshold members =>
      spaced ["group", name, threshold, String.ofList (spaced members)]
  | .quorum name => spaced ["quorum", name]
  | .comment text => spaced ["#", text]

/-- The text of a policy, a line feed between lines and one at the end. -/
def render (lines : List Line) : String :=
  String.ofList (['\n'].intercalate (lines.map Line.render) ++ ['\n'])

end Script

open Script in
/-- Reads a policy. -/
def Policy.parse (suite : Suite) (bytes : List UInt8) : Except PolicyError Policy := do
  (← takeLines suite .new 1 (bytes.splitOn 10)).build

end Witnessed
