import Witnessed.Octets
import Witnessed.Text.Quoted

/-!
Why a policy cannot be built, read or found.
-/

namespace Witnessed

inductive EntityKind
  | log
  | witness
  deriving DecidableEq, Repr

def EntityKind.name : EntityKind → String
  | .log => "log"
  | .witness => "witness"

inductive PolicyError
  | unknownKeyword (keyword : String)
  | invalidSyntax (keyword reason : String)
  | invalidPublicKey (reason : String)
  | duplicateKey (kind : EntityKind) (key : KeyHash)
  | duplicateName (name : String)
  | undefinedName (name : String)
  | invalidThreshold (threshold : String) (members : Nat)
  | alreadyMember (member group : String)
  | quorumAlreadySet
  | missingQuorum
  | invalidCharacter (c : Char)
  | invalidUtf8
  | poisoned
  | invalidPolicyName (name : String)
  | unknownPolicy (name : String)
  | directory (reason : String)
  | atLine (line : Nat) (error : PolicyError)
  deriving DecidableEq

namespace PolicyError

def code : PolicyError → String
  | .unknownKeyword .. => "E3001"
  | .invalidSyntax .. => "E3002"
  | .invalidPublicKey .. => "E3003"
  | .duplicateKey .. => "E3004"
  | .duplicateName .. => "E3005"
  | .undefinedName .. => "E3006"
  | .invalidThreshold .. => "E3007"
  | .alreadyMember .. => "E3008"
  | .quorumAlreadySet => "E3009"
  | .missingQuorum => "E3010"
  | .invalidCharacter .. => "E3011"
  | .invalidUtf8 => "E3012"
  | .poisoned => "E3013"
  | .invalidPolicyName .. => "E3014"
  | .unknownPolicy .. => "E3015"
  | .directory .. => "E3016"
  | .atLine _ error => error.code

/-- The text behind the code, of an error that is not attributed to a line. -/
def text : PolicyError → String
  | .unknownKeyword keyword => "Unknown keyword " ++ Quoted.string keyword
  | .invalidSyntax keyword reason => "Invalid " ++ keyword ++ " line: " ++ reason
  | .invalidPublicKey reason => "Invalid public key: " ++ reason
  | .duplicateKey kind key => "Duplicate " ++ kind.name ++ " key " ++ key.hex
  | .duplicateName name => "Duplicate name " ++ Quoted.string name
  | .undefinedName name => "Undefined name " ++ Quoted.string name
  | .invalidThreshold threshold members =>
      "Invalid threshold " ++ Quoted.string threshold ++ " for group of " ++
        toString members ++ " members"
  | .alreadyMember member group =>
      Quoted.string member ++ " is already a member of " ++ Quoted.string group
  | .quorumAlreadySet => "Quorum already set"
  | .missingQuorum => "Missing quorum declaration"
  | .invalidCharacter c => "Invalid character " ++ Quoted.char c
  | .invalidUtf8 => "Invalid UTF-8"
  | .poisoned => "Policy builder unusable after an earlier error"
  | .invalidPolicyName name => "Invalid policy name " ++ Quoted.string name
  | .unknownPolicy name => "Unknown policy " ++ Quoted.string name
  | .directory reason => "Policy directory error: " ++ reason
  | .atLine _ error => error.text

def message : PolicyError → String
  | .atLine line error => "line " ++ toString line ++ ": " ++ error.message
  | error => "[" ++ error.code ++ "] " ++ error.text

/-- The line that the error is attributed to. -/
def line? : PolicyError → Option Nat
  | .atLine line _ => some line
  | _ => none

/-- The error without attributions. -/
def root : PolicyError → PolicyError
  | .atLine _ error => error.root
  | error => error

end PolicyError

end Witnessed
