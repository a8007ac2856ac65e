import Witnessed.Checkpoint.Note
import Witnessed.Command.Arguments
import Witnessed.Command.Host
import Witnessed.Command.Settings
import Witnessed.Policy.Builtins
import Witnessed.Policy.Verdict
import Witnessed.TreeHead.Fields

/-!
The commands. First the arguments count, then the settings, the log filter, the policy, the
input, and at last what the input says.
-/

namespace Witnessed

inductive Outcome
  | done (output : String)
  | failed (failure : Failure)
  | rejected
  deriving DecidableEq

namespace Command

/-- The error, and the errors that it is about. -/
def chain : PolicyError → List String
  | .atLine line e => (PolicyError.atLine line e).message :: chain e
  | e => [e.message]

/-- Judges the text of a cosigned tree head. -/
def verifyText (suite : Suite) (policy : Policy) (log : KeyHash) (text : String) :
    Except Failure String :=
  match CosignedTreeHead.parse text with
  | .error e => .error (.because "Failed to parse cosigned tree head" [e.message])
  | .ok head =>
      let size := String.ofList (Decimal.render head.signed.head.size.toNat)
      match policy.verify suite log head with
      | .error e => .error (.because ("Tree head of size " ++ size ++ " rejected") [e.message])
      | .ok r =>
          .ok ("size=" ++ size ++ " verified=" ++ toString r.verified ++ " failed=" ++
            toString r.failed ++ " ignored=" ++ toString r.ignored ++ "\n")

/-- Checks the text of a checkpoint. -/
def checkpointText (suite : Suite) (policy : Policy) (log : KeyHash) (text : String) :
    Except Failure String :=
  match Checkpoint.parse text with
  | .error e => .error (.because "Failed to parse checkpoint" [e.message])
  | .ok c =>
      match policy.log? log with
      | none => .error (.of ("Log " ++ log.hex ++ " is not part of the policy"))
      | some entity =>
          if c.origin ≠ originOf log then
            .error (.of ("Checkpoint origin " ++ Quoted.string c.origin ++
              " does not belong to log " ++ log.hex))
          else
            match c.verify suite entity.key with
            | .error e => .error (.because "Checkpoint rejected" [e.message])
            | .ok () =>
                .ok ("size=" ++ String.ofList (Decimal.render c.signed.head.size.toNat) ++ "\n")

variable {m : Type → Type} [Monad m]

/-- The path of a file in a directory. -/
def inside (root name : String) : String :=
  if root = "" ∨ root.toList.getLast? = some '/' then root ++ name else root ++ "/" ++ name

/-- The files of a directory. One that is not there is empty. -/
def directoryOf (host : Host m) (root : String) : Directory m where
  read := fun name => do
    match ← host.readFile (inside root name) with
    | .ok bytes => return .ok (some bytes)
    | .error .notFound => return .ok none
    | .error e => return .error e.message
  list := do
    match ← host.listDirectory root with
    | .ok names => return .ok (names.filterMap fun name => (ofUtf8? name).map String.ofList)
    | .error .notFound => return .ok []
    | .error e => return .error e.message

def catalogOf (host : Host m) (settings : Settings) : Catalog m :=
  ⟨directoryOf host settings.policyDir, builtins⟩

def loadPolicy (suite : Suite) (host : Host m) (settings : Settings) :
    ExceptT Failure m Policy := do
  match settings.policyFile, settings.policy with
  | some path, _ =>
      match ← (host.readFile path : m _) with
      | .error e => throw (.because ("Failed to read policy file " ++ path) [e.message])
      | .ok bytes =>
          match Policy.parse suite bytes with
          | .error e => throw (.because ("Invalid policy file " ++ path) (chain e))
          | .ok policy => return policy
  | none, some name =>
      match ← ((catalogOf host settings).load suite name : m _) with
      | .error e => throw (.because ("Failed to load policy " ++ Quoted.string name) (chain e))
      | .ok policy => return policy
  | none, none => throw (.of "No policy configured")

def readText (host : Host m) : Input → ExceptT Failure m String
  | .standard => do
      match ← (host.readInputText : m _) with
      | .error e => throw (.because "Failed to read standard input" [e.message])
      | .ok text => return text
  | .file path => do
      match ← (host.readText path : m _) with
      | .error e => throw (.because ("Failed to read " ++ path) [e.message])
      | .ok text => return text

/-- Carries out a command; gives what it prints. -/
def perform (suite : Suite) (host : Host m) (command : Command) : ExceptT Failure m String := do
  let environment ← (host.environment : m _)
  let settings ← match ← (host.settings : m _) with
    | .error _ => Settings.failed
    | .ok file => Settings.load file environment
  settings.checkFilter environment
  match command with
  | .verify log input =>
      let policy ← loadPolicy suite host settings
      verifyText suite policy log (← readText host input)
  | .checkpoint log input =>
      let policy ← loadPolicy suite host settings
      checkpointText suite policy log (← readText host input)
  | .policies =>
      match ← ((catalogOf host settings).list : m _) with
      | .error e => throw (.because "Failed to list policies" (chain e))
      | .ok names => return String.join (names.map (· ++ "\n"))

end Command

def versionText : String := "vouch 0.1.0\n"

def helpText : String :=
  String.join
    [ "Verify witness-cosigned transparency log tree heads against a quorum policy\n\n",
      "Usage: vouch verify <LOG> [INPUT]\n",
      "       vouch checkpoint <LOG> [INPUT]\n",
      "       vouch policies\n" ]

/-- Runs the program. -/
def run {m : Type → Type} [Monad m] (suite : Suite) (host : Host m) (arguments : List String) :
    m Outcome := do
  match Arguments.parse arguments with
  | .rejected => return .rejected
  | .help => return .done helpText
  | .version => return .done versionText
  | .run command =>
      match ← (command.perform suite host).run with
      | .ok output => return .done output
      | .error failure => return .failed failure

end Witnessed
