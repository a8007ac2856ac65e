import Witnessed.Command.Failure
import Witnessed.Command.LogFilter
import Witnessed.Command.Toml
import Witnessed.Command.Variable
import Witnessed.Text.Quoted
import Witnessed.Text.Utf8

/-!
Settings: which policy to use, where named policies are, and how much to log. Environment
variables win over the settings file, and that over the defaults.
-/

namespace Witnessed

structure Settings where
  policy : Option String
  policyFile : Option String
  policyDir : String
  logFilter : String
  deriving DecidableEq, Repr

namespace Settings

def default : Settings := ⟨none, none, "/etc/vouch/policy", "info"⟩

/-- A policy is given by name or by file, not both, and what is given is not empty. -/
def validate (s : Settings) : Except Failure Settings :=
  match s.policy, s.policyFile with
  | some _, some _ => .error (.of "policy and policy_file are mutually exclusive")
  | none, none => .error (.of "one of policy or policy_file must be set")
  | policy, _ =>
      if policy = some "" then .error (.of "policy must not be empty")
      else if trim s.logFilter.toList = [] then .error (.of "rust_log must not be empty")
      else .ok s

def failed {α : Type} : Except Failure α :=
  .error (.unexplained "Failed to load configuration")

/-- The value of a key, which has to be a text if there is one. -/
def textOf (assignments : Assignments) (key : String) : Except Failure (Option String) :=
  match assignments.lookup key with
  | none => .ok none
  | some (.text cs) => .ok (some (String.ofList cs))
  | some .other => failed

/-- Settings from assignments of which the first one of a key counts. -/
def ofAssignments (assignments : Assignments) : Except Failure Settings := do
  let policy ← textOf assignments "policy"
  let policyFile ← textOf assignments "policy_file"
  let policyDir ← textOf assignments "policy_dir"
  let logFilter ← textOf assignments "rust_log"
  validate ⟨policy, policyFile, policyDir.getD default.policyDir,
    logFilter.getD default.logFilter⟩

/-- Settings from the settings file, if there is one, and from environment variables, the last
of which wins. -/
def load (file : Option (List UInt8)) (environment : List (String × String)) :
    Except Failure Settings := do
  let assignments ← match file with
    | none => pure []
    | some bytes =>
        match (ofUtf8? bytes).bind Toml.parse? with
        | some assignments => pure assignments
        | none => failed
  let overrides := environment.filterMap fun (name, value) => Variable.assignment? name value
  ofAssignments (overrides.reverse ++ assignments)

/-- The variable whose log filter is preferred if it is well formed. -/
def preferredFilter : String := "RUST_LOG"

/-- There has to be a log filter that is well formed. -/
def checkFilter (s : Settings) (environment : List (String × String)) : Except Failure Unit :=
  if (environment.lookup preferredFilter).any LogFilter.isValid || LogFilter.isValid s.logFilter
  then .ok ()
  else .error (.unexplained ("Invalid log filter " ++ Quoted.string s.logFilter))

end Settings

end Witnessed
