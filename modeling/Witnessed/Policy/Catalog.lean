import Witnessed.Ascending
import Witnessed.Policy.Script

/-!
Named policies. A name stands for the file `name.policy` of a directory, and where there is none
for the policy of that name in a table. Names are plain enough to be file names.
-/

namespace Witnessed

/-- A place where policy files are kept. Each of its actions may fail with a reason. -/
structure Directory (m : Type → Type) where
  /-- The bytes of a file, if it exists. -/
  read : String → m (Except String (Option (List UInt8)))
  /-- The names of the files. -/
  list : m (Except String (List String))

/-- A directory that holds just the given files. -/
def Directory.ofFiles (files : List (String × List UInt8)) : Directory Id where
  read := fun name => .ok (files.lookup name)
  list := .ok (files.map (·.1))

/-- A policy that is available under a name without a file. -/
structure Builtin where
  name : String
  text : String
  deriving DecidableEq

structure Catalog (m : Type → Type) where
  directory : Directory m
  builtins : List Builtin

namespace Catalog

def isLetterOrDigit (c : Char) : Bool :=
  c.isAlpha || c.isDigit

/-- A letter or digit, and then letters, digits, dots, underscores and hyphens. -/
def isName : List Char → Bool
  | [] => false
  | c :: rest =>
      isLetterOrDigit c &&
        rest.all fun c => isLetterOrDigit c || c == '.' || c == '_' || c == '-'

def validate (name : String) : Except PolicyError Unit :=
  if isName name.toList then .ok () else .error (.invalidPolicyName name)

def extension : List Char := ".policy".toList

def fileName (name : String) : String :=
  name ++ String.ofList extension

/-- The policy name that a file name stands for. -/
def nameOfFile? (file : String) : Option String :=
  let cs := file.toList
  let name := cs.take (cs.length - extension.length)
  if extension.isSuffixOf cs && isName name then some (String.ofList name) else none

variable {m : Type → Type} [Monad m] (catalog : Catalog m)

def builtin? (name : String) : Option Builtin :=
  catalog.builtins.find? fun b => b.name = name

/-- The text of a named policy. -/
def source (name : String) : m (Except PolicyError (List UInt8)) := do
  match validate name with
  | .error e => return .error e
  | .ok () =>
      match ← catalog.directory.read (fileName name) with
      | .error reason => return .error (.directory (fileName name ++ ": " ++ reason))
      | .ok (some bytes) => return .ok bytes
      | .ok none =>
          match catalog.builtin? name with
          | some builtin => return .ok (bytesOf builtin.text)
          | none => return .error (.unknownPolicy name)

def load (suite : Suite) (name : String) : m (Except PolicyError Policy) :=
  return (← catalog.source name).bind (Policy.parse suite)

/-- All names, ascending and each once. -/
def list : m (Except PolicyError (List String)) := do
  match ← catalog.directory.list with
  | .error reason => return .error (.directory reason)
  | .ok files =>
      return .ok (ascending (catalog.builtins.map (·.name) ++ files.filterMap nameOfFile?))

end Catalog

end Witnessed
