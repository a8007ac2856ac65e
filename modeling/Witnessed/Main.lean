import Witnessed.Command.Run
import Witnessed.Suite.Ed25519

/-!
The program: verifies cosigned tree heads and checkpoints against a policy.
-/

namespace Witnessed.Program

/-- The number of an error of the machine, which some calls report with its sign changed. -/
def numberOf (code : UInt32) : UInt32 :=
  if code < 0x80000000 then code else 0 - code

def errorOf : IO.Error → FileError
  | .noFileOrDirectory .. => .notFound
  | .alreadyExists _ code text | .permissionDenied _ code text | .invalidArgument _ code text
  | .resourceExhausted _ code text | .noSuchThing _ code text | .inappropriateType _ code text =>
      let code := numberOf code
      if code = 2 then .notFound
      else if code = 20 then .notADirectory
      else if code = 21 then .isADirectory
      else if code = 36 then .nameTooLong
      else .other (text ++ " (os error " ++ toString code ++ ")")
  | e => .other (toString e)

def attempt {α : Type} (action : IO α) : IO (Except FileError α) := do
  try
    return .ok (← action)
  catch e =>
    return .error (errorOf e)

def listOf (bytes : ByteArray) : List UInt8 :=
  bytes.data.toList

/-- Paths with a zero byte are refused before the machine sees them, and the empty path leads
nowhere. -/
def attemptAt {α : Type} (path : String) (action : IO α) : IO (Except FileError α) := do
  if 0 ∈ bytesOf path then return .error .zeroInName
  if path.isEmpty then return .error .notFound
  attempt action

def readFile (path : String) : IO (Except FileError (List UInt8)) :=
  attemptAt path do return listOf (← IO.FS.readBinFile path)

def listDirectory (path : String) : IO (Except FileError (List (List UInt8))) :=
  attemptAt path do
    let here ← IO.currentDir
    let entries ← (here / path).readDir
    return entries.toList.map fun e => bytesOf e.fileName

def readInput : IO (Except FileError (List UInt8)) :=
  attempt do
    let mut bytes := ByteArray.empty
    let input ← IO.getStdin
    let mut more := true
    while more do
      let next ← input.read 65536
      more := !next.isEmpty
      bytes := bytes ++ next
    return listOf bytes

/-- The settings file of this directory, or of the nearest one above it that has one. -/
def settings : IO (Except FileError (Option (List UInt8))) :=
  attempt do
    let mut here := some (← IO.currentDir)
    while here.isSome do
      if let some directory := here then
        let file := directory / "vouch.toml"
        if (← file.pathExists) && !(← file.isDir) then
          return some (listOf (← IO.FS.readBinFile file))
        here := directory.parent
    return none

/-- A variable, from its name, an equals sign and its value. -/
def variableOf? (bytes : List UInt8) : Option (String × String) := do
  let text := String.ofList (← ofUtf8? bytes)
  match text.splitOn "=" with
  | name :: value => some (name, "=".intercalate value)
  | [] => none

/-- The variables to ask for where the system does not list them. -/
def commonVariables : List String :=
  ["VOUCH_POLICY", "VOUCH_POLICY_FILE", "VOUCH_POLICY_DIR", "VOUCH_RUST_LOG",
    Settings.preferredFilter]

def environment : IO (List (String × String)) := do
  match ← attempt (IO.FS.readBinFile "/proc/self/environ") with
  | .ok bytes => return ((listOf bytes).splitOn 0).filterMap variableOf?
  | .error _ =>
      commonVariables.filterMapM fun name => do
        return (← IO.getEnv name).map fun value => (name, value)

def host : Host IO := { settings, environment, readFile, listDirectory, readInput }

end Witnessed.Program

open Witnessed in
def main (arguments : List String) : IO UInt32 := do
  match ← run Suite.standard Program.host arguments with
  | .done output =>
      IO.print output
      return 0
  | .failed failure =>
      IO.eprint failure.report
      if failure.causes.isNone then IO.eprint "\n"
      return 1
  | .rejected =>
      IO.eprint helpText
      return 2
