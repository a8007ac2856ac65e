import Witnessed.TreeHead.Error

/-!
The arguments of the command line.
-/

namespace Witnessed

/-- Where a text is read from; `-` stands for the standard input. -/
inductive Input
  | standard
  | file (path : String)
  deriving DecidableEq, Repr

inductive Command
  /-- Judge a cosigned tree head by the policy. -/
  | verify (log : KeyHash) (input : Input)
  /-- Check the log's signature on a checkpoint. -/
  | checkpoint (log : KeyHash) (input : Input)
  /-- List the named policies. -/
  | policies
  deriving DecidableEq

inductive Arguments
  | run (command : Command)
  | help
  | version
  | rejected
  deriving DecidableEq

namespace Arguments

/-- Whether all of a path is a dash: slashes and dots after it say nothing. -/
def isDash (path : String) : Bool :=
  match path.toList.splitOn '/' with
  | ['-'] :: rest => rest.all fun name => name = [] ∨ name = ['.']
  | _ => false

def inputOf (path : String) : Input :=
  if isDash path then .standard else .file path

def logOf? (text : String) : Option KeyHash :=
  (Octets.ofHex .keyHash text.toList).toOption

/-- What the positional arguments of a command that reads a tree head say, with the log and the
input found so far. -/
def positional (make : KeyHash → Input → Command) (log : Option KeyHash) (input : Option Input)
    (plain : Bool) : List String → Arguments
  | [] =>
      match log with
      | some log => .run (make log (input.getD .standard))
      | none => .rejected
  | argument :: rest =>
      if !plain && argument = "--" then positional make log input true rest
      else if !plain && (argument = "--help" ∨ "-h".toList.isPrefixOf argument.toList) then .help
      else if !plain && "-".toList.isPrefixOf argument.toList && argument ≠ "-" then .rejected
      else
        match log, input with
        | none, _ =>
            match logOf? argument with
            | some log => positional make (some log) input plain rest
            | none => .rejected
        | some _, none =>
            if argument = "" then .rejected
            else positional make log (some (inputOf argument)) plain rest
        | some _, some _ => .rejected

def policies : List String → Arguments
  | [] => .run .policies
  | ["--"] => .run .policies
  | argument :: _ =>
      if argument = "--help" ∨ "-h".toList.isPrefixOf argument.toList then .help else .rejected

def commandNames : List String := ["verify", "checkpoint", "policies", "help"]

def parse : List String → Arguments
  | [] => .rejected
  | "verify" :: rest => positional .verify none none false rest
  | "checkpoint" :: rest => positional .checkpoint none none false rest
  | "policies" :: rest => policies rest
  | ["help"] => .help
  | ["help", name] => if name ∈ commandNames then .help else .rejected
  | argument :: _ =>
      if argument = "--help" ∨ "-h".toList.isPrefixOf argument.toList then .help
      else if argument = "--version" ∨ "-V".toList.isPrefixOf argument.toList then .version
      else .rejected

end Arguments

end Witnessed
