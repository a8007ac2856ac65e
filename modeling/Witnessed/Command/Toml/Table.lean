import Witnessed.Command.Setting

/-!
Tables of TOML while they are being defined. A table grows under one header, or by keys with
dots, and never by both; nothing is defined twice.
-/

namespace Witnessed.Toml

/-- How a table came to be: by a header, on the way to the table of a longer header, or by a key
with dots. -/
inductive Origin
  | header
  | way
  | dotted
  deriving DecidableEq, Repr

inductive Node
  | value (setting : Setting)
  | table (origin : Origin) (entries : List (String × Node))
  /-- Tables under one header that is repeated. Only the last one can still grow. -/
  | tables (last : List (String × Node))

abbrev Entries := List (String × Node)

namespace Entries

def set (t : Entries) (key : String) (node : Node) : Entries :=
  (key, node) :: t.filter (·.1 ≠ key)

/-- Changes the table at the end of a path. Tables that are missing on the way are made. A path
of a key with dots does not pass through a table that has a header of its own. -/
def alter (dotted : Bool) (change : Origin → Entries → Option Entries) (origin : Origin) :
    List String → Entries → Option Entries
  | [], t => change origin t
  | key :: path, t =>
      match t.lookup key with
      | none => do
          let origin := if dotted then .dotted else .way
          return t.set key (.table origin (← alter dotted change origin path []))
      | some (.table origin entries) => do
          if dotted ∧ origin = .header then none
          return t.set key (.table origin (← alter dotted change origin path entries))
      | some (.tables last) => do
          return t.set key (.tables (← alter dotted change .header path last))
      | some (.value _) => none

/-- Defines a key, with the names before its dots. -/
def assign (t : Entries) (path : List String) (key : String) (setting : Setting) :
    Option Entries :=
  t.alter true (fun origin t =>
    if decide (origin = .dotted) = path.isEmpty then none
    else if (t.lookup key).isSome then none
    else some (t.set key (.value setting))) .header path

/-- Begins the table of a header. One that was only on the way of other headers goes on. -/
def openTable (t : Entries) (path : List String) (key : String) : Option Entries :=
  t.alter false (fun _ t =>
    match t.lookup key with
    | none => some (t.set key (.table .header []))
    | some (.table .way entries) => some (t.set key (.table .header entries))
    | _ => none) .header path

/-- Begins one more table of a header that can be repeated. -/
def openNext (t : Entries) (path : List String) (key : String) : Option Entries :=
  t.alter false (fun _ t =>
    match t.lookup key with
    | none => some (t.set key (.tables []))
    | some (.tables _) => some (t.set key (.tables []))
    | _ => none) .header path

def assignments (t : Entries) : Assignments :=
  t.map fun (key, node) =>
    match node with
    | .value setting => (key, setting)
    | _ => (key, .other)

end Entries

end Witnessed.Toml
