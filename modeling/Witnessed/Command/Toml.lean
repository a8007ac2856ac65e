import Witnessed.Command.Toml.Value

/-!
Documents in TOML: assignments and headers, a line each. Of what a document defines, the top
level is kept.
-/

namespace Witnessed.Toml

/-- What a document has defined so far, and the header that its next lines are under. -/
structure Document where
  header : Option (List String × String)
  root : Entries

namespace Document

def empty : Document := ⟨none, []⟩

def openTable (d : Document) (path : List String) (key : String) : Option Document := do
  return ⟨some (path, key), ← d.root.openTable path key⟩

def openNext (d : Document) (path : List String) (key : String) : Option Document := do
  return ⟨some (path, key), ← d.root.openNext path key⟩

/-- Defines a key under the last header. -/
def assign (d : Document) (path : List String) (key : String) (setting : Setting) :
    Option Document := do
  let here := match d.header with
    | none => []
    | some (path, key) => path ++ [key]
  let root ← d.root.alter false (fun _ t => t.assign path key setting) .header here
  return { d with root }

end Document

/-- Reads the lines of a document; every one takes something from the text. -/
def lines : Nat → Document → List Char → Option Document
  | 0, _, _ => none
  | fuel + 1, d, cs =>
      match cs.dropWhile isSpace with
      | [] => some d
      | '[' :: '[' :: rest => do
          match ← key? maxDepth rest with
          | ((path, key), ']' :: ']' :: rest) =>
              lines fuel (← d.openNext path key) (← lineEnd? rest)
          | _ => none
      | '[' :: rest => do
          match ← key? maxDepth rest with
          | ((path, key), ']' :: rest) =>
              lines fuel (← d.openTable path key) (← lineEnd? rest)
          | _ => none
      | cs =>
          match lineEnd? cs with
          | some rest => lines fuel d rest
          | none => do
              let ((path, key, setting), rest) ← pair? (value? maxDepth) cs
              lines fuel (← d.assign path key setting) (← lineEnd? rest)

/-- The keys of a document. A byte order mark can stand at its start. -/
def parse? (cs : List Char) : Option Assignments :=
  let cs := match cs with
    | '\ufeff' :: rest => rest
    | cs => cs
  (lines (cs.length + 1) .empty cs).map (·.root.assignments)

end Witnessed.Toml
