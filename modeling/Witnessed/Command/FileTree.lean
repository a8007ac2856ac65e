import Witnessed.Command.Host

/-!
Files in memory. A tree holds files and directories under their paths from its root; the
directories on the way to something are there, too.
-/

namespace Witnessed

/-- A name in a directory, as bytes. -/
abbrev FileName := List UInt8

structure FileTree where
  files : List (List FileName × List UInt8)
  directories : List (List FileName)
  /-- The directory that relative paths start from. -/
  current : List FileName

namespace FileTree

/-- Most bytes that a name may have. -/
def maxName : Nat := 255

/-- Most bytes that a path may have. -/
def maxPath : Nat := 4095

inductive Node
  | file (bytes : List UInt8)
  | directory

def isDirectory (t : FileTree) (path : List FileName) : Bool :=
  path.isPrefixOf t.current ||
    (t.directories.any path.isPrefixOf ||
      t.files.any fun f => path.length < f.1.length && path.isPrefixOf f.1)

def node? (t : FileTree) (path : List FileName) : Option Node :=
  match t.files.lookup path with
  | some bytes => some (.file bytes)
  | none => if t.isDirectory path then some .directory else none

/-- Follows names from a directory. A name after a file, even an empty one or a dot, asks for a
directory. -/
def walk (t : FileTree) (here : List FileName) : List FileName → Except FileError (List FileName)
  | [] => .ok here
  | name :: rest =>
      match t.node? here with
      | none => .error .notFound
      | some (.file _) => .error .notADirectory
      | some .directory =>
          if name = [] ∨ name = bytesOf "." then t.walk here rest
          else if name = bytesOf ".." then t.walk here.dropLast rest
          else if maxName < name.length then .error .nameTooLong
          else t.walk (here ++ [name]) rest

/-- The path that a text with slashes stands for. One that begins with a slash starts from the
root. What is wrong with the text as a whole is found before anything is looked up. -/
def resolve (t : FileTree) (path : String) : Except FileError (List FileName) :=
  let bytes := bytesOf path
  if 0 ∈ bytes then .error .zeroInName
  else if maxPath < bytes.length then .error .nameTooLong
  else
    match bytes.splitOn 47 with
    | [[]] => .error .notFound
    | [] :: names => t.walk [] names
    | names => t.walk t.current names

def find (t : FileTree) (path : String) : Except FileError (List FileName × Node) := do
  let path ← t.resolve path
  match t.node? path with
  | some node => return (path, node)
  | none => .error .notFound

def read (t : FileTree) (path : String) : Except FileError (List UInt8) := do
  match ← t.find path with
  | (_, .file bytes) => .ok bytes
  | (_, .directory) => .error .isADirectory

/-- The names in a directory, each once. -/
def list (t : FileTree) (path : String) : Except FileError (List FileName) := do
  match ← t.find path with
  | (_, .file _) => .error .notADirectory
  | (path, .directory) =>
      let below := (t.files.map (·.1) ++ t.directories).filterMap fun p =>
        if path.isPrefixOf p then (p.drop path.length).head? else none
      return below.eraseDups

end FileTree

/-- A machine with the given files and standard input. -/
def Host.ofTree (tree : FileTree) (settingsPath : String) (environment : List (String × String))
    (input : List UInt8) : Host Id where
  settings := .ok (tree.read settingsPath).toOption
  environment := environment
  readFile := tree.read
  listDirectory := tree.list
  readInput := .ok input

end Witnessed
