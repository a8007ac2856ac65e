import Witnessed.Text.Utf8

/-!
What a command needs from the machine it runs on: files, directories, the standard input and the
environment.
-/

namespace Witnessed

inductive FileError
  | notFound
  | notADirectory
  | isADirectory
  | nameTooLong
  | zeroInName
  | notText
  | other (text : String)
  deriving DecidableEq, Repr

def FileError.message : FileError → String
  | .notFound => "No such file or directory (os error 2)"
  | .notADirectory => "Not a directory (os error 20)"
  | .isADirectory => "Is a directory (os error 21)"
  | .nameTooLong => "File name too long (os error 36)"
  | .zeroInName => "file name contained an unexpected NUL byte"
  | .notText => "stream did not contain valid UTF-8"
  | .other text => text

structure Host (m : Type → Type) where
  /-- The settings file, if there is one. -/
  settings : m (Except FileError (Option (List UInt8)))
  environment : m (List (String × String))
  readFile : String → m (Except FileError (List UInt8))
  /-- The names in a directory, as bytes. -/
  listDirectory : String → m (Except FileError (List (List UInt8)))
  readInput : m (Except FileError (List UInt8))

namespace Host

variable {m : Type → Type} [Monad m] (host : Host m)

def toText (bytes : List UInt8) : Except FileError String :=
  match ofUtf8? bytes with
  | some cs => .ok (String.ofList cs)
  | none => .error .notText

def readText (path : String) : m (Except FileError String) :=
  return (← host.readFile path).bind toText

def readInputText : m (Except FileError String) :=
  return (← host.readInput).bind toText

end Host

end Witnessed
