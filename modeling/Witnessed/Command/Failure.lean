/-!
Why a command gives up: what it was about, and what went wrong behind that.
-/

namespace Witnessed

structure Failure where
  message : String
  /-- From the nearest to the farthest. Nothing if there are causes but no words for them. -/
  causes : Option (List String)
  deriving DecidableEq, Repr

namespace Failure

def of (message : String) : Failure := ⟨message, some []⟩

def because (message : String) (causes : List String) : Failure := ⟨message, some causes⟩

def unexplained (message : String) : Failure := ⟨message, none⟩

/-- A text whose lines after the first are moved to the right. -/
def indented (first later : List Char) (text : String) : List Char :=
  first ++ ('\n' :: later).intercalate (text.toList.splitOn '\n')

/-- The causes; several ones are numbered. -/
def causeLines : List String → List Char
  | [] => []
  | [cause] => "\nCaused by:\n".toList ++ indented "    ".toList "    ".toList cause ++ ['\n']
  | causes =>
      "\nCaused by:\n".toList ++ causes.zipIdx.flatMap fun (cause, i) =>
        let number := Nat.toDigits 10 i
        indented (List.replicate (5 - number.length) ' ' ++ number ++ ": ".toList)
          (List.replicate 7 ' ') cause ++ ['\n']

def report (f : Failure) : String :=
  match f.causes with
  | none => "Error: " ++ f.message
  | some causes => "Error: " ++ f.message ++ "\n" ++ String.ofList (causeLines causes)

end Failure

end Witnessed
