/-!
Settings as they are written down somewhere, before they mean anything.
-/

namespace Witnessed

/-- What a key is set to. Of everything but texts only the presence is kept. -/
inductive Setting
  | text (s : List Char)
  | other
  deriving DecidableEq, Repr

/-- The characters of keys that need no quotes. -/
def isKeyChar (c : Char) : Bool :=
  c.isAlphanum || c == '_' || c == '-'

/-- Keys with what they are set to. -/
abbrev Assignments := List (String × Setting)

end Witnessed
