import Witnessed.Text.Letters
import Witnessed.Text.Pattern.Escape

/-!
What an opening parenthesis begins: a group, which can have a name or options of its own, or
options for what follows.
-/

namespace Witnessed.Pattern

inductive Opening
  | group (options : Options) (name : Option (List Char))
  | options (options : Options)
  deriving DecidableEq, Repr

namespace Opening

def isName : List Char → Bool
  | [] => false
  | c :: rest =>
      (c == '_' || isLetter c) &&
        rest.all fun c => ['_', '.', '[', ']'].contains c || isLetter c || isNumeral c

/-- A minus sign stands once and turns off what follows it, and no option is given twice. -/
def areOptions (letters : List Char) : Bool :=
  letters.all ['i', 'm', 's', 'U', 'u', 'R', 'x', '-'].contains && letters.Nodup &&
    letters.getLast? != some '-'

/-- Whether an option is on, given whether it was. -/
def isOn (letters : List Char) (option : Char) (before : Bool) : Bool :=
  if letters.contains option then !(letters.takeWhile (· != option)).contains '-' else before

def apply (letters : List Char) (o : Options) : Options where
  unicode := isOn letters 'u' o.unicode
  foldsCase := isOn letters 'i' o.foldsCase
  spaced := isOn letters 'x' o.spaced

/-- What a parenthesis opens, and what follows. -/
def read? (o : Options) (cs : List Char) : Option (Opening × List Char) :=
  match o.skip cs with
  | '?' :: '<' :: rest | '?' :: 'P' :: '<' :: rest =>
      match rest.span (· != '>') with
      | (name, '>' :: rest) => if isName name then some (.group o (some name), rest) else none
      | _ => none
  | '?' :: rest =>
      match rest.span fun c => c != ':' && c != ')' with
      | (letters, stop :: rest) =>
          if !areOptions letters then none
          else if stop == ':' then some (.group (apply letters o) none, rest)
          else if letters.isEmpty then none
          else some (.options (apply letters o), rest)
      | _ => none
  | rest => some (.group o none, rest)

end Opening

end Witnessed.Pattern
