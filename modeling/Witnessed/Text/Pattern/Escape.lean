import Witnessed.Text.Blank
import Witnessed.Text.Escaped

/-!
What a pattern can hold outside and inside brackets: blanks that do not count, and escapes.
-/

namespace Witnessed.Pattern

/-- The options of a pattern that decide what may follow them. -/
structure Options where
  /-- Characters are code points, not bytes. -/
  unicode : Bool := true
  foldsCase : Bool := false
  /-- Blanks do not count, and a number sign begins a comment. -/
  spaced : Bool := false
  deriving DecidableEq, Repr

/-- The text behind blanks and comments. A comment ends with its line. -/
def afterBlanks (inComment : Bool) : List Char → List Char
  | [] => []
  | c :: rest =>
      if inComment then afterBlanks (c != '\n') rest
      else if isBlank c then afterBlanks false rest
      else if c == '#' then afterBlanks true rest
      else c :: rest

def Options.skip (o : Options) (cs : List Char) : List Char :=
  if o.spaced then afterBlanks false cs else cs

/-- Whether characters can stand for themselves. No table of letter cases reaches beyond ASCII,
so cases cannot be folded where characters are code points. -/
def Options.hasLiterals (o : Options) : Bool :=
  !(o.unicode && o.foldsCase)

/-- What an escape stands for: a character, one of several characters, or a place between
characters. -/
inductive Atom
  | char (c : Char)
  | anyOf
  | place
  deriving DecidableEq, Repr

/-- As many characters as given, blanks between them left out, and what follows. -/
def digits? (o : Options) : Nat → List Char → Option (List Char × List Char)
  | 0, cs => some ([], cs)
  | n + 1, cs =>
      match o.skip cs with
      | [] => none
      | c :: rest => (digits? o n rest).map fun (digits, rest) => (c :: digits, rest)

/-- Letters that announce hexadecimal digits, and how many. -/
def digitCounts : List (Char × Nat) :=
  [('x', 2), ('u', 4), ('U', 8)]

def controlLetters : List (Char × Char) :=
  [('a', '\x07'), ('f', '\x0c'), ('n', '\n'), ('r', '\r'), ('t', '\t'), ('v', '\x0b')]

/-- What a backslash and one more character stand for. The classes of digits, blanks and word
characters exist for bytes alone, and so do the boundaries of words. -/
def letter? (o : Options) (c : Char) : Option Atom :=
  if ['A', 'z'].contains c then some .place
  else if ['d', 's', 'w'].contains c then if o.unicode then none else some .anyOf
  else if ['b', 'B', '<', '>'].contains c then if o.unicode then none else some .place
  else if c.isAlphanum then (controlLetters.lookup c).map .char
  else if c.toNat < 0x80 then some (.char c)
  else none

/-- What an escape stands for, read after its backslash, and what follows it. A byte beyond
ASCII stands for no character. -/
def escape? (o : Options) : List Char → Option (Atom × List Char)
  | [] => none
  | c :: rest =>
      match digitCounts.lookup c with
      | some count => do
          let (digits, rest) ← digits? o count rest
          let d ← Escaped.scalar? digits
          if !o.unicode && c == 'x' && 0x80 ≤ d.toNat then none
          return (.char d, rest)
      | none => (letter? o c).map (·, rest)

end Witnessed.Pattern
