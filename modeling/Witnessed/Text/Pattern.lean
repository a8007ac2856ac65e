import Witnessed.Text.Pattern.Class
import Witnessed.Text.Pattern.Group

/-!
Patterns for texts, in the usual notation of regular expressions: only whether one is well formed.
There are no counted repetitions, so an opening brace stands in classes alone.
-/

namespace Witnessed.Pattern

/-- What stands beside others in an alternative, by how deep it nests. -/
structure Item where
  depth : Nat := 0
  /-- Options cannot be repeated. -/
  repeatable : Bool := true
  deriving DecidableEq, Repr

/-- What was read of a group: the alternatives before the last one, by their depths, and the items
of the last one, the latest first. -/
structure Level where
  options : Options := {}
  alternatives : List Nat := []
  items : List Item := []
  deriving DecidableEq, Repr

namespace Level

def alternative (l : Level) : Nat :=
  sideBySide (l.items.map (·.depth))

def depth (l : Level) : Nat :=
  sideBySide (l.alternative :: l.alternatives)

def push (l : Level) (item : Item) : Level :=
  { l with items := item :: l.items }

end Level

/-- What was read of a pattern: the innermost group that is open, the groups around it, and the
names of all groups. -/
structure Progress where
  level : Level := {}
  outer : List Level := []
  names : List (List Char) := []
  deriving DecidableEq, Repr

namespace Progress

def options (p : Progress) : Options :=
  p.level.options

def push (p : Progress) (item : Item) : Progress :=
  { p with level := p.level.push item }

/-- A character that stands for itself. -/
def literal? (p : Progress) : Option Progress :=
  if p.options.hasLiterals then some (p.push {}) else none

/-- Options hold up to the end of the group that they stand in, also in its other alternatives. -/
def open? (p : Progress) : Opening → Option Progress
  | .options o => some { p with level := { p.level.push ⟨0, false⟩ with options := o } }
  | .group o name =>
      if name.any p.names.contains then none
      else some ⟨{ options := o }, p.level :: p.outer, name.toList ++ p.names⟩

def close? (p : Progress) : Option Progress :=
  match p.outer with
  | [] => none
  | around :: outer =>
      some { p with level := around.push ⟨p.level.depth + 1, true⟩, outer := outer }

def nextAlternative (p : Progress) : Progress :=
  { p with
    level.alternatives := p.level.alternative :: p.level.alternatives
    level.items := [] }

def repeat? (p : Progress) : Option Progress :=
  match p.level.items with
  | ⟨depth, true⟩ :: items => some { p with level.items := ⟨depth + 1, true⟩ :: items }
  | _ => none

/-- Reads on after the character `c`, and gives what follows. A question mark behind a repetition
belongs to it. A dot stands for a code point, never for a byte. -/
def step? (p : Progress) (c : Char) (rest : List Char) : Option (Progress × List Char) :=
  match c with
  | '(' => do
      let (opening, rest) ← Opening.read? p.options rest
      return (← p.open? opening, rest)
  | ')' => p.close?.map (·, rest)
  | '|' => some (p.nextAlternative, rest)
  | '*' | '+' | '?' =>
      p.repeat?.map (·, if rest.head? = some '?' then rest.tail else rest)
  | '\x7b' => none
  | '[' => (Class.read? p.options rest).map fun (depth, rest) => (p.push ⟨depth, true⟩, rest)
  | '.' => if p.options.unicode then some (p.push {}, rest) else none
  | '^' | '$' => some (p.push {}, rest)
  | '\\' => do
      let (atom, rest) ← escape? p.options rest
      match atom with
      | .char _ => p.literal?.map (·, rest)
      | _ => return (p.push {}, rest)
  | _ => p.literal?.map (·, rest)

/-- How deep a pattern nests whose groups are all closed. -/
def depth? : Nat → Progress → List Char → Option Nat
  | 0, _, _ => none
  | fuel + 1, p, cs =>
      match p.options.skip cs with
      | [] => if p.outer.isEmpty then some p.level.depth else none
      | c :: rest => do
          let (p, rest) ← p.step? c rest
          depth? fuel p rest

end Progress

def maxDepth : Nat := 250

def isWellFormed (cs : List Char) : Bool :=
  (Progress.depth? (cs.length + 1) {} cs).any (· ≤ maxDepth)

end Witnessed.Pattern
