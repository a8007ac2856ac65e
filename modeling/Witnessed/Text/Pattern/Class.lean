import Witnessed.Text.Pattern.Escape

/-!
Classes of characters between brackets: characters, ranges, named classes and further classes,
with operators between them that subtract and intersect.
-/

namespace Witnessed.Pattern

/-- How deep things nest that stand side by side. One thing alone adds nothing. -/
def sideBySide : List Nat → Nat
  | [] => 0
  | [depth] => depth
  | depths => depths.foldl max 0 + 1

end Witnessed.Pattern

namespace Witnessed.Pattern.Class

def names : List String :=
  ["alnum", "alpha", "ascii", "blank", "cntrl", "digit", "graph", "lower", "print", "punct",
    "space", "upper", "word", "xdigit"]

/-- Whether a named class is negated, read after its opening bracket, and what follows it. -/
def named? : List Char → Option (Bool × List Char)
  | ':' :: cs =>
      let negated := cs.head? = some '^'
      match (if negated then cs.tail else cs).span (· != ':') with
      | (name, ':' :: ']' :: rest) =>
          if names.contains (String.ofList name) then some (negated, rest) else none
      | _ => none
  | _ => none

/-- An end of a range, and what follows it. -/
def atom? (o : Options) : List Char → Option (Atom × List Char)
  | [] => none
  | '\\' :: rest => escape? o rest
  | c :: rest => some (.char c, rest)

/-- Whether a class can hold a character. -/
def holds (o : Options) (c : Char) : Bool :=
  o.unicode || c.toNat < 0x80

def isMember (o : Options) : Atom → Bool
  | .char c => holds o c
  | .anyOf => true
  | .place => false

/-- The character that counts next. Of comments only the number sign is left out. -/
def next? (o : Options) (cs : List Char) : Option Char :=
  if o.spaced then
    match cs.dropWhile isBlank with
    | '#' :: rest => (rest.dropWhile isBlank).head?
    | rest => rest.head?
  else
    cs.head?

/-- What follows a character, a range, or another escape. A hyphen before the closing bracket or
before another hyphen makes no range. -/
def item? (o : Options) (cs : List Char) : Option (List Char) := do
  let (first, rest) ← atom? o cs
  let rest := o.skip rest
  if rest.head? = some '-' && !([some ']', some '-'].contains (next? o rest.tail)) then
    let (last, rest) ← atom? o (o.skip rest.tail)
    match first, last with
    | .char a, .char b => if holds o a && holds o b && a.toNat ≤ b.toNat then rest else none
    | _, _ => none
  else if isMember o first then rest
  else none

/-- What follows the opening bracket of a class, and the mark that negates it. A class of bytes
cannot be negated, as bytes beyond ASCII would be in it. -/
def opened? (o : Options) (cs : List Char) : Option (List Char) :=
  match o.skip cs with
  | '^' :: rest => if o.unicode then some rest else none
  | rest => some rest

/-- How deep a class nests, and what follows its closing bracket. What stands before the last
operator nests as deep as `left`, what stands after it so far as deep as `items`. In front there
are only hyphens, which stand for themselves, and so does a closing bracket in the first place. -/
def members? (o : Options) : Nat → Bool → Option Nat → List Nat → List Char →
    Option (Nat × List Char)
  | 0, _, _, _, _ => none
  | fuel + 1, front, left, items, cs =>
      let depth := match left with
        | none => sideBySide items
        | some depth => max depth (sideBySide items) + 1
      let another (front : Bool) (rest : List Char) :=
        if o.hasLiterals then members? o fuel front left (0 :: items) rest else none
      match front, items, o.skip cs with
      | _, _, [] => none
      | true, _, '-' :: rest => another true rest
      | true, [], ']' :: rest => another false rest
      | _, _, ']' :: rest => some (depth + 1, rest)
      | _, _, '&' :: '&' :: rest | _, _, '-' :: '-' :: rest | _, _, '~' :: '~' :: rest =>
          members? o fuel false (some depth) [] rest
      | _, _, '[' :: rest =>
          match named? rest with
          | some (negated, rest) =>
              if negated && !o.unicode then none else another false rest
          | none => do
              let (inner, rest) ← members? o fuel true none [] (← opened? o rest)
              members? o fuel false left (inner :: items) rest
      | _, _, cs => do another false (← item? o cs)

/-- How deep a class nests, read after its opening bracket, and what follows it. -/
def read? (o : Options) (cs : List Char) : Option (Nat × List Char) := do
  members? o (cs.length + 1) true none [] (← opened? o cs)

end Witnessed.Pattern.Class
