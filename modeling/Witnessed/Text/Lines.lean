/-!
Lines, each ended by a line feed.
-/

namespace Witnessed

/-- The lines of a text that ends in a line feed, without their line feeds. Any other text
gives the number of its last, unended line. -/
def linesOf (cs : List Char) : Except Nat (List (List Char)) :=
  let pieces := cs.splitOn '\n'
  if pieces.getLast? = some [] ∧ 1 < pieces.length then .ok pieces.dropLast
  else .error pieces.length

/-- The lines, each followed by a line feed. -/
def unlines (lines : List (List Char)) : List Char :=
  lines.flatMap (· ++ ['\n'])

/-- What follows `front`, if the text starts with it. -/
def after? (front cs : List Char) : Option (List Char) :=
  if front.isPrefixOf cs then some (cs.drop front.length) else none

end Witnessed
