import Witnessed.Text.Escaped

/-!
What TOML is made of below values: blanks, line ends, comments, and the four kinds of texts.
Every reader takes something from the front and gives the rest.
-/

namespace Witnessed.Toml

open Escaped (isPlain)

def isSpace (c : Char) : Bool := c == ' ' || c == '\t'

/-- What follows a line end. A carriage return is part of one only before a line feed. -/
def newline? : List Char → Option (List Char)
  | '\n' :: rest => some rest
  | '\r' :: '\n' :: rest => some rest
  | _ => none

/-- The next line, if this one ends here but for blanks and a comment. -/
def lineEnd? (cs : List Char) : Option (List Char) :=
  let cs := match cs.dropWhile isSpace with
    | '#' :: comment => comment.dropWhile isPlain
    | cs => cs
  if cs.isEmpty then some [] else newline? cs

/-- Leaves out blanks, line ends and comments; starts inside a comment or outside. -/
def skipLines (comment : Bool) : List Char → List Char
  | [] => []
  | '\r' :: '\n' :: rest => skipLines false rest
  | c :: rest =>
      if c == '\n' then skipLines false rest
      else if comment then if isPlain c then skipLines true rest else c :: rest
      else if isSpace c then skipLines false rest
      else if c == '#' then skipLines true rest
      else c :: rest

/-- A text with escapes on one line, after its opening quote. -/
def basic? (cs : List Char) : Option (List Char × List Char) := do
  let (s, rest) ← Escaped.untilQuote cs
  return (← Escaped.unescape isPlain s, rest)

/-- A text without escapes on one line, after its opening quote. -/
def literal? (cs : List Char) : Option (List Char × List Char) :=
  match cs.span fun c => isPlain c && c != '\'' with
  | (s, '\'' :: rest) => some (s, rest)
  | _ => none

/-- The text up to three quotes, and what follows them. Two quotes more can stand before these
and belong to the text. Starts behind a backslash or not. -/
def untilQuotes (quote : Char) (escapes : Bool) : Bool → List Char →
    Option (List Char × List Char)
  | _, [] => none
  | true, c :: rest => do
      let (s, rest) ← untilQuotes quote escapes false rest
      return (c :: s, rest)
  | false, c :: rest =>
      let run := ((c :: rest).takeWhile (· == quote)).length
      if 3 ≤ run then
        let inside := min (run - 3) 2
        some (List.replicate inside quote, (c :: rest).drop (inside + 3))
      else do
        let (s, rest) ← untilQuotes quote escapes (escapes && c == '\\') rest
        return (c :: s, rest)

/-- Every line end as a line feed. -/
def unifyLines : List Char → List Char
  | [] => []
  | '\r' :: '\n' :: rest => '\n' :: unifyLines rest
  | c :: rest => c :: unifyLines rest

/-- A backslash at the end of a line goes, and with it the blanks and line ends that follow.
Starts among those or not. -/
def joinLines (skip : Bool) : List Char → List Char
  | [] => []
  | c :: rest =>
      if skip && (isSpace c || c == '\n') then joinLines true rest
      else if c == '\\' then
        if (rest.dropWhile isSpace).head? == some '\n' then joinLines true rest
        else
          match rest with
          | [] => [c]
          | d :: rest => c :: d :: joinLines false rest
      else c :: joinLines false rest

def isPlainOrNewline (c : Char) : Bool := isPlain c || c == '\n'

/-- A text of several lines, without the line end that may follow its opening quotes. -/
def withoutFirstNewline (cs : List Char) : List Char :=
  (newline? cs).getD cs

/-- A text with escapes on several lines, after its opening quotes. -/
def longBasic? (cs : List Char) : Option (List Char × List Char) := do
  let (s, rest) ← untilQuotes '"' true false (withoutFirstNewline cs)
  return (← Escaped.unescape isPlainOrNewline (joinLines false (unifyLines s)), rest)

/-- A text without escapes on several lines, after its opening quotes. -/
def longLiteral? (cs : List Char) : Option (List Char × List Char) := do
  let (s, rest) ← untilQuotes '\'' false false (withoutFirstNewline cs)
  let s := unifyLines s
  if s.all isPlainOrNewline then some (s, rest) else none

end Witnessed.Toml
