import Witnessed.Command.Setting
import Witnessed.Text.Blank
import Witnessed.Text.Decimal
import Witnessed.Text.Escaped

/-!
Settings in environment variables. A value can be a text in quotes, a number, a boolean, or
several values in brackets; whatever is none of these is a text as it stands.
-/

namespace Witnessed.Variable

open Decimal (unsigned)

/-- Blanks around values. -/
def isSpace (c : Char) : Bool :=
  [' ', '\t', '\n', '\x0c', '\r'].contains c

/-- The characters that end a word. -/
def isSeparator (c : Char) : Bool :=
  [',', '\x7b', '\x7d', '[', ']'].contains c

/-- Whether a word is an integer of 64 bits, with or without a sign. -/
def isInteger (cs : List Char) : Bool :=
  let digits := unsigned cs
  let n := Nat.ofDigitChars 10 digits 0
  !digits.isEmpty && digits.all Char.isDigit &&
    (if cs.head? = some '-' then n ≤ UInt64.size / 2 else n < UInt64.size)

/-- Whether a word is a number with a point, and perhaps an exponent. -/
def isFraction (cs : List Char) : Bool :=
  cs.contains '.' && Decimal.isMagnitude (unsigned cs)

/-- What a word without quotes and brackets is. Blanks around it do not belong to it. -/
def ofWord (cs : List Char) : Setting :=
  let word := trim cs
  if isInteger word || isFraction word then .other else .text word

/-- As much from the front of a text as so many bytes hold. -/
def fitting (bytes : Nat) : List Char → List Char
  | [] => []
  | c :: rest => if c.utf8Size ≤ bytes then c :: fitting (bytes - c.utf8Size) rest else []

/-- What a text in quotes stands for. If there are escapes, the text before the first one is cut
to as many bytes as it has characters. -/
def unescape? (cs : List Char) : Option (List Char) := do
  let text ← Escaped.unescape Escaped.isPlain cs
  let before := cs.takeWhile (· != '\\')
  if before = cs then return text
  return fitting before.length before ++ text.drop before.length

/-- A text after its opening quote, and what follows the closing one. -/
def quoted? (cs : List Char) : Option (List Char × List Char) := do
  let (s, rest) ← Escaped.untilQuote cs
  return (← unescape? s, rest)

/-- What follows a key, an equals sign and a value. -/
def pair? (value : List Char → Option (Setting × List Char)) (cs : List Char) :
    Option (List Char) := do
  let rest ← match cs.dropWhile isSpace with
    | '"' :: rest => (quoted? rest).map (·.2)
    | cs =>
        match cs.span isKeyChar with
        | ([], _) => none
        | (_, rest) => some rest
  match rest.dropWhile isSpace with
  | '=' :: rest => (value rest).map fun (_, rest) => rest.dropWhile isSpace
  | _ => none

/-- What follows items with commas between them, up to a closing bracket. A comma can stand
right before that. -/
def items? (item : List Char → Option (List Char)) (close : Char) : Nat → List Char →
    Option (List Char)
  | 0, _ => none
  | fuel + 1, cs => do
      if cs.head? = some close then return cs.tail
      match ← item cs with
      | ',' :: rest => items? item close fuel rest
      | c :: rest => if c = close then return rest else none
      | [] => none

/-- The value at the front of a text, with the blanks around it. The number bounds how many
brackets can be open. -/
def value? : Nat → List Char → Option (Setting × List Char)
  | 0, _ => none
  | depth + 1, cs => do
      let cs := cs.dropWhile isSpace
      let (setting, rest) ←
        if "true".toList.isPrefixOf cs then some (.other, cs.drop 4)
        else if "false".toList.isPrefixOf cs then some (.other, cs.drop 5)
        else
          match cs with
          | '\x7b' :: rest =>
              (items? (pair? (value? depth)) '\x7d' cs.length rest).map (Setting.other, ·)
          | '[' :: rest =>
              (items? (fun cs => (value? depth cs).map (·.2)) ']' cs.length rest).map
                (Setting.other, ·)
          | '"' :: rest => (quoted? rest).map fun (s, rest) => (Setting.text s, rest)
          | '\'' :: c :: '\'' :: rest => some (.text [c], rest)
          | '\'' :: _ => none
          | cs =>
              let (word, rest) := cs.span (!isSeparator ·)
              some (ofWord word, rest)
      return (setting, rest.dropWhile isSpace)

/-- What the value of a variable sets. -/
def parse (s : String) : Setting :=
  let cs := s.toList
  match value? (cs.length + 1) cs with
  | some (setting, []) => setting
  | _ => .text cs

/-- What a variable assigns, if it is one of this program. Names have no letter case; one with
dots is about a part of a setting. -/
def assignment? (name value : String) : Option (String × Setting) :=
  let cs := (trim name.toList).map Char.toLower
  if "vouch_".toList.isPrefixOf cs then
    match (trim (cs.drop 6)).splitOn '.' with
    | [[]] => none
    | [key] => some (String.ofList key, parse value)
    | key :: parts => if (key :: parts).contains [] then none else some (String.ofList key, .other)
    | [] => none
  else
    none

end Witnessed.Variable
