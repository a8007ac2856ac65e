import Witnessed.Command.Toml.Table
import Witnessed.Command.Toml.Text
import Witnessed.Command.Toml.Word

/-!
Keys and values of TOML. Every reader takes something from the front and gives the rest.
-/

namespace Witnessed.Toml

/-- How many names a key may have, and how many brackets may be open at once. -/
def maxDepth : Nat := 79

/-- One name: in quotes, or bare. -/
def name? (cs : List Char) : Option (List Char × List Char) :=
  match cs with
  | '"' :: rest => basic? rest
  | '\'' :: rest => literal? rest
  | cs =>
      match cs.span isKeyChar with
      | ([], _) => none
      | found => some found

/-- A key: the names before its dots, and its last one. At most so many names. -/
def key? : Nat → List Char → Option ((List String × String) × List Char)
  | 0, _ => none
  | most + 1, cs => do
      let (name, rest) ← name? (cs.dropWhile isSpace)
      match rest.dropWhile isSpace with
      | '.' :: rest =>
          let ((path, key), rest) ← key? most rest
          return ((String.ofList name :: path, key), rest)
      | rest => return (([], String.ofList name), rest)

def isWordChar (c : Char) : Bool :=
  isKeyChar c || c == '+' || c == '.' || c == ':'

/-- A value without quotes and brackets. A date and a time can have a blank between them. -/
def word? (cs : List Char) : Option (List Char) :=
  let (word, rest) := cs.span isWordChar
  match isDate word, rest with
  | true, ' ' :: more =>
      let (time, after) := more.span isWordChar
      if time.isEmpty then some rest
      else if isTimeOfDate time then some after
      else none
  | _, rest => if isWord word then some rest else none

/-- A value that holds no other values. -/
def single? (cs : List Char) : Option (Setting × List Char) :=
  match cs with
  | '"' :: '"' :: '"' :: rest => (longBasic? rest).map fun (s, rest) => (.text s, rest)
  | '"' :: rest => (basic? rest).map fun (s, rest) => (.text s, rest)
  | '\'' :: '\'' :: '\'' :: rest => (longLiteral? rest).map fun (s, rest) => (.text s, rest)
  | '\'' :: rest => (literal? rest).map fun (s, rest) => (.text s, rest)
  | cs => (word? cs).map fun rest => (.other, rest)

/-- A key, an equals sign and a value. -/
def pair? (value : List Char → Option (Setting × List Char)) (cs : List Char) :
    Option ((List String × String × Setting) × List Char) := do
  let ((path, key), rest) ← key? maxDepth cs
  match rest with
  | '=' :: rest =>
      let (setting, rest) ← value (rest.dropWhile isSpace)
      return ((path, key, setting), rest)
  | _ => none

/-- What follows an array, after its opening bracket. Lines can end between its values, and a
comma can stand after the last one. -/
def array? (value : List Char → Option (Setting × List Char)) : Nat → List Char →
    Option (List Char)
  | 0, _ => none
  | fuel + 1, cs =>
      match skipLines false cs with
      | ']' :: rest => some rest
      | cs => do
          let (_, rest) ← value cs
          match skipLines false rest with
          | ',' :: rest => array? value fuel rest
          | ']' :: rest => some rest
          | _ => none

/-- What follows a table in braces that is not empty. It is on one line. -/
def pairs? (value : List Char → Option (Setting × List Char)) : Nat → Entries → List Char →
    Option (List Char)
  | 0, _, _ => none
  | fuel + 1, t, cs => do
      let ((path, key, setting), rest) ← pair? value cs
      let t ← t.assign path key setting
      match rest.dropWhile isSpace with
      | ',' :: rest => pairs? value fuel t rest
      | '\x7d' :: rest => some rest
      | _ => none

/-- What follows a table in braces, after the opening one. -/
def braces? (value : List Char → Option (Setting × List Char)) (cs : List Char) :
    Option (List Char) :=
  match cs.dropWhile isSpace with
  | '\x7d' :: rest => some rest
  | cs => pairs? value cs.length [] cs

/-- A value with at most so many brackets open at once. -/
def value? : Nat → List Char → Option (Setting × List Char)
  | depth + 1, '[' :: rest =>
      (array? (value? depth) (rest.length + 1) rest).map fun rest => (.other, rest)
  | depth + 1, '\x7b' :: rest =>
      (braces? (value? depth) rest).map fun rest => (.other, rest)
  | _, cs => single? cs

end Witnessed.Toml
