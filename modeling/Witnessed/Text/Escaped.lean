import Witnessed.Text.Hex

/-!
Texts between double quotes in which a backslash begins an escape: where such a text ends, and
what it stands for.
-/

namespace Witnessed.Escaped

/-- Whether a character may stand for itself on a line: no control character but the tab. -/
def isPlain (c : Char) : Bool :=
  c == '\t' || (0x20 ≤ c.toNat && c.toNat != 0x7f)

/-- The text up to the first double quote that is not escaped, and what follows that quote. -/
def untilQuote : List Char → Option (List Char × List Char)
  | [] => none
  | '"' :: rest => some ([], rest)
  | '\\' :: c :: rest => do
      let (s, rest) ← untilQuote rest
      return ('\\' :: c :: s, rest)
  | c :: rest => do
      let (s, rest) ← untilQuote rest
      return (c :: s, rest)

/-- What a backslash and one more character stand for. -/
def letter? (c : Char) : Option Char :=
  [('b', '\x08'), ('t', '\t'), ('n', '\n'), ('f', '\x0c'), ('r', '\r'), ('"', '"'),
    ('\\', '\\')].lookup c

/-- The character with the code point that hexadecimal digits write, if there is one. -/
def scalar? (digits : List Char) : Option Char := do
  let n ← Hex.number? digits
  if n.isValidChar then some (Char.ofNat n) else none

/-- What a text stands for in which only the given characters may stand for themselves. -/
def unescape (plain : Char → Bool) : List Char → Option (List Char)
  | [] => some []
  | '\\' :: 'u' :: a :: b :: c :: d :: rest => do
      return (← scalar? [a, b, c, d]) :: (← unescape plain rest)
  | '\\' :: 'U' :: a :: b :: c :: d :: e :: f :: g :: h :: rest => do
      return (← scalar? [a, b, c, d, e, f, g, h]) :: (← unescape plain rest)
  | '\\' :: c :: rest => do
      return (← letter? c) :: (← unescape plain rest)
  | c :: rest => do
      if c = '\\' ∨ plain c = false then none
      return c :: (← unescape plain rest)

end Witnessed.Escaped
