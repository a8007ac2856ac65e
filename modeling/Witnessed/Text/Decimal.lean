/-!
Decimals. Canonical ones have no sign, no leading zero, and a value that fits 64 bits: each
number has one spelling, so a text that is read and written again is the same text.
-/

namespace Witnessed.Decimal

/-- The decimal digits of a number, most significant first. -/
def render (n : Nat) : List Char :=
  Nat.toDigits 10 n

/-- Digits only, at least one, and a zero in front only when it stands alone. -/
def isCanonical : List Char → Bool
  | [] => false
  | [c] => c.isDigit
  | c :: rest => c.isDigit && c != '0' && rest.all Char.isDigit

/-- What stands behind a sign, if there is one. -/
def unsigned : List Char → List Char
  | '+' :: rest => rest
  | '-' :: rest => rest
  | cs => cs

/-- Digits with at most one point among them, and perhaps an exponent, which can have a sign. -/
def isMagnitude (cs : List Char) : Bool :=
  let (mantissa, power) := cs.span fun c => c != 'e' && c != 'E'
  let digits := mantissa.filter (· != '.')
  let exponent := unsigned (power.drop 1)
  mantissa.count '.' ≤ 1 && !digits.isEmpty && digits.all Char.isDigit &&
    (power.isEmpty || (!exponent.isEmpty && exponent.all Char.isDigit))

/-- The number that a canonical decimal writes, if it fits 64 bits. -/
def parse? (cs : List Char) : Option UInt64 :=
  if isCanonical cs then
    let n := Nat.ofDigitChars 10 cs 0
    if n < UInt64.size then some (UInt64.ofNat n) else none
  else
    none

end Witnessed.Decimal
