import Witnessed.Text.Decimal
import Witnessed.Text.Hex

/-!
Values of TOML without quotes and brackets: booleans, integers of 64 bits, floating point
numbers, dates and times. Only whether a word is one of them matters.
-/

namespace Witnessed.Toml

open Decimal (unsigned)

/-- Digits, with single underscores between them. -/
def isDigits (digit : Char → Bool) : List Char → Bool
  | [] => false
  | [c] => digit c
  | c :: '_' :: rest => digit c && isDigits digit rest
  | c :: rest => digit c && isDigits digit rest

/-- Decimal digits that begin with a zero only if that is all. -/
def isWhole (cs : List Char) : Bool :=
  isDigits Char.isDigit cs && (cs.length == 1 || cs.head? != some '0')

/-- The number that digits of a base up to ten write. -/
def numberOf (base : Nat) (cs : List Char) : Nat :=
  Nat.ofDigitChars base (cs.filter (· != '_')) 0

/-- One more than the largest integer. -/
def integerLimit : Nat := UInt64.size / 2

def isBase (base : Nat) (cs : List Char) : Bool :=
  isDigits (fun c => c.isDigit && c.toNat < 48 + base) cs && numberOf base cs < integerLimit

def isInteger : List Char → Bool
  | '0' :: 'x' :: rest =>
      let digits := rest.filter (· != '_')
      isDigits (fun c => (Hex.number? [c]).isSome) rest &&
        (Hex.number? digits).any (· < integerLimit)
  | '0' :: 'o' :: rest => isBase 8 rest
  | '0' :: 'b' :: rest => isBase 2 rest
  | '-' :: rest => isWhole rest && numberOf 10 rest ≤ integerLimit
  | cs => isWhole (unsigned cs) && numberOf 10 (unsigned cs) < integerLimit

/-- Whether a decimal, a number with a power of ten, is above everything that rounds to a
number of double precision. -/
def overflows (digits : Nat) (exponent : Int) : Bool :=
  let limit := (1 <<< 1024) - (1 <<< 970)
  let size := exponent + (Nat.toDigits 10 digits).length
  if digits = 0 ∨ size < 300 then false
  else if 310 < size then true
  else
    match exponent with
    | .ofNat k => limit ≤ digits * Nat.pow 10 k
    | .negSucc k => limit * Nat.pow 10 (k + 1) ≤ digits

/-- A number with a fraction or an exponent. Positive ones must not be too large. -/
def isFraction (cs : List Char) : Bool :=
  let (number, power) := (unsigned cs).span fun c => c != 'e' && c != 'E'
  let (whole, fraction) := number.span (· != '.')
  let decimals := fraction.drop 1
  let exponent := unsigned (power.drop 1)
  let magnitude : Int := numberOf 10 exponent
  let places := (decimals.filter (· != '_')).length
  let scale := if (power.drop 1).head? = some '-' then -magnitude else magnitude
  isWhole whole && (fraction.isEmpty || isDigits Char.isDigit decimals) &&
    (power.isEmpty || isDigits Char.isDigit exponent) &&
    !(fraction.isEmpty && power.isEmpty) &&
    (cs.head? == some '-' || !overflows (numberOf 10 (whole ++ decimals)) (scale - places))

/-- Whether two digits write a number within bounds. -/
def isWithin (low high : Nat) (a b : Char) : Bool :=
  a.isDigit && b.isDigit && low ≤ numberOf 10 [a, b] && numberOf 10 [a, b] ≤ high

def daysOf (year month : Nat) : Nat :=
  if month = 2 then
    if year % 4 = 0 ∧ (year % 100 ≠ 0 ∨ year % 400 = 0) then 29 else 28
  else if month ∈ [4, 6, 9, 11] then 30
  else 31

def isDate : List Char → Bool
  | [a, b, c, d, '-', e, f, '-', g, h] =>
      let year := [a, b, c, d]
      year.all Char.isDigit && isWithin 1 12 e f &&
        isWithin 1 (daysOf (numberOf 10 year) (numberOf 10 [e, f])) g h
  | _ => false

/-- Hours, minutes, seconds, and perhaps a fraction of a second. -/
def isTime : List Char → Bool
  | a :: b :: ':' :: c :: d :: ':' :: e :: f :: rest =>
      let fractionOk := match rest with
        | [] => true
        | '.' :: digits => !digits.isEmpty && digits.all Char.isDigit
        | _ => false
      isWithin 0 23 a b && isWithin 0 59 c d && isWithin 0 60 e f && fractionOk
  | _ => false

/-- How far a time is from universal time. -/
def isOffset : List Char → Bool
  | [c] => c == 'Z' || c == 'z'
  | [sign, a, b, ':', c, d] =>
      (sign == '+' || sign == '-') && isWithin 0 23 a b && isWithin 0 59 c d
  | _ => false

/-- The time of a date, with an offset or without. -/
def isTimeOfDate (cs : List Char) : Bool :=
  let (time, offset) := cs.span fun c => c.isDigit || c == ':' || c == '.'
  isTime time && (offset.isEmpty || isOffset offset)

/-- A date, a time, or both in one word. -/
def isMoment (cs : List Char) : Bool :=
  let separated := match cs.drop 10 with
    | c :: time => (c == 'T' || c == 't') && isDate (cs.take 10) && isTimeOfDate time
    | [] => false
  isDate cs || isTime cs || separated

def isName (cs : List Char) : Bool :=
  cs = "true".toList || cs = "false".toList || unsigned cs = "inf".toList ||
    unsigned cs = "nan".toList

def isWord (cs : List Char) : Bool :=
  isName cs || isInteger cs || isFraction cs || isMoment cs

end Witnessed.Toml
