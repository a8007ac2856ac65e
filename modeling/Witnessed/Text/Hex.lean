/-!
Hexadecimal: bytes written with two lowercase digits each, and a reader for a known number of
bytes that takes either letter case.
-/

namespace Witnessed.Hex

/-- The lowercase digit of a value below sixteen. -/
def digit (n : Nat) : Char :=
  if n < 10 then Char.ofNat (48 + n) else Char.ofNat (87 + n)

/-- The value of a digit, given as an ASCII byte. -/
def value? (b : UInt8) : Option Nat :=
  if 48 ≤ b ∧ b ≤ 57 then some (b.toNat - 48)
  else if 97 ≤ b ∧ b ≤ 102 then some (b.toNat - 87)
  else if 65 ≤ b ∧ b ≤ 70 then some (b.toNat - 55)
  else none

/-- The number that digits write, most significant first. -/
def number? (digits : List Char) : Option Nat :=
  digits.foldlM (fun n c =>
    if c.toNat < 0x80 then (value? (UInt8.ofNat c.toNat)).map (n * 16 + ·) else none) 0

def encode : List UInt8 → List Char
  | [] => []
  | b :: rest => digit (b.toNat / 16) :: digit (b.toNat % 16) :: encode rest

inductive Fault
  | oddLength
  | wrongLength
  | badDigit (byte : UInt8) (position : Nat)
  deriving DecidableEq, Repr

def nibble (position : Nat) (b : UInt8) : Except Fault Nat :=
  match value? b with
  | none => .error (.badDigit b position)
  | some n => .ok n

/-- Reads pairs of digits; `position` is where the first of them stands in the whole text. -/
def decodePairs (position : Nat) : List UInt8 → Except Fault (List UInt8)
  | [] => .ok []
  | [_] => .error .oddLength
  | high :: low :: rest => do
      let h ← nibble position high
      let l ← nibble (position + 1) low
      let bytes ← decodePairs (position + 2) rest
      return UInt8.ofNat (h * 16 + l) :: bytes

/-- Reads exactly `size` bytes from the UTF-8 bytes of a text. The length is judged before any
digit is looked at. -/
def decode (size : Nat) (text : List UInt8) : Except Fault (List UInt8) :=
  if text.length % 2 = 1 then .error .oddLength
  else if text.length / 2 ≠ size then .error .wrongLength
  else decodePairs 0 text

end Witnessed.Hex
