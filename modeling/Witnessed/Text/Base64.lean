/-!
Base64 in the standard alphabet with canonical padding. Four symbols are three bytes; the last
group may be shorter, filled up with `=`, and then its unused bits are zero. So bytes have one
spelling.
-/

namespace Witnessed.Base64

/-- The symbol of a value below sixty-four. -/
def symbol (n : Nat) : Char :=
  if n < 26 then Char.ofNat (65 + n)
  else if n < 52 then Char.ofNat (71 + n)
  else if n < 62 then Char.ofNat (n - 4)
  else if n = 62 then '+' else '/'

/-- The value of a symbol, given as an ASCII byte. -/
def value? (b : UInt8) : Option Nat :=
  if 65 ≤ b ∧ b ≤ 90 then some (b.toNat - 65)
  else if 97 ≤ b ∧ b ≤ 122 then some (b.toNat - 71)
  else if 48 ≤ b ∧ b ≤ 57 then some (b.toNat + 4)
  else if b = 43 then some 62
  else if b = 47 then some 63
  else none

/-- The byte of `=`. -/
def pad : UInt8 := 61

def encode : List UInt8 → List Char
  | [] => []
  | [a] => [symbol (a.toNat / 4), symbol (a.toNat % 4 * 16), '=', '=']
  | [a, b] =>
      [symbol (a.toNat / 4), symbol (a.toNat % 4 * 16 + b.toNat / 16),
        symbol (b.toNat % 16 * 4), '=']
  | a :: b :: c :: rest =>
      symbol (a.toNat / 4) :: symbol (a.toNat % 4 * 16 + b.toNat / 16) ::
        symbol (b.toNat % 16 * 4 + c.toNat / 64) :: symbol (c.toNat % 64) :: encode rest

inductive Fault
  | badSymbol (byte : UInt8) (position : Nat)
  | badLength (symbols : Nat)
  | badPadding
  | strayBits (byte : UInt8) (position : Nat)
  deriving DecidableEq, Repr

def sextet (position : Nat) (b : UInt8) : Except Fault Nat :=
  match value? b with
  | none => .error (.badSymbol b position)
  | some n => .ok n

/-- The symbols of the last group, each with its value, and the number of pads after them. Two
symbols come before the first pad, and none after it. -/
def splitTail (position : Nat) :
    (symbols : List (UInt8 × Nat)) → (pads : Nat) → List UInt8 →
      Except Fault (List (UInt8 × Nat) × Nat)
  | symbols, pads, [] => .ok (symbols, pads)
  | symbols, pads, b :: rest =>
      if b = pad then
        if symbols.length + pads < 2 then .error (.badSymbol b (position + symbols.length + pads))
        else splitTail position symbols (pads + 1) rest
      else if 0 < pads then .error (.badSymbol pad (position + symbols.length))
      else do
        let n ← sextet (position + symbols.length) b
        splitTail position (symbols ++ [(b, n)]) pads rest

/-- Reads the last group, of at most four bytes. -/
def decodeTail (position : Nat) (tail : List UInt8) : Except Fault (List UInt8) :=
  if tail = [] then .ok []
  else do
    match ← splitTail position [] 0 tail with
    | ([(_, a), (y, b)], pads) =>
        if pads ≠ 2 then .error .badPadding
        else if b % 16 ≠ 0 then .error (.strayBits y (position + 1))
        else .ok [UInt8.ofNat (a * 4 + b / 16)]
    | ([(_, a), (_, b), (z, c)], pads) =>
        if pads ≠ 1 then .error .badPadding
        else if c % 4 ≠ 0 then .error (.strayBits z (position + 2))
        else .ok [UInt8.ofNat (a * 4 + b / 16), UInt8.ofNat (b % 16 * 16 + c / 4)]
    | ([(_, a), (_, b), (_, c), (_, d)], _) =>
        .ok [UInt8.ofNat (a * 4 + b / 16), UInt8.ofNat (b % 16 * 16 + c / 4),
          UInt8.ofNat (c % 4 * 64 + d)]
    | (symbols, _) => .error (.badLength (position + symbols.length))

/-- Reads the groups of four that have something after them, then the last group. -/
def decodeGroups (position : Nat) : List UInt8 → Except Fault (List UInt8)
  | w :: x :: y :: z :: next :: rest => do
      let a ← sextet position w
      let b ← sextet (position + 1) x
      let c ← sextet (position + 2) y
      let d ← sextet (position + 3) z
      let bytes ← decodeGroups (position + 4) (next :: rest)
      return UInt8.ofNat (a * 4 + b / 16) :: UInt8.ofNat (b % 16 * 16 + c / 4) ::
        UInt8.ofNat (c % 4 * 64 + d) :: bytes
  | tail => decodeTail position tail

/-- Reads the bytes that the UTF-8 bytes of a text spell. A foreign byte that stands alone
after whole groups, such as a line end, is reported before anything else. -/
def decode (text : List UInt8) : Except Fault (List UInt8) :=
  match text.getLast? with
  | some last =>
      if text.length % 4 = 1 ∧ last ≠ pad ∧ value? last = none then
        .error (.badSymbol last (text.length - 1))
      else decodeGroups 0 text
  | none => .ok []

end Witnessed.Base64
