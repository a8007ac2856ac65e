import Witnessed.Endian

/-!
The twisted Edwards curve -x² + y² = 1 + d x² y² over the integers modulo 2^255 - 19. Points
are held as (X, Y, Z, T) with x = X/Z, y = Y/Z and XY = ZT, so that adding needs no division;
one addition law covers all pairs of points, equal ones included.
-/

namespace Witnessed.Edwards

/-- The weight of the highest bit of 32 bytes, which carries the sign of x. -/
def signWeight : Nat := 1 <<< 255

/-- The prime of the field. -/
def prime : Nat := signWeight - 19

/-- The order of the base point, a prime. -/
def order : Nat := (1 <<< 252) + 27742317777372353535851937790883648493

def add (a b : Nat) : Nat := (a + b) % prime

def sub (a b : Nat) : Nat := (a + (prime - b % prime)) % prime

def mul (a b : Nat) : Nat := a * b % prime

/-- The bits of a number below 2^256, the highest first. -/
def bits (n : Nat) : List Bool :=
  (List.range 256).reverse.map n.testBit

def pow (a n : Nat) : Nat :=
  (bits n).foldl (fun r bit => if bit then mul (mul r r) a else mul r r) 1

/-- The inverse of a number that is not a multiple of the prime. -/
def inverse (a : Nat) : Nat :=
  pow a (prime - 2)

/-- The curve's d, which is -121665/121666. -/
def coefficient : Nat :=
  mul (prime - 121665) (inverse 121666)

/-- A square root of -1. -/
def rootOfMinusOne : Nat :=
  pow 2 ((prime - 1) / 4)

structure Point where
  x : Nat
  y : Nat
  z : Nat
  t : Nat

namespace Point

/-- The neutral element. -/
def zero : Point := ⟨0, 1, 1, 0⟩

def ofAffine (x y : Nat) : Point := ⟨x, y, 1, mul x y⟩

def neg (p : Point) : Point := ⟨sub 0 p.x, p.y, p.z, sub 0 p.t⟩

def plus (p q : Point) : Point :=
  let a := mul (sub p.y p.x) (sub q.y q.x)
  let b := mul (add p.y p.x) (add q.y q.x)
  let c := mul (mul 2 coefficient) (mul p.t q.t)
  let d := mul 2 (mul p.z q.z)
  let e := sub b a
  let f := sub d c
  let g := add d c
  let h := add b a
  ⟨mul e f, mul g h, mul f g, mul e h⟩

/-- The sum of `n` copies of a point, for `n` below 2^256. -/
def times (n : Nat) (p : Point) : Point :=
  (bits n).foldl (fun r bit => if bit then (r.plus r).plus p else r.plus r) zero

end Point

/-- A square root of `u / v`, if there is one: the even one. -/
def rootOfRatio? (u v : Nat) : Option Nat :=
  let guess := mul (mul u (pow v 3)) (pow (mul u (pow v 7)) ((prime - 5) / 8))
  let even := fun r => if r % 2 = 0 then r else prime - r
  let square := mul v (mul guess guess)
  if square = u % prime then some (even guess)
  else if square = sub 0 u then some (even (mul guess rootOfMinusOne))
  else none

/-- The point whose y coordinate and sign of x are given in 32 bytes. The coordinate may be
written above the prime, and a zero x may carry the sign. -/
def decompress? (bytes : List UInt8) : Option Point :=
  let n := littleEndian bytes
  let y := n % signWeight % prime
  let square := mul y y
  match rootOfRatio? (sub square 1) (add (mul coefficient square) 1) with
  | none => none
  | some x => some (.ofAffine (if n.testBit 255 then sub 0 x else x) y)

def compress (p : Point) : List UInt8 :=
  let scale := inverse p.z
  let x := mul p.x scale
  let y := mul p.y scale
  toLittleEndian 32 (y + if x % 2 = 1 then signWeight else 0)

/-- The point with y = 4/5 and even x. -/
def base : Point :=
  let y := mul 4 (inverse 5)
  let square := mul y y
  .ofAffine ((rootOfRatio? (sub square 1) (add (mul coefficient square) 1)).getD 0) y

end Witnessed.Edwards
