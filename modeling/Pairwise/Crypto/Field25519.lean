import Pairwise.Bytes
/-!
# The field of 2^255 - 19 elements

Elements are natural numbers below the prime. The module holds the field operations, powers,
square roots, and the bytes of an element.
-/
namespace Pairwise

namespace Field25519

/-- The prime `2 ^ 255 - 19`. -/
def p : Nat := 0x7fffffffffffffffffffffffffffffffffffffffffffffffffffffffffffffed

def add (x y : Nat) : Nat := (x + y) % p

def sub (x y : Nat) : Nat := (x + (p - y % p)) % p

def mul (x y : Nat) : Nat := x * y % p

def neg (x : Nat) : Nat := sub 0 x

/-- The power of an element, by repeated squaring. -/
def pow (x n : Nat) : Nat :=
  if h : n = 0 then 1
  else
    let half := pow (mul x x) (n / 2)
    if n % 2 = 0 then half else mul x half
termination_by n
decreasing_by omega

/-- The inverse of an element; zero for zero. -/
def inv (x : Nat) : Nat := pow x (p - 2)

/-- A square root of minus one. -/
def sqrtMinusOne : Nat := 0x2b8324804fc1df0b2b4d00993dfbd7a72f431806ad2fe478c4ee1b274a0ea0b0

/-- The even one of the two roots of `u / v`, if `u / v` is a square. -/
def sqrtRatio? (u v : Nat) : Option Nat :=
  let v3 := mul (mul v v) v
  let v7 := mul (mul v3 v3) v
  let r := mul (mul u v3) (pow (mul u v7) ((p - 5) / 8))
  let check := mul v (mul r r)
  let even (x : Nat) : Nat := if x % 2 = 0 then x else neg x
  if check = u % p then some (even r)
  else if check = neg u then some (even (mul r sqrtMinusOne))
  else none

/-- The element that 32 bytes write; the top bit does not count. -/
def ofBytes (bytes : Bytes) : Nat := bytes.toNatLE % Nat.pow 2 255 % p

/-- The 32 bytes of an element. -/
def toBytes (x : Nat) : Bytes := Bytes.ofNatLE 32 (x % p)

end Field25519

end Pairwise
