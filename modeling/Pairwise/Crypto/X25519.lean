import Pairwise.Crypto.Ed25519
/-!
# X25519 key agreement

The ladder on the Montgomery form of the curve. Scalars are clamped, and a result of zero is not
refused.
-/
namespace Pairwise

namespace X25519

open Field25519

/-- Two points whose difference is the starting point, as quotients `x / z`. -/
structure Pair where
  x2 : Nat
  z2 : Nat
  x3 : Nat
  z3 : Nat

/-- Doubles the first of two points and adds them. -/
def Pair.step (u : Nat) (s : Pair) : Pair :=
  let a := add s.x2 s.z2
  let aa := mul a a
  let b := sub s.x2 s.z2
  let bb := mul b b
  let e := sub aa bb
  let da := mul (sub s.x3 s.z3) a
  let cb := mul (add s.x3 s.z3) b
  let plus := add da cb
  let minus := sub da cb
  ⟨mul aa bb, mul e (add aa (mul 121665 e)), mul plus plus, mul u (mul minus minus)⟩

def Pair.swap (s : Pair) : Pair := ⟨s.x3, s.z3, s.x2, s.z2⟩

/-- One bit of the scalar. -/
def Pair.bit (u : Nat) (s : Pair) (set : Bool) : Pair :=
  if set then ((s.swap).step u).swap else s.step u

/-- The coordinate of a multiple of the point with coordinate `u`. -/
def ladder (scalar u : Nat) : Nat :=
  let bits := (List.range 255).reverse.map fun i => scalar.testBit i
  let s := bits.foldl (Pair.bit u) ⟨1, 0, u, 1⟩
  mul s.x2 (inv s.z2)

/-- The secret shared between a secret scalar and a public key, each of 32 bytes. -/
def agree (secret public_ : Bytes) : Bytes :=
  toBytes (ladder (Ed25519.clamp secret) (ofBytes public_))

/-- The public key of a secret scalar. -/
def publicKey (secret : Bytes) : Bytes := toBytes (ladder (Ed25519.clamp secret) 9)

end X25519

end Pairwise
