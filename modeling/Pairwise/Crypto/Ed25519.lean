import Pairwise.Crypto.Edwards25519
import Pairwise.Crypto.Sha512
/-!
# Ed25519 signatures

Keys of 32 bytes made from seeds of 32 bytes, and signatures of 64 bytes. A signature is checked by
computing its first half anew and comparing bytes; its second half must be below the order of the
base point, and keys of small order are allowed.
-/
namespace Pairwise

namespace Ed25519

open Edwards25519

/-- Makes a scalar of 32 bytes: the lowest three bits and the highest are cleared, the second
highest is set. -/
def clamp (bytes : Bytes) : Nat :=
  let n := bytes.toNatLE % Nat.pow 2 254
  Nat.pow 2 254 + (n - n % 8)

/-- The public key of a seed. -/
def publicKey (seed : Bytes) : Bytes :=
  (Point.smul (clamp ((Sha512.hash seed).take 32)) .base).toBytes

/-- The bytes that the seed's secret scalar is made of. -/
def scalarBytes (seed : Bytes) : Bytes := (Sha512.hash seed).take 32

/-- The signature of a text under a seed. -/
def sign (seed text : Bytes) : Bytes :=
  let expanded := Sha512.hash seed
  let scalar := clamp (expanded.take 32)
  let key := publicKey seed
  let nonce := Bytes.toNatLE (Sha512.hash (expanded.drop 32 ++ text)) % order
  let commitment := (Point.smul nonce .base).toBytes
  let challenge := Bytes.toNatLE (Sha512.hash (commitment ++ key ++ text)) % order
  commitment ++ Bytes.ofNatLE 32 ((nonce + challenge * scalar) % order)

/-- Whether a signature of a text stands under a key that is a point. -/
def verify (key text signature : Bytes) : Bool :=
  match Point.ofBytes? key with
  | none => false
  | some a =>
    let commitment := signature.take 32
    let scalar := Bytes.toNatLE (signature.drop 32)
    if signature.length ≠ 64 ∨ order ≤ scalar then false
    else
      let challenge := Bytes.toNatLE (Sha512.hash (commitment ++ key ++ text)) % order
      (Point.add (Point.smul challenge a.neg) (Point.smul scalar .base)).toBytes == commitment

/-- The X25519 key of an Ed25519 key, if it is a point. -/
def toMontgomery? (key : Bytes) : Option Bytes := (Point.ofBytes? key).map (·.toMontgomery)

end Ed25519

end Pairwise
