import Pairwise.Bytes
/-!
# The Poly1305 authenticator

A text is a polynomial, one coefficient for every block of 16 bytes, taken at a secret point modulo
`2 ^ 130 - 5`.
-/
namespace Pairwise

namespace Poly1305

def p : Nat := Nat.pow 2 130 - 5

/-- The bits of the secret point that are kept. -/
def mask : Nat := 0x0ffffffc0ffffffc0ffffffc0fffffff

/-- The value after the blocks of a text, of which there are at most `blocks`. -/
def blocksFrom (r : Nat) : (blocks : Nat) → (sum : Nat) → Bytes → Nat
  | 0, sum, _ => sum
  | _, sum, [] => sum
  | blocks + 1, sum, text =>
    let block := text.take 16
    blocksFrom r blocks ((sum + Bytes.toNatLE block + Nat.pow 256 block.length) * r % p) (text.drop 16)

/-- The tag of 16 bytes for a key of 32 bytes. -/
def tag (key text : Bytes) : Bytes :=
  let r := Bytes.toNatLE (key.take 16) &&& mask
  let s := Bytes.toNatLE (key.drop 16)
  Bytes.ofNatLE 16 (blocksFrom r (text.length / 16 + 1) 0 text + s)

end Poly1305

end Pairwise
