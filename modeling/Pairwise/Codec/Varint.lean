import Pairwise.Bytes
/-!
# Variable-length integers

Numbers of 64 bits as bytes of seven bits each, lowest first, every byte but the last with its high
bit set.

`Varint.encode` writes, `Varint.decode` reads a number from the front of a byte string.
-/
namespace Pairwise

namespace Varint

/-- What is wrong with a byte string. -/
inductive Error where
  /-- The bytes end inside the number. -/
  | insufficient
  /-- The number does not end within ten bytes. -/
  | overflow
  /-- The number has a last byte of zero that it could do without. -/
  | notMinimal
  deriving DecidableEq, Repr

/-- The wording of an error. -/
def Error.message : Error → String
  | .insufficient => "not enough input bytes"
  | .overflow => "input bytes exceed maximum"
  | .notMinimal => "encoding is not minimal"

/-- The bytes of a number. -/
def encode (n : Nat) : Bytes :=
  if n < 128 then [UInt8.ofNat n] else UInt8.ofNat (n % 128 + 128) :: encode (n / 128)
termination_by n
decreasing_by omega

/-- Reads on at the byte of position `index`, `sum` being the value of those before. A number keeps
its lowest 64 bits. -/
def decodeFrom (index sum : Nat) : Bytes → Except Error (Nat × Bytes)
  | [] => .error .insufficient
  | b :: rest =>
    let sum := (sum + b.toNat % 128 * Nat.pow 2 (7 * index)) % UInt64.size
    if b.toNat < 128 then
      if b = 0 ∧ 0 < index then .error .notMinimal else .ok (sum, rest)
    else if 9 ≤ index then .error .overflow
    else decodeFrom (index + 1) sum rest

/-- The number at the front of a byte string, and the bytes after it. -/
def decode (bytes : Bytes) : Except Error (Nat × Bytes) := decodeFrom 0 0 bytes

end Varint

end Pairwise
