import Pairwise.Codec.Varint
import Pairwise.Crypto.Sha256
/-!
# Self-describing hashes

A hash with the code of its function and its length in front. Only SHA-256 is in use here, yet a
hash of that code may be of any length up to 64 bytes.

`Multihash.ofText` hashes and writes, `Multihash.decode` reads.
-/
namespace Pairwise

namespace Multihash

/-- The code of SHA-256. -/
def sha256Code : Nat := 0x12

/-- The longest hash that is read. -/
def maxLength : Nat := 64

/-- What is wrong with a byte string. -/
inductive Error where
  /-- The bytes end inside the code or the length. -/
  | ended
  /-- The code or the length is no number. -/
  | varint (cause : Varint.Error)
  /-- The length is beyond the limit, or as many bytes are left over. -/
  | invalidSize (size : Nat)
  /-- The bytes end inside the hash. -/
  | cut
  /-- The hash is of another function. -/
  | otherFunction
  deriving DecidableEq, Repr

/-- A number in front, of which the bytes may end too early. -/
def number (bytes : Bytes) : Except Error (Nat × Bytes) :=
  match Varint.decode bytes with
  | .ok r => .ok r
  | .error .insufficient => .error .ended
  | .error e => .error (.varint e)

/-- The multihash of a hash. -/
def wrap (digest : Bytes) : Bytes :=
  Varint.encode sha256Code ++ Varint.encode digest.length ++ digest

/-- The multihash of a text. -/
def ofText (text : Bytes) : Bytes := wrap (Sha256.hash text)

/-- The hash in a multihash. -/
def decode (bytes : Bytes) : Except Error Bytes := do
  let (code, rest) ← number bytes
  let (size, rest) ← number rest
  if maxLength < size then .error (.invalidSize size)
  else if rest.length < size then .error .cut
  else if size < rest.length then .error (.invalidSize (rest.length - size))
  else if code ≠ sha256Code then .error .otherFunction
  else return rest

end Multihash

end Pairwise
