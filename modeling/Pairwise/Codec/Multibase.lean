import Pairwise.Codec.Base58
import Pairwise.Codec.Varint
/-!
# Self-describing byte strings

A text that tells its base by its first character, of which base 58 (`z`) is the only one in use
here, and a byte string that tells its content by a code in front.

`Multibase.encode` and `Multibase.decode` write and read such texts, `Multicodec.tag` and
`Multicodec.split` such byte strings.
-/
namespace Pairwise

namespace Multibase

/-- What is wrong with a text. -/
inductive Error where
  /-- The text does not start with a known base. -/
  | unknownBase
  /-- The rest of the text is not base 58. -/
  | base58 (cause : Base58.Error)
  deriving DecidableEq, Repr

/-- The text of a byte string. -/
def encode (bytes : Bytes) : String := "z" ++ Base58.encode bytes

/-- The text after the mark of its base. -/
def body? (text : String) : Option String :=
  match text.toList with
  | 'z' :: rest => some (String.ofList rest)
  | _ => none

/-- The byte string of a text. -/
def decode (text : String) : Except Error Bytes :=
  match body? text with
  | none => .error .unknownBase
  | some body =>
    match Base58.decode body with
    | .ok bytes => .ok bytes
    | .error e => .error (.base58 e)

end Multibase

namespace Multicodec

/-- An Ed25519 public key. -/
def ed25519Public : Nat := 0xed

/-- An X25519 public key. -/
def x25519Public : Nat := 0xec

/-- A JSON text. -/
def json : Nat := 0x0200

/-- A byte string with its code in front. -/
def tag (code : Nat) (bytes : Bytes) : Bytes := Varint.encode code ++ bytes

/-- The code in front of a byte string, and the rest. -/
def split (bytes : Bytes) : Except Varint.Error (Nat × Bytes) := Varint.decode bytes

end Multicodec

end Pairwise
