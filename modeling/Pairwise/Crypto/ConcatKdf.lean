import Pairwise.Crypto.Sha256
import Pairwise.Text.Utf8
/-!
# Derived keys

A shared secret becomes a key by one hash over a round number, the secret, and three texts with
their lengths in front: the name of the algorithm and what is known of both parties.
-/
namespace Pairwise

namespace ConcatKdf

/-- Whether the length of a text has room in front of it. -/
def countable (text : Bytes) : Bool := text.length < UInt32.size

/-- A text with its length in front. -/
def counted (text : Bytes) : Bytes := Bytes.ofNatBE 4 text.length ++ text

/-- What is known of a party, with its length in front. Nothing known has the length zero. -/
def party : Option Bytes → Bytes
  | some info => counted info
  | none => [0, 0, 0, 0]

/-- What is hashed: the number of the only round, the secret, the three texts, and the length of the
key in bits. -/
def input (secret : Bytes) (algorithm : String) (producer consumer : Option Bytes) : Bytes :=
  [0, 0, 0, 1] ++ secret ++ counted (Utf8.ofString algorithm) ++ party producer ++ party consumer
    ++ [0, 0, 1, 0]

/-- The key of 32 bytes. -/
def derive (secret : Bytes) (algorithm : String) (producer consumer : Option Bytes) : Bytes :=
  Sha256.hash (input secret algorithm producer consumer)

end ConcatKdf

end Pairwise
