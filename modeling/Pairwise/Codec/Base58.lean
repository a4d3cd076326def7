import Pairwise.Bytes
import Pairwise.Text.Utf8
/-!
# Base 58

Byte strings as text in the alphabet of the 58 digits and letters that cannot be mistaken for one
another. A byte string is a big-endian number; every zero byte at its front is written as one `1`
of its own.

`Base58.encode` writes, `Base58.decode` reads; the first byte that is no digit decides the error.
-/
namespace Pairwise

namespace Base58

/-- The digits in the order of their values. -/
def alphabet : List Char :=
  "123456789ABCDEFGHJKLMNPQRSTUVWXYZabcdefghijkmnopqrstuvwxyz".toList

/-- The character of a digit. -/
def digitChar (d : Nat) : Char := alphabet.getD d '1'

/-- The value of a character. -/
def digitValue? (c : Char) : Option Nat := alphabet.idxOf? c

/-- What is wrong with a text. -/
inductive Error where
  /-- A character that is no digit, with its position. -/
  | invalidCharacter (c : Char) (index : Nat)
  /-- A character outside of ASCII starts here. -/
  | nonAscii (index : Nat)
  deriving DecidableEq, Repr

/-- The digits of a number, most significant first, in front of those already written; none for
zero. -/
def digits (n : Nat) (after : List Nat) : List Nat :=
  if h : n = 0 then after else digits (n / 58) (n % 58 :: after)
termination_by n
decreasing_by omega

/-- The number that digits write. -/
def value (ds : List Nat) : Nat := ds.foldl (fun n d => n * 58 + d) 0

/-- The text of a byte string. -/
def encode (bytes : Bytes) : String :=
  let zeros := bytes.takeWhile (· == 0)
  String.ofList (zeros.map (fun _ => '1') ++ (digits bytes.toNatBE []).map digitChar)

/-- The bytes of a number, most significant first, in front of those already written; none for
zero. -/
def numberBytes (n : Nat) (after : Bytes) : Bytes :=
  if h : n = 0 then after else numberBytes (n / 256) (UInt8.ofNat (n % 256) :: after)
termination_by n
decreasing_by omega

/-- The digit values of a text; positions count bytes. -/
def readDigits (index : Nat) : List Char → Except Error (List Nat)
  | [] => .ok []
  | c :: rest =>
    if 128 ≤ c.toNat then .error (.nonAscii index)
    else match digitValue? c with
      | none => .error (.invalidCharacter c index)
      | some d => do
        let ds ← readDigits (index + 1) rest
        return d :: ds

/-- The byte string of a text. -/
def decode (text : String) : Except Error Bytes := do
  let ds ← readDigits 0 text.toList
  let zeros := ds.takeWhile (· == 0)
  return zeros.map (fun _ => 0) ++ numberBytes (value ds) []

end Base58

end Pairwise
