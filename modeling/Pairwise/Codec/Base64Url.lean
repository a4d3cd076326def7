import Pairwise.Text.Utf8
/-!
# Base 64 for URLs

Byte strings as text in the URL-safe alphabet, written without padding. Reading takes up to two
padding marks in the last block of eight characters, and no set bits beyond the last whole byte.

`Base64Url.encode` writes, `Base64Url.decode` reads.
-/
namespace Pairwise

namespace Base64Url

/-- The character of six bits. -/
def symbol (n : Nat) : Char :=
  if n < 26 then Char.ofNat (65 + n)
  else if n < 52 then Char.ofNat (71 + n)
  else if n < 62 then Char.ofNat (n - 4)
  else if n = 62 then '-'
  else '_'

/-- The six bits of a character, given as a byte. -/
def symbolValue? (b : UInt8) : Option Nat :=
  let n := b.toNat
  if 65 ≤ n ∧ n ≤ 90 then some (n - 65)
  else if 97 ≤ n ∧ n ≤ 122 then some (n - 71)
  else if 48 ≤ n ∧ n ≤ 57 then some (n + 4)
  else if n = 45 then some 62
  else if n = 95 then some 63
  else none

/-- The padding mark. -/
def pad : UInt8 := 61

/-- What is wrong with a text; positions count bytes. -/
inductive Error where
  /-- A byte outside of the alphabet, or a padding mark out of place. -/
  | invalidByte (byte : UInt8) (index : Nat)
  /-- One symbol is left over. -/
  | sixBitRemainder
  /-- The last symbol has bits that belong to no byte. -/
  | invalidLastSymbol (byte : UInt8) (index : Nat)
  deriving DecidableEq, Repr

/-- The wording of an error. -/
def Error.message : Error → String
  | .invalidByte byte index => s!"Invalid byte {byte.toNat}, offset {index}."
  | .sixBitRemainder => "Encoded text cannot have a 6-bit remainder."
  | .invalidLastSymbol byte index => s!"Invalid last symbol {byte.toNat}, offset {index}."

/-- The symbols of a byte string, three bytes at a time. -/
def encodeChars : Bytes → List Char
  | [] => []
  | [a] =>
    let n := a.toNat * 16
    [symbol (n / 64), symbol (n % 64)]
  | [a, b] =>
    let n := (a.toNat * 256 + b.toNat) * 4
    [symbol (n / 4096), symbol (n / 64 % 64), symbol (n % 64)]
  | a :: b :: c :: rest =>
    let n := (a.toNat * 256 + b.toNat) * 256 + c.toNat
    symbol (n / 262144) :: symbol (n / 4096 % 64) :: symbol (n / 64 % 64) :: symbol (n % 64)
      :: encodeChars rest

/-- The text of a byte string. -/
def encode (bytes : Bytes) : String := String.ofList (encodeChars bytes)

/-- The values of symbols without padding. -/
def plainValues (index : Nat) : Bytes → Except Error (List Nat)
  | [] => .ok []
  | b :: rest =>
    match symbolValue? b with
    | none => .error (.invalidByte b index)
    | some v => do
      let vs ← plainValues (index + 1) rest
      return v :: vs

/-- The values of the symbols of the last block, which starts at `start`. Padding is the third or
fourth of its group and nothing but padding follows it; the first mark is blamed otherwise. -/
def lastValues (start : Nat) (i : Nat) (firstPad : Option Nat) : Bytes → Except Error (List Nat)
  | [] => .ok []
  | b :: rest =>
    if b = pad then
      if i % 4 < 2 then .error (.invalidByte pad (start + firstPad.getD i))
      else lastValues start (i + 1) (firstPad.or (some i)) rest
    else
      match firstPad with
      | some p => .error (.invalidByte pad (start + p))
      | none =>
        match symbolValue? b with
        | none => .error (.invalidByte b (start + i))
        | some v => do
          let vs ← lastValues start (i + 1) firstPad rest
          return v :: vs

/-- The bytes of symbol values, four at a time, and whether bits are left over that are set. -/
def packValues : List Nat → Bytes × Bool
  | a :: b :: c :: d :: rest =>
    let n := ((a * 64 + b) * 64 + c) * 64 + d
    let (bytes, spill) := packValues rest
    (UInt8.ofNat (n / 65536) :: UInt8.ofNat (n / 256 % 256) :: UInt8.ofNat (n % 256) :: bytes, spill)
  | [a, b, c] =>
    let n := (a * 64 + b) * 64 + c
    ([UInt8.ofNat (n / 1024), UInt8.ofNat (n / 4 % 256)], n % 4 != 0)
  | [a, b] =>
    let n := a * 64 + b
    ([UInt8.ofNat (n / 16)], n % 16 != 0)
  | _ => ([], false)

/-- The byte string of a text given as bytes. -/
def decodeBytes (text : Bytes) : Except Error Bytes := do
  if text.length % 4 = 1 then
    let last := text.getLastD pad
    if last ≠ pad ∧ symbolValue? last = none then .error (.invalidByte last (text.length - 1))
    else .error .sixBitRemainder
  else
    let start := (text.length - 1) / 8 * 8
    let head ← plainValues 0 (text.take start)
    let tail ← lastValues start 0 none (text.drop start)
    let values := head ++ tail
    let (bytes, spill) := packValues values
    if spill then
      let index := values.length - 1
      .error (.invalidLastSymbol (text.getD index pad) index)
    else return bytes

/-- The byte string of a text. -/
def decode (text : String) : Except Error Bytes := decodeBytes (Utf8.ofString text)

end Base64Url

end Pairwise
