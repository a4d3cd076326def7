import Pairwise.Bytes
/-!
# Text as bytes

Characters as UTF-8 byte strings, and back. A byte string need not be text: reading gives a list
of units, each a character or the mark of a byte that belongs to none, so that a reader which
passes over a part of the text need not care about the bytes in it.
-/
namespace Pairwise

namespace Utf8

/-- The bytes of one character. -/
def encodeChar (c : Char) : Bytes :=
  let n := c.toNat
  if n < 0x80 then [UInt8.ofNat n]
  else if n < 0x800 then [UInt8.ofNat (0xC0 + n / 64), UInt8.ofNat (0x80 + n % 64)]
  else if n < 0x10000 then
    [UInt8.ofNat (0xE0 + n / 4096), UInt8.ofNat (0x80 + n / 64 % 64), UInt8.ofNat (0x80 + n % 64)]
  else
    [UInt8.ofNat (0xF0 + n / 262144), UInt8.ofNat (0x80 + n / 4096 % 64),
      UInt8.ofNat (0x80 + n / 64 % 64), UInt8.ofNat (0x80 + n % 64)]

/-- The bytes of a text. -/
def encode (text : List Char) : Bytes := text.flatMap encodeChar

/-- The bytes of a string. -/
def ofString (s : String) : Bytes := encode s.toList

/-- A byte that continues a character. -/
def isTail (b : UInt8) : Bool := 0x80 ≤ b.toNat && b.toNat < 0xC0

/-- The six low bits of a continuation byte. -/
def tailBits (b : UInt8) : Nat := b.toNat - 0x80

/-- The character at the front of a byte string and the number of bytes it takes. Every character
has one form only: no longer form than needed, no half of a surrogate pair. -/
def decodeChar? : Bytes → Option (Char × Nat)
  | [] => none
  | a :: rest =>
    if a.toNat < 0x80 then some (Char.ofNat a.toNat, 1)
    else match rest with
    | b :: rest =>
      if !isTail b then none
      else if 0xC2 ≤ a.toNat && a.toNat < 0xE0 then
        some (Char.ofNat ((a.toNat - 0xC0) * 64 + tailBits b), 2)
      else match rest with
      | c :: rest =>
        if !isTail c then none
        else
          let n := ((a.toNat - 0xE0) * 64 + tailBits b) * 64 + tailBits c
          if 0xE0 ≤ a.toNat && a.toNat < 0xF0 then
            if 0x800 ≤ n && !(0xD800 ≤ n && n < 0xE000) then some (Char.ofNat n, 3) else none
          else match rest with
          | d :: _ =>
            let n := (((a.toNat - 0xF0) * 64 + tailBits b) * 64 + tailBits c) * 64 + tailBits d
            if isTail d && 0xF0 ≤ a.toNat && 0x10000 ≤ n && n < 0x110000 then
              some (Char.ofNat n, 4)
            else none
          | [] => none
      | [] => none
    | [] => none

/-- Reads on: bytes that belong to the character before are passed over. -/
def unitsFrom : (skip : Nat) → Bytes → List (Option Char)
  | _, [] => []
  | skip + 1, _ :: rest => unitsFrom skip rest
  | 0, b :: rest =>
    match decodeChar? (b :: rest) with
    | some (c, size) => some c :: unitsFrom (size - 1) rest
    | none => none :: unitsFrom 0 rest

/-- The characters of a byte string, with `none` for every byte that belongs to no character. -/
def units (bytes : Bytes) : List (Option Char) := unitsFrom 0 bytes

/-- The text of a byte string, when all of it is text. -/
def decode? (bytes : Bytes) : Option (List Char) := (units bytes).mapM id

end Utf8

end Pairwise
