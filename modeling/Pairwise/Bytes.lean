/-!
# Byte strings

A byte string is a list of bytes. This module holds its readings as numbers, in both byte orders,
and its hexadecimal text.

Results:
* `Bytes.ofNatBE_length`, `Bytes.ofNatLE_length`: a number is written with exactly the width asked
  for.
* `Bytes.toNatBE_append`: the big-endian number of two parts, put together from theirs.
-/
namespace Pairwise

/-- A byte string. -/
abbrev Bytes := List UInt8

namespace Bytes

/-- The number that the bytes write with the most significant byte first. -/
def toNatBE (bytes : Bytes) : Nat := bytes.foldl (fun n b => n * 256 + b.toNat) 0

/-- The number that the bytes write with the least significant byte first. -/
def toNatLE : Bytes → Nat
  | [] => 0
  | b :: rest => b.toNat + 256 * toNatLE rest

/-- The lowest `width` bytes of a number, least significant first. -/
def ofNatLE : (width : Nat) → Nat → Bytes
  | 0, _ => []
  | width + 1, n => UInt8.ofNat (n % 256) :: ofNatLE width (n / 256)

/-- The lowest `width` bytes of a number, most significant first. -/
def ofNatBE (width n : Nat) : Bytes := (ofNatLE width n).reverse

theorem ofNatLE_length (width n : Nat) : (ofNatLE width n).length = width := by
  induction width generalizing n with
  | zero => rfl
  | succ width ih => simp [ofNatLE, ih]

theorem ofNatBE_length (width n : Nat) : (ofNatBE width n).length = width := by
  simp [ofNatBE, ofNatLE_length]

private theorem foldl_append_value (bytes : Bytes) (start : Nat) :
    bytes.foldl (fun n b => n * 256 + b.toNat) start
      = start * Nat.pow 256 bytes.length + bytes.toNatBE := by
  induction bytes generalizing start with
  | nil => simp [toNatBE]
  | cons b rest ih =>
    have step := ih (start * 256 + b.toNat)
    have base := ih b.toNat
    simp only [toNatBE, List.foldl_cons, List.length_cons] at *
    simp only [Nat.pow_eq, Nat.zero_mul, Nat.zero_add] at *
    rw [step, base, Nat.pow_succ, Nat.add_mul, Nat.mul_assoc, Nat.mul_comm 256, Nat.add_assoc]

/-- The first part counts in units of the second part's range. -/
theorem toNatBE_append (high low : Bytes) :
    (high ++ low).toNatBE = high.toNatBE * Nat.pow 256 low.length + low.toNatBE := by
  simp only [toNatBE, List.foldl_append]
  exact foldl_append_value low _

/-- The hexadecimal digit of a number below sixteen, in lower case. -/
def hexDigit (n : Nat) : Char :=
  if n < 10 then Char.ofNat (48 + n) else Char.ofNat (87 + n)

/-- Two lower-case hexadecimal digits for every byte. -/
def toHex (bytes : Bytes) : String :=
  String.ofList (bytes.flatMap fun b => [hexDigit (b.toNat / 16), hexDigit (b.toNat % 16)])

/-- The value of a hexadecimal digit, in either case. -/
def hexValue? (c : Char) : Option Nat :=
  if '0' ≤ c ∧ c ≤ '9' then some (c.toNat - 48)
  else if 'a' ≤ c ∧ c ≤ 'f' then some (c.toNat - 87)
  else if 'A' ≤ c ∧ c ≤ 'F' then some (c.toNat - 55)
  else none

/-- Reads pairs of hexadecimal digits. -/
def ofHexChars : List Char → Option Bytes
  | [] => some []
  | [_] => none
  | a :: b :: rest => do
    let high ← hexValue? a
    let low ← hexValue? b
    let tail ← ofHexChars rest
    return UInt8.ofNat (16 * high + low) :: tail

/-- Reads the hexadecimal text of a byte string. -/
def ofHex? (text : String) : Option Bytes := ofHexChars text.toList

/-- Combines two byte strings position by position; the shorter one decides the length. -/
def xor (a b : Bytes) : Bytes := List.zipWith (· ^^^ ·) a b

end Bytes

end Pairwise
