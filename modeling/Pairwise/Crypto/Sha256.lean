import Pairwise.Bytes
/-!
# The 256-bit secure hash

The hash function of 32-bit words: a text is padded to whole blocks of 64 bytes, every block is
spread to 64 words, and 64 rounds of mixing turn the state before a block into the state after
it.

Results:
* `Sha256.hash_length`: a hash is 32 bytes long.
-/
namespace Pairwise

namespace Sha256

/-- The round constants: the first 32 bits of the fractional parts of the cube roots of the first
64 primes. -/
def roundConstants : List UInt32 := [
    0x428a2f98, 0x71374491, 0xb5c0fbcf, 0xe9b5dba5, 0x3956c25b, 0x59f111f1,
    0x923f82a4, 0xab1c5ed5, 0xd807aa98, 0x12835b01, 0x243185be, 0x550c7dc3,
    0x72be5d74, 0x80deb1fe, 0x9bdc06a7, 0xc19bf174, 0xe49b69c1, 0xefbe4786,
    0x0fc19dc6, 0x240ca1cc, 0x2de92c6f, 0x4a7484aa, 0x5cb0a9dc, 0x76f988da,
    0x983e5152, 0xa831c66d, 0xb00327c8, 0xbf597fc7, 0xc6e00bf3, 0xd5a79147,
    0x06ca6351, 0x14292967, 0x27b70a85, 0x2e1b2138, 0x4d2c6dfc, 0x53380d13,
    0x650a7354, 0x766a0abb, 0x81c2c92e, 0x92722c85, 0xa2bfe8a1, 0xa81a664b,
    0xc24b8b70, 0xc76c51a3, 0xd192e819, 0xd6990624, 0xf40e3585, 0x106aa070,
    0x19a4c116, 0x1e376c08, 0x2748774c, 0x34b0bcb5, 0x391c0cb3, 0x4ed8aa4a,
    0x5b9cca4f, 0x682e6ff3, 0x748f82ee, 0x78a5636f, 0x84c87814, 0x8cc70208,
    0x90befffa, 0xa4506ceb, 0xbef9a3f7, 0xc67178f2]

/-- The state of eight words between blocks. -/
structure State where
  a : UInt32
  b : UInt32
  c : UInt32
  d : UInt32
  e : UInt32
  f : UInt32
  g : UInt32
  h : UInt32

/-- The state before the first block: the first 32 bits of the fractional parts of the square roots
of the first eight primes. -/
def State.initial : State :=
  ⟨0x6a09e667, 0xbb67ae85, 0x3c6ef372, 0xa54ff53a,
    0x510e527f, 0x9b05688c, 0x1f83d9ab, 0x5be0cd19⟩

/-- Turns a word to the right. -/
def rotate (x : UInt32) (n : UInt32) : UInt32 := (x >>> n) ||| (x <<< (32 - n))

/-- Zero bytes and the length in bits that fill the last block. -/
def padding (length : Nat) : Bytes :=
  0x80 :: (List.replicate ((2 * 64 - 1 - 8 - length % 64) % 64) 0
    ++ Bytes.ofNatBE 8 (8 * length))

/-- The words of a text, the most significant byte first. -/
def words : Bytes → List UInt32
  | a :: b :: c :: d :: rest =>
    UInt32.ofNat (Bytes.toNatBE [a, b, c, d]) :: words rest
  | _ => []

/-- Spreads the words of a block, kept with the newest first, by `n` more words. -/
def spread : (n : Nat) → List UInt32 → List UInt32
  | 0, newest => newest
  | n + 1, newest =>
    let x := newest.getD 14 0
    let y := newest.getD 1 0
    let s0 := rotate x 7 ^^^ rotate x 18 ^^^ (x >>> 3)
    let s1 := rotate y 17 ^^^ rotate y 19 ^^^ (y >>> 10)
    spread n ((newest.getD 15 0 + s0 + newest.getD 6 0 + s1) :: newest)

/-- One round with its word and constant. -/
def round (s : State) (w k : UInt32) : State :=
  let s1 := rotate s.e 6 ^^^ rotate s.e 11 ^^^ rotate s.e 25
  let choice := (s.e &&& s.f) ^^^ ((~~~ s.e) &&& s.g)
  let t1 := s.h + s1 + choice + k + w
  let s0 := rotate s.a 2 ^^^ rotate s.a 13 ^^^ rotate s.a 22
  let majority := (s.a &&& s.b) ^^^ (s.a &&& s.c) ^^^ (s.b &&& s.c)
  ⟨t1 + (s0 + majority), s.a, s.b, s.c, s.d + t1, s.e, s.f, s.g⟩

/-- The state after a block of sixteen words. -/
def compress (s : State) (block : List UInt32) : State :=
  let schedule := (spread 48 block.reverse).reverse
  let t := (schedule.zip roundConstants).foldl (fun t wk => round t wk.1 wk.2) s
  ⟨s.a + t.a, s.b + t.b, s.c + t.c, s.d + t.d, s.e + t.e, s.f + t.f, s.g + t.g, s.h + t.h⟩

/-- The state after all blocks, of which there are at most `blocks`. -/
def compressAll : (blocks : Nat) → State → List UInt32 → State
  | 0, s, _ => s
  | _, s, [] => s
  | blocks + 1, s, ws => compressAll blocks (compress s (ws.take 16)) (ws.drop 16)

/-- The bytes of a state. -/
def State.bytes (s : State) : Bytes :=
  [s.a, s.b, s.c, s.d, s.e, s.f, s.g, s.h].flatMap fun w => Bytes.ofNatBE 4 w.toNat

/-- The hash of a text. -/
def hash (text : Bytes) : Bytes :=
  let ws := words (text ++ padding text.length)
  (compressAll (ws.length / 16 + 1) .initial ws).bytes

theorem hash_length (text : Bytes) : (hash text).length = 32 := by
  simp [hash, State.bytes, Bytes.ofNatBE_length]

end Sha256

end Pairwise
