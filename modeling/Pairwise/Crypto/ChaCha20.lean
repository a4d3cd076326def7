import Pairwise.Bytes
/-!
# The ChaCha20 stream cipher

Sixteen words in four rows are mixed by twenty rounds, alternately along columns and diagonals. A
block of the key stream is the mixed words added to the words before. `hchacha` gives the key of
the variant with nonces of 24 bytes.
-/
namespace Pairwise

namespace ChaCha20

/-- Four words side by side. -/
structure Row where
  w0 : UInt32
  w1 : UInt32
  w2 : UInt32
  w3 : UInt32

namespace Row

def map₂ (f : UInt32 → UInt32 → UInt32) (a b : Row) : Row :=
  ⟨f a.w0 b.w0, f a.w1 b.w1, f a.w2 b.w2, f a.w3 b.w3⟩

/-- The sum of two rows xored and turned to the left. -/
def turn (n : UInt32) (a b : Row) : Row :=
  map₂ (fun x y => let z := x ^^^ y; (z <<< n) ||| (z >>> (32 - n))) a b

/-- The row with its words moved one place to the left. -/
def left (a : Row) : Row := ⟨a.w1, a.w2, a.w3, a.w0⟩

def toList (a : Row) : List UInt32 := [a.w0, a.w1, a.w2, a.w3]

end Row

/-- The state: four rows. -/
structure State where
  a : Row
  b : Row
  c : Row
  d : Row

namespace State

/-- Mixes the four columns. -/
def columns (s : State) : State :=
  let add := Row.map₂ (· + ·)
  let a := add s.a s.b
  let d := Row.turn 16 s.d a
  let c := add s.c d
  let b := Row.turn 12 s.b c
  let a := add a b
  let d := Row.turn 8 d a
  let c := add c d
  let b := Row.turn 7 b c
  ⟨a, b, c, d⟩

/-- Mixes the columns and then the diagonals. -/
def doubleRound (s : State) : State :=
  let s := s.columns
  let s := columns ⟨s.a, s.b.left, s.c.left.left, s.d.left.left.left⟩
  ⟨s.a, s.b.left.left.left, s.c.left.left, s.d.left⟩

/-- Ten double rounds. -/
def mix (s : State) : State := (List.range 10).foldl (fun s _ => s.doubleRound) s

def plus (s t : State) : State :=
  let add := Row.map₂ (· + ·)
  ⟨add s.a t.a, add s.b t.b, add s.c t.c, add s.d t.d⟩

def toList (s : State) : List UInt32 := s.a.toList ++ s.b.toList ++ s.c.toList ++ s.d.toList

end State

/-- The words of a byte string, the least significant byte first. -/
def words : Bytes → List UInt32
  | a :: b :: c :: d :: rest => UInt32.ofNat (Bytes.toNatLE [a, b, c, d]) :: words rest
  | _ => []

/-- The row at a place of a byte string. -/
def row (bytes : Bytes) (offset : Nat) : Row :=
  match words ((bytes.drop offset).take 16) with
  | [a, b, c, d] => ⟨a, b, c, d⟩
  | _ => ⟨0, 0, 0, 0⟩

/-- The first row: the text `expand 32-byte k`. -/
def constants : Row := ⟨0x61707865, 0x3320646e, 0x79622d32, 0x6b206574⟩

/-- The bytes of words. -/
def bytesOf (ws : List UInt32) : Bytes := ws.flatMap fun w => Bytes.ofNatLE 4 w.toNat

/-- A block of the key stream, for a key of 32 bytes and a nonce of 12. -/
def block (key nonce : Bytes) (counter : Nat) : Bytes :=
  let s : State := ⟨constants, row key 0, row key 16, row (Bytes.ofNatLE 4 counter ++ nonce) 0⟩
  bytesOf (s.mix.plus s).toList

/-- The key stream from a block on, `blocks` blocks of it. -/
def stream (key nonce : Bytes) (counter : Nat) : (blocks : Nat) → Bytes
  | 0 => []
  | blocks + 1 => block key nonce counter ++ stream key nonce (counter + 1) blocks

/-- Combines a text with the key stream from a block on; doing so twice gives the text back. -/
def apply (key nonce : Bytes) (counter : Nat) (text : Bytes) : Bytes :=
  Bytes.xor text (stream key nonce counter ((text.length + 63) / 64))

/-- The key of 32 bytes for a key and the first 16 bytes of a long nonce. -/
def hchacha (key nonce : Bytes) : Bytes :=
  let s : State := ⟨constants, row key 0, row key 16, row nonce 0⟩
  let m := s.mix
  bytesOf (m.a.toList ++ m.d.toList)

end ChaCha20

end Pairwise
