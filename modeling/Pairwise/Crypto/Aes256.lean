import Pairwise.Bytes
/-!
# The AES block cipher with keys of 256 bits

Blocks of 16 bytes are enciphered in fourteen rounds. The substitution of bytes is computed from
its definition: the inverse in the field of 256 elements, then an affine map of the bits.
-/
namespace Pairwise

namespace Aes256

/-- Multiplies by two in the field of 256 elements. -/
def double (a : UInt8) : UInt8 :=
  if a < 128 then a <<< 1 else (a <<< 1) ^^^ 0x1b

/-- The product in the field of 256 elements, by the lowest `bits` bits of the first factor. -/
def product : (bits : Nat) → UInt8 → UInt8 → UInt8
  | 0, _, _ => 0
  | bits + 1, a, b =>
    (if a % 2 = 1 then b else 0) ^^^ product bits (a >>> 1) (double b)

/-- The inverse in the field: the power of exponent 254; zero for zero. -/
def inverse (a : UInt8) : UInt8 :=
  (List.range 253).foldl (fun x _ => product 8 x a) a

/-- Turns a byte to the left. -/
def turn (a : UInt8) (n : UInt8) : UInt8 := (a <<< n) ||| (a >>> (8 - n))

/-- The substitution of a byte. -/
def substitution (a : UInt8) : UInt8 :=
  let b := inverse a
  b ^^^ turn b 1 ^^^ turn b 2 ^^^ turn b 3 ^^^ turn b 4 ^^^ 0x63

/-- The substitution as a table. -/
def table : Array UInt8 := ((List.range 256).map fun n => substitution (UInt8.ofNat n)).toArray

/-- The substitution, looked up. -/
def substitute (a : UInt8) : UInt8 := table.getD a.toNat 0

/-- Four words of the key after the eight before them, of which `older` are the first four and
`newer` the last. `first` is what is added to the first word. -/
def nextWords (older : Bytes) (first : Bytes) : Bytes :=
  let w0 := Bytes.xor (older.take 4) first
  let w1 := Bytes.xor ((older.drop 4).take 4) w0
  let w2 := Bytes.xor ((older.drop 8).take 4) w1
  let w3 := Bytes.xor ((older.drop 12).take 4) w2
  w0 ++ w1 ++ w2 ++ w3

/-- The last word of four. -/
def lastWord (words : Bytes) : Bytes := words.drop 12

/-- The word with its bytes moved one place to the left. -/
def rotateWord (w : Bytes) : Bytes := w.drop 1 ++ w.take 1

/-- Round keys in pairs, from the pair before; `constant` is the next round constant. -/
def roundKeysFrom : (pairs : Nat) → (constant : UInt8) → Bytes → Bytes → List Bytes
  | 0, _, _, _ => []
  | pairs + 1, constant, older, newer =>
    let rotated := (rotateWord (lastWord newer)).map substitute
    let a := nextWords older (Bytes.xor rotated [constant, 0, 0, 0])
    let b := nextWords newer ((lastWord a).map substitute)
    a :: b :: roundKeysFrom pairs (double constant) a b

/-- The fifteen round keys of a key. -/
def roundKeys (key : Bytes) : List Bytes :=
  let older := key.take 16
  let newer := key.drop 16
  (older :: newer :: roundKeysFrom 7 1 older newer).take 15

/-- Moves the rows of a block, which holds its columns one after the other. -/
def shiftRows (block : Bytes) : Bytes :=
  [0, 5, 10, 15, 4, 9, 14, 3, 8, 13, 2, 7, 12, 1, 6, 11].map fun i => block.getD i 0

/-- Mixes the bytes of every column. -/
def mixColumns : Bytes → Bytes
  | a :: b :: c :: d :: rest =>
    let all := a ^^^ b ^^^ c ^^^ d
    (a ^^^ all ^^^ double (a ^^^ b)) :: (b ^^^ all ^^^ double (b ^^^ c))
      :: (c ^^^ all ^^^ double (c ^^^ d)) :: (d ^^^ all ^^^ double (d ^^^ a)) :: mixColumns rest
  | _ => []

/-- The rounds after the first key; the last of them mixes no columns. -/
def rounds : List Bytes → Bytes → Bytes
  | [], block => block
  | [key], block => Bytes.xor (shiftRows (block.map substitute)) key
  | key :: keys, block =>
    rounds keys (Bytes.xor (mixColumns (shiftRows (block.map substitute))) key)

/-- Enciphers a block of 16 bytes under the round keys. -/
def encrypt (keys : List Bytes) (block : Bytes) : Bytes :=
  match keys with
  | [] => block
  | key :: keys => rounds keys (Bytes.xor block key)

end Aes256

end Pairwise
