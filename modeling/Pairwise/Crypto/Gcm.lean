import Pairwise.Crypto.Aes256
/-!
# Galois counter mode

A text is combined with the cipher's counter blocks, and the ciphertext and the data beside it are
authenticated by a polynomial over the field of `2 ^ 128` elements.
-/
namespace Pairwise

namespace Gcm

/-- One step of the product: the bit on top of `a` decides, and `b` moves on to the next power. -/
def productStep (abz : Nat × Nat × Nat) : Nat × Nat × Nat :=
  let (a, b, z) := abz
  let z := if a.testBit 127 then z ^^^ b else z
  let b := if b.testBit 0 then (b >>> 1) ^^^ (0xe1 <<< 120) else b >>> 1
  ((a <<< 1) % Nat.pow 2 128, b, z)

/-- The product in the field of `2 ^ 128` elements, whose bits are counted from the top. -/
def product (a b : Nat) : Nat :=
  ((List.range 128).foldl (fun abz _ => productStep abz) (a, b, 0)).2.2

/-- The value after the blocks of a text, of which there are at most `blocks`; the last block is
filled with zeros. -/
def hashFrom (h : Nat) : (blocks : Nat) → (sum : Nat) → Bytes → Nat
  | 0, sum, _ => sum
  | _, sum, [] => sum
  | blocks + 1, sum, text =>
    let block := text.take 16
    let n := Bytes.toNatBE (block ++ List.replicate (16 - block.length) 0)
    hashFrom h blocks (product (sum ^^^ n) h) (text.drop 16)

/-- The value of a text. -/
def hash (h sum : Nat) (text : Bytes) : Nat := hashFrom h (text.length / 16 + 1) sum text

/-- The key stream from a counter on, `blocks` blocks of it. -/
def stream (keys : List Bytes) (nonce : Bytes) (counter : Nat) : (blocks : Nat) → Bytes
  | 0 => []
  | blocks + 1 =>
    Aes256.encrypt keys (nonce ++ Bytes.ofNatBE 4 counter) ++ stream keys nonce (counter + 1) blocks

/-- Combines a text with the key stream; doing so twice gives the text back. -/
def apply (keys : List Bytes) (nonce text : Bytes) : Bytes :=
  Bytes.xor text (stream keys nonce 2 ((text.length + 15) / 16))

/-- The tag of 16 bytes for a ciphertext and the data beside it. -/
def tag (keys : List Bytes) (nonce aad ciphertext : Bytes) : Bytes :=
  let h := Bytes.toNatBE (Aes256.encrypt keys (List.replicate 16 0))
  let lengths := Bytes.ofNatBE 8 (8 * aad.length) ++ Bytes.ofNatBE 8 (8 * ciphertext.length)
  let sum := hash h (hash h (hash h 0 aad) ciphertext) lengths
  Bytes.xor (Bytes.ofNatBE 16 sum) (Aes256.encrypt keys (nonce ++ [0, 0, 0, 1]))

/-- Enciphers a text; the tag stands at the end. The nonce has 12 bytes. -/
def sealText (key nonce aad text : Bytes) : Bytes :=
  let keys := Aes256.roundKeys key
  let ciphertext := apply keys nonce text
  ciphertext ++ tag keys nonce aad ciphertext

/-- Opens a ciphertext with its tag at the end, if the tag is right. -/
def openText? (key nonce aad sealed : Bytes) : Option Bytes :=
  if sealed.length < 16 then none
  else
    let keys := Aes256.roundKeys key
    let ciphertext := sealed.take (sealed.length - 16)
    if tag keys nonce aad ciphertext = sealed.drop (sealed.length - 16) then
      some (apply keys nonce ciphertext)
    else none

end Gcm

end Pairwise
