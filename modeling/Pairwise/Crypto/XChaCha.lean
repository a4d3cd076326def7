import Pairwise.Crypto.ChaCha20
import Pairwise.Crypto.Poly1305
/-!
# Authenticated encryption with long nonces

ChaCha20 and Poly1305 together, under a key made from the key and the first 16 bytes of a nonce of
24 bytes.
-/
namespace Pairwise

namespace XChaCha

/-- Zeros up to a whole block of 16 bytes. -/
def fill (text : Bytes) : Bytes := List.replicate ((16 - text.length % 16) % 16) 0

/-- The key and the short nonce for a key and a long nonce. -/
def inner (key nonce : Bytes) : Bytes × Bytes :=
  (ChaCha20.hchacha key (nonce.take 16), [0, 0, 0, 0] ++ nonce.drop 16)

/-- The tag of 16 bytes for a ciphertext and the data beside it. -/
def tag (key nonce aad ciphertext : Bytes) : Bytes :=
  Poly1305.tag ((ChaCha20.block key nonce 0).take 32)
    (aad ++ fill aad ++ ciphertext ++ fill ciphertext ++ Bytes.ofNatLE 8 aad.length
      ++ Bytes.ofNatLE 8 ciphertext.length)

/-- Enciphers a text; the tag stands at the end. -/
def sealText (key nonce aad text : Bytes) : Bytes :=
  let (key, nonce) := inner key nonce
  let ciphertext := ChaCha20.apply key nonce 1 text
  ciphertext ++ tag key nonce aad ciphertext

/-- Opens a ciphertext with its tag at the end, if the tag is right. -/
def openText? (key nonce aad sealed : Bytes) : Option Bytes :=
  if sealed.length < 16 then none
  else
    let (key, nonce) := inner key nonce
    let ciphertext := sealed.take (sealed.length - 16)
    if tag key nonce aad ciphertext = sealed.drop (sealed.length - 16) then
      some (ChaCha20.apply key nonce 1 ciphertext)
    else none

end XChaCha

end Pairwise
