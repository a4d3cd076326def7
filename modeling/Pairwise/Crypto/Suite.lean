import Pairwise.Crypto.Gcm
import Pairwise.Crypto.X25519
import Pairwise.Crypto.XChaCha
/-!
# The cryptography in use

All that agents ask of signatures, key agreement and encryption, as one record of functions.
`Suite.standard` is Ed25519, X25519 and the two ciphers; what is said about agents can be said for
any suite that obeys `Suite.Lawful`.
-/
namespace Pairwise

/-- The ciphers for content. -/
inductive Cipher where
  /-- ChaCha20 and Poly1305 with a nonce of 24 bytes. -/
  | xchacha
  /-- AES with a key of 256 bits in Galois counter mode and a nonce of 12 bytes. -/
  | aesGcm
  deriving DecidableEq, Repr, Inhabited

namespace Cipher

/-- The name in envelopes. -/
def name : Cipher → String
  | .xchacha => "XC20P"
  | .aesGcm => "A256GCM"

def ofName? : String → Option Cipher
  | "XC20P" => some .xchacha
  | "A256GCM" => some .aesGcm
  | _ => none

theorem ofName?_name (c : Cipher) : ofName? c.name = some c := by cases c <;> rfl

/-- The bytes of a nonce. -/
def nonceLength : Cipher → Nat
  | .xchacha => 24
  | .aesGcm => 12

/-- The bytes of a key. -/
def keyLength : Nat := 32

/-- The bytes of the tag at the end of a ciphertext. -/
def tagLength : Nat := 16

end Cipher

/-- The functions of signatures, key agreement and encryption, for inputs of the right lengths. -/
class Suite where
  /-- The signing key of a seed. -/
  publicKey : (seed : Bytes) → Bytes
  /-- The signature of a text under a seed. -/
  sign : (seed text : Bytes) → Bytes
  /-- Whether a signature of a text stands under a key. -/
  verify : (key text signature : Bytes) → Bool
  /-- The agreement key that belongs to a signing key, if it is one. -/
  agreementKey? : (key : Bytes) → Option Bytes
  /-- The agreement secret of a seed. -/
  agreementSecret : (seed : Bytes) → Bytes
  /-- The agreement key of an agreement secret. -/
  agreementPublic : (secret : Bytes) → Bytes
  /-- What a secret and a key of someone else have in common. -/
  agree : (secret key : Bytes) → Bytes
  /-- Enciphers a text; the tag stands at the end. -/
  sealText : Cipher → (key nonce aad text : Bytes) → Bytes
  /-- Opens a ciphertext. -/
  openText? : Cipher → (key nonce aad sealed : Bytes) → Option Bytes

namespace Suite

/-- What every suite promises: its keys are 32 bytes long and every signing key has its agreement key,
its signatures stand, both parties of an agreement have the same in common, and what is sealed opens
again to the same text. -/
structure Lawful (suite : Suite) : Prop where
  length_publicKey : ∀ seed, (suite.publicKey seed).length = 32
  length_agreementPublic : ∀ secret, (suite.agreementPublic secret).length = 32
  agreementKey_publicKey : ∀ seed, ∃ key, suite.agreementKey? (suite.publicKey seed) = some key ∧
    key.length = 32
  verify_sign : ∀ seed text, suite.verify (suite.publicKey seed) text (suite.sign seed text) = true
  agree_seed : ∀ seed secret key, suite.agreementKey? (suite.publicKey seed) = some key →
    suite.agree (suite.agreementSecret seed) (suite.agreementPublic secret)
      = suite.agree secret key
  agree_seeds : ∀ a b key key', suite.agreementKey? (suite.publicKey a) = some key →
    suite.agreementKey? (suite.publicKey b) = some key' →
    suite.agree (suite.agreementSecret a) key' = suite.agree (suite.agreementSecret b) key
  open_seal : ∀ cipher key nonce aad text,
    suite.openText? cipher key nonce aad (suite.sealText cipher key nonce aad text) = some text

/-- Ed25519, X25519 and the two ciphers. -/
@[reducible] def standard : Suite where
  publicKey := Ed25519.publicKey
  sign := Ed25519.sign
  verify := Ed25519.verify
  agreementKey? := Ed25519.toMontgomery?
  agreementSecret := Ed25519.scalarBytes
  agreementPublic := X25519.publicKey
  agree := X25519.agree
  sealText
    | .xchacha => XChaCha.sealText
    | .aesGcm => Gcm.sealText
  openText?
    | .xchacha => XChaCha.openText?
    | .aesGcm => Gcm.openText?

end Suite

end Pairwise
