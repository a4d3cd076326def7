import Pairwise.Crypto.ConcatKdf
import Pairwise.Key
import Pairwise.Message.Envelope
/-!
# Sealing

An envelope is sealed in two steps. The content is enciphered once, under a key for this envelope
only. That key is then wrapped for every recipient, under a key that the recipient and a fresh pair
of keys have in common; when the sender names itself, its own key has a part in it too.

`Cipher.encrypt` and `Cipher.decrypt` are the ciphers with their checks, `ConcatKdf.Material.key` is
the derivation of keys with its own. `Wrapping.wrap` and `Wrapping.unwrap` are the second step,
`Envelope.sealContent` and `Envelope.openWith` the whole.
-/
namespace Pairwise

namespace Cipher

/-- Whether a key and a nonce have the lengths that the cipher takes. -/
def fits (c : Cipher) (key nonce : Bytes) : Bool :=
  nonce.length = c.nonceLength && key.length = keyLength

/-- Enciphers a text; the tag stands at the end. -/
def encrypt [Suite] (c : Cipher) (key nonce aad text : Bytes) : Except Error Bytes :=
  if c.fits key nonce then .ok (Suite.sealText c key nonce aad text) else .error .cipherInput

/-- The wording for a ciphertext that is not genuine. -/
def notGenuine : String := "aead::Error"

/-- Opens a ciphertext. -/
def decrypt [Suite] (c : Cipher) (key nonce aad sealed : Bytes) : Except Error Bytes :=
  if c.fits key nonce then
    match Suite.openText? c key nonce aad sealed with
    | some text => .ok text
    | none => .error (.decryptionFailed notGenuine)
  else .error .cipherInput

/-- The cipher that an envelope names. -/
def ofHeader (name : String) : Except Error Cipher :=
  match ofName? name with
  | some c => .ok c
  | none => .error (.decryptionFailed s!"content encryption '{name}' not implemented")

/-- A ciphertext without its tag, and the tag. -/
def splitTag (sealed : Bytes) : Bytes × Bytes := sealed.splitAt (sealed.length - tagLength)

end Cipher

namespace ConcatKdf

/-- What a key is derived from: a secret, the name of the algorithm, and what is known of both
parties. -/
@[ext]
structure Material where
  secret : Bytes
  algorithm : String
  producer : Option Bytes
  consumer : Option Bytes
  deriving DecidableEq, Repr

/-- Whether the lengths of all texts have room in front of them. -/
def Material.fits (m : Material) : Bool :=
  countable (Utf8.ofString m.algorithm) && m.producer.all countable && m.consumer.all countable

/-- The key that is derived. -/
def Material.key (m : Material) : Except Error Bytes :=
  if m.fits then .ok (derive m.secret m.algorithm m.producer m.consumer) else .error .textLength

end ConcatKdf

namespace Base64Url

/-- Reads base 64 in an envelope or an attachment. -/
def read (text : String) : Except Pairwise.Error Bytes := (decode text).mapError .base64

end Base64Url

namespace Key

/-- The bytes of the agreement key of a key. -/
def agreementBytes [Suite] (k : Key) : Except Error Bytes := do
  let agreement ← k.toX25519
  if agreement.bytes.length = length then return agreement.bytes else .error .agreementKeyLength

end Key

/-- Who seals an envelope under its own name: its signing key, and its agreement secret. -/
structure Sender where
  key : Key
  secret : Bytes
  deriving DecidableEq, Repr

namespace Wrapping

/-- Wrapping in the name of a sender. -/
def named : String := "ECDH-1PU+XC20PKW"

/-- Wrapping without a sender. -/
def anonymous : String := "ECDH-ES+XC20PKW"

/-- What is drawn for a recipient: the secret of the fresh pair of keys, and the nonce. -/
structure Fresh where
  secret : Bytes
  nonce : Bytes

/-- What the key that a content key is wrapped under is derived from. -/
def materialFor [Suite] (sender : Option Sender) (fresh : Fresh) (recipient : Key) :
    Except Error ConcatKdf.Material := do
  let theirs ← recipient.agreementBytes
  let own := match sender with
    | some s => Suite.agree s.secret theirs
    | none => []
  return {
    secret := Suite.agree fresh.secret theirs ++ own
    algorithm := if sender.isSome then named else anonymous
    producer := Suite.agreementPublic fresh.secret
    consumer := recipient.bytes }

/-- Wraps a content key for a recipient. -/
def wrap [Suite] (contentKey : Bytes) (sender : Option Sender) (fresh : Fresh) (recipient : Key) :
    Except Error Recipient := do
  let material ← materialFor sender fresh recipient
  let key ← material.key
  let sealed ← Cipher.encrypt .xchacha key fresh.nonce [] contentKey
  let (text, tag) := Cipher.splitTag sealed
  return {
    encryptedKey := Base64Url.encode text
    header := {
      kid := recipient.base58
      sender := sender.map fun s => s.key.base58
      alg := material.algorithm
      epk := Base64Url.encode (Suite.agreementPublic fresh.secret)
      iv := Base64Url.encode fresh.nonce
      tag := Base64Url.encode tag } }

/-- The sender that a header names: by name if the key is wrapped so, and nobody otherwise. -/
def senderKey (header : RecipientHeader) : Except Error (Option Key) :=
  match header.sender with
  | some sender =>
    if header.alg = named then some <$> Key.ofBase58 sender .ed25519 else mismatch
  | none => if header.alg = anonymous then .ok none else mismatch
where
  mismatch : Except Error (Option Key) := .error (.decryptionFailed
    s!"key wrapping '{header.alg}' does not match sender header")

/-- What the key that a content key was wrapped under is derived from with the recipient's seed.
Gives the sender, if it is named. -/
def materialOf [Suite] (seed : Bytes) (header : RecipientHeader) :
    Except Error (ConcatKdf.Material × Option Key) := do
  let secret := Suite.agreementSecret seed
  let epk ← Base64Url.read header.epk
  if epk.length ≠ Key.length then .error (.decryptionFailed "malformed epk")
  let sender ← senderKey header
  let own ← match sender with
    | some key => do pure (Suite.agree secret (← key.agreementBytes))
    | none => pure []
  let recipient ← Key.ofBase58 header.kid .ed25519
  return ({
    secret := Suite.agree secret epk ++ own
    algorithm := header.alg
    producer := epk
    consumer := recipient.bytes }, sender)

/-- Unwraps a content key with the recipient's seed. Gives the sender, if it is named. -/
def unwrap [Suite] (seed : Bytes) (r : Recipient) : Except Error (Bytes × Option Key) := do
  let (material, sender) ← materialOf seed r.header
  let key ← material.key
  let text ← Base64Url.read r.encryptedKey
  let tag ← Base64Url.read r.header.tag
  let nonce ← Base64Url.read r.header.iv
  return (← Cipher.decrypt .xchacha key nonce [] (text ++ tag), sender)

end Wrapping

/-- What an envelope holds: the message, who sealed it if it says so, and whom it was opened as. -/
structure Opened where
  plaintext : Json
  sender : Option Key
  recipient : Key

namespace Envelope

/-- The type of all envelopes. -/
def typ : String := "JWM/1.0"

/-- Content sealed in the name of a sender. -/
def authenticated : String := "Authcrypt"

/-- Content sealed without a sender. -/
def anonymous : String := "Anoncrypt"

/-- The header of an envelope in base 64. -/
def headerText (cipher : Cipher) (named : Bool) : String :=
  let header : EnvelopeHeader :=
    { typ, enc := cipher.name, alg := if named then authenticated else anonymous }
  Base64Url.encode header.toJson.bytes

/-- Enciphers the content, once the key is wrapped for all recipients. -/
def sealContent [Suite] (cipher : Cipher) (named : Bool) (contentKey nonce : Bytes)
    (recipients : List Recipient) (message : Json) : Except Error Envelope := do
  let header := headerText cipher named
  let sealed ← cipher.encrypt contentKey nonce (Utf8.ofString header) message.canonicalBytes
  let (text, tag) := Cipher.splitTag sealed
  return {
    header, recipients
    iv := Base64Url.encode nonce
    ciphertext := Base64Url.encode text
    tag := Base64Url.encode tag }

/-- Whether the content says the same about its sender as the wrapped key does. -/
def agrees (alg : String) (sender : Option Key) : Bool :=
  alg = if sender.isSome then authenticated else anonymous

/-- Opens an envelope with the seeds that are at hand, by key. The first recipient whose seed is
there is the one that counts. -/
def openWith [Suite] (seed? : String → Option Bytes) (e : Envelope) : Except Error Opened := do
  let headerBytes ← Base64Url.read e.header
  let header ← Error.ofJson (Json.Reader.ofBytes EnvelopeHeader.reader.read headerBytes)
  let cipher ← Cipher.ofHeader header.enc
  let found := e.recipients.findSome? fun r => (seed? r.header.kid).map fun seed => (r, seed)
  match found with
  | none => .error (.decryptionFailed "no recipient key present in this wallet")
  | some (recipient, seed) =>
    let (contentKey, sender) ← Wrapping.unwrap seed recipient
    if !agrees header.alg sender then
      .error (.decryptionFailed s!"envelope '{header.alg}' does not match recipient header")
    let text ← Base64Url.read e.ciphertext
    let tag ← Base64Url.read e.tag
    let nonce ← Base64Url.read e.iv
    let content ← cipher.decrypt contentKey nonce (Utf8.ofString e.header) (text ++ tag)
    let plaintext ← Error.ofJson (Json.ofBytes content)
    return ⟨plaintext, sender, ← Key.ofBase58 recipient.header.kid .ed25519⟩

end Envelope

end Pairwise
