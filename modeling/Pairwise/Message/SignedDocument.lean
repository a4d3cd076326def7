import Pairwise.Message.Attachment
import Pairwise.Wallet
/-!
# Signed documents

A DID that does not tell its document travels with the document as an attachment, which is signed.
Every signature must stand, and every signer must be an authentication key of the document or a key
that is allowed beside them.

`SignedDocument.sign` makes the attachment's signatures, `SignedDocument.verify` gives the document
of an attachment whose signatures are in order.
-/
namespace Pairwise

namespace SignedDocument

variable [Suite]

/-- The payload of a document. -/
def payload (document : Document) : String := Base64Url.encode document.toJson.bytes

/-- The header of a signature by a key. -/
def header (key : Key) : ProtectedHeader where
  alg := signatureAlgorithm
  kid := some key.did
  jwk := .ofKey key

/-- Signs a document with a key of the wallet. -/
def sign (wallet : Wallet) (document : Document) (key : Key) : Except Error Jws := do
  let blank ← Signature.make (header key) []
  let value ← wallet.sign key (blank.input (payload document))
  Jws.ofSignatures [← Signature.make (header key) value]

/-- The attachment of a document and its signatures. -/
def attach (id : String) (document : Document) (jws : Jws) : Attachment :=
  .ofBase64 id (payload document) (some jws)

/-- Restates an error as one of the signature. -/
def invalid {α : Type} (result : Except Error α) : Except Error α :=
  result.mapError fun e => .invalidSignature e.message

/-- Accepts a key id that is no DID of a key, or that of the signer's. -/
def checkKid (kid : String) (signer : Key) : Except Error Unit :=
  match Did.key kid with
  | .ok key =>
    if key = signer then .ok () else .error (.invalidSignature s!"kid {kid} does not match jwk")
  | .error _ => .ok ()

/-- The signer of a signature that stands. -/
def signer (payload : String) (s : Signature) : Except Error Key := do
  let header ← s.decodeHeader
  checkSignatureAlgorithm header.alg
  let key ← invalid header.jwk.toKey
  checkKid s.kid key
  let value ← invalid (Base64Url.read s.value)
  if ← key.verify (s.input payload) value then return key
  else .error (.invalidSignature s!"signature by {key.fingerprint} does not verify")

/-- The document that a payload holds. -/
def decodePayload (payload : String) : Except Error Document :=
  Signature.decodeText Document.reader.read payload

/-- The document of an attachment, if it is signed by its own authentication keys or by keys that
are allowed. -/
def verify (a : Attachment) (allowed : List Key) : Except Error Document :=
  match a.data.jws, a.data.base64 with
  | none, _ => .error (.invalidSignature "DID Doc signature is missing")
  | some _, none => .error (.invalidSignature "signed payload must be base64")
  | some jws, some payload => do
    let signers ← jws.signatures.mapM (signer payload)
    let document ← decodePayload payload
    let authorized := (← document.authenticationKeys) ++ allowed
    match signers.find? fun s => !authorized.contains s with
    | some stranger => .error (.unauthorizedSigner stranger.fingerprint)
    | none => return document

end SignedDocument

end Pairwise
