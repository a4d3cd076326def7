import Pairwise.Codec.Base64Url
import Pairwise.Codec.Multibase
import Pairwise.Codec.Multihash
import Pairwise.Connection.State
import Pairwise.Message.Kind
import Pairwise.Text.Quoted
/-!
# Errors

What can go wrong, by cause, and the wording of each.

`Error.message` is the wording; `Error.isReportable` tells which errors of an inbound message the
counterparty learns about.
-/
namespace Pairwise

/-- The kinds of public keys: for signatures and for key agreement. -/
inductive KeyKind where
  | ed25519
  | x25519
  deriving DecidableEq, Repr, Inhabited

/-- The name of a kind of key in messages. -/
def KeyKind.label : KeyKind → String
  | .ed25519 => "Ed25519"
  | .x25519 => "X25519"

/-- What went wrong. -/
inductive Error where
  /-- A cipher was given a key or a nonce of the wrong length. -/
  | cipherInput
  /-- A message does not fit the state of the connection. -/
  | invalidTransition (kind : MessageKind) (state : ExchangeState) (allowed : List ExchangeState)
  | missingRouting (what : String)
  | missingInvitation
  | invalidSignature (why : String)
  | unauthorizedSigner (key : String)
  | malformedDid (did : String)
  | threadMismatch (expected received : String)
  | referenceMismatch (what : String)
  | missingRotation (connection : String)
  | rotationInProgress (connection : String)
  | senderMismatch (why : String)
  | decryptionFailed (why : String)
  | unsupportedEnvelope (name : String)
  | unresolvedDid (did : String)
  | keyNotFound (what : String)
  | recordNotFound (what : String)
  | recordDuplicate (what : String)
  | concurrentModification (id : String) (expected found : UInt64)
  | unsupportedMessage (what : String)
  | base64 (cause : Base64Url.Error)
  /-- A JSON text or value could not be read. -/
  | json (fault : Json.Fault)
  /-- A signing key is no point of the curve. -/
  | notAPoint
  | base58 (text : String) (cause : Base58.Error)
  | unknownBase (text : String)
  | multicodec (cause : Varint.Error)
  | multihash (cause : Multihash.Error)
  | unsupportedKeyCode (code : Nat)
  | keyLength (length : Nat)
  | fingerprintLength (fingerprint : String)
  | conversionKeyLength
  | verificationKeyLength
  | agreementKeyLength
  /-- A text is too long for its length to be written in front of it. -/
  | textLength
  | seedLength
  | signingSeedLength
  | underivableKind (kind : KeyKind)
  | noRecipients
  | methodWithoutKey (id kind : String)
  | unsupportedJwk (kty crv : String)
  | jwkLength
  | noContent
  | problemCodeFormat
  | unexpectedState (connection : String) (state : ExchangeState) (expected : List ExchangeState)
  | noTheirDid (connection : String)
  | noOwnDid (connection : String)
  | noThread (connection : String)
  | invitationWithoutKey
  /-- A transport could not deliver. -/
  | transport (why : String)
  deriving DecidableEq, Repr

namespace Json

/-- The name of a fault. -/
def Fault.name : Fault → String
  | .ended => "eof"
  | .malformed => "syntax"
  | .mismatched => "data"

end Json

/-- The wording of a base 58 error. -/
def Base58.Error.message : Base58.Error → String
  | .invalidCharacter c index =>
    "provided string contained invalid character " ++ Text.quoteChar c ++ " at byte "
      ++ toString index
  | .nonAscii index =>
    "provided string contained non-ascii character starting at byte " ++ toString index

/-- The wording of a multihash error, but for a hash of another function. -/
def Multihash.Error.message : Multihash.Error → String
  | .ended => "unexpected end of file"
  | .varint cause => cause.message
  | .invalidSize size => s!"Invalid multihash size {size}."
  | .cut => "failed to fill whole buffer"
  | .otherFunction => ""

namespace Error

/-- States as they are shown. -/
def stateList (states : List ExchangeState) : String := Text.bracketed (states.map (·.label))

/-- The wording of an error. -/
def message : Error → String
  | cipherInput => "plugged cryptography failure"
  | invalidTransition kind state allowed =>
    s!"message '{kind.uri}' is not allowed in state {state.label}, allowed states: "
      ++ stateList allowed
  | missingRouting what => s!"routing is required: {what}"
  | missingInvitation => "connection invitation is missing"
  | invalidSignature why => s!"invalid signature: {why}"
  | unauthorizedSigner key => s!"signer key {key} is not authorized for this document"
  | malformedDid did => s!"malformed DID '{did}'"
  | threadMismatch expected received =>
    s!"rotation thread id '{expected}' does not match incoming '{received}'"
  | referenceMismatch what => s!"reference mismatch: {what}"
  | missingRotation connection => s!"no did rotation data found for connection '{connection}'"
  | rotationInProgress connection =>
    s!"did rotation already in progress for connection '{connection}'"
  | senderMismatch why => s!"sender is not the counterparty: {why}"
  | decryptionFailed why => s!"failed to decrypt message: {why}"
  | unsupportedEnvelope name => s!"envelope type '{name}' is not supported"
  | unresolvedDid did => s!"unable to resolve DID '{did}'"
  | keyNotFound what => s!"key not found in wallet: {what}"
  | recordNotFound what => s!"record '{what}' not found"
  | recordDuplicate what => s!"record '{what}' already exists"
  | concurrentModification id expected found =>
    s!"record '{id}' was modified concurrently (expected version {expected}, found {found})"
  | unsupportedMessage what => s!"unsupported message type '{what}'"
  | base64 cause => s!"base64 decoding failed: {cause.message}"
  | json fault => s!"invalid JSON ({fault.name})"
  | notAPoint => "signature error: Cannot decompress Edwards point"
  | base58 text cause => s!"invalid base58 '{text}': {cause.message}"
  | unknownBase text => s!"unsupported multibase prefix in '{text}'"
  | multicodec cause => s!"invalid multicodec prefix: {cause.message}"
  | multihash .otherFunction => "not a sha2-256 multihash"
  | multihash cause => s!"invalid multihash: {cause.message}"
  | unsupportedKeyCode code =>
    "unsupported key type from multicodec code '0x" ++ String.ofList (Text.hexNumber code) ++ "'"
  | keyLength length => s!"expected 32 byte public key, got {length}"
  | fingerprintLength fingerprint => s!"fingerprint '{fingerprint}' does not hold a 32 byte key"
  | conversionKeyLength => "invalid Ed25519 key length"
  | verificationKeyLength => "Ed25519 key must be 32 bytes"
  | agreementKeyLength => "invalid X25519 key length"
  | textLength => "out of range integral type conversion attempted"
  | seedLength => "seed must be 32 bytes"
  | signingSeedLength => "Ed25519 seed must be 32 bytes"
  | underivableKind kind =>
    s!"key type {kind.label} can not be created, X25519 keys are derived from Ed25519"
  | noRecipients => "no recipient keys to pack for"
  | methodWithoutKey id kind =>
    s!"verification method '{id}' of type '{kind}' carries no supported key"
  | unsupportedJwk kty crv => s!"unsupported jwk kty '{kty}' crv '{crv}'"
  | jwkLength => "jwk 'x' must hold 32 bytes"
  | noContent => "attachment carries no content"
  | problemCodeFormat => "Code badly formatted for this problem"
  | unexpectedState connection state expected =>
    s!"connection {connection} is in state {state.label}, expected one of " ++ stateList expected
  | noTheirDid connection => s!"connection {connection} has no their DID"
  | noOwnDid connection => s!"connection {connection} has no own DID"
  | noThread connection => s!"connection {connection} has no thread id"
  | invitationWithoutKey => "invitation has no recipient key"
  | transport why => why

/-- Whether the counterparty learns about an error of the message it sent. -/
def isReportable : Error → Bool
  | invalidSignature _ | unauthorizedSigner _ | referenceMismatch _ | invalidTransition _ _ _
  | malformedDid _ => true
  | _ => false

/-- Restates the error of a JSON reader. -/
def ofJson {α : Type} (result : Except Json.Fault α) : Except Error α :=
  result.mapError Error.json

end Error

end Pairwise
