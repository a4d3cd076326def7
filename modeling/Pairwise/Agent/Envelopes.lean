import Pairwise.Agent
import Pairwise.Message
/-!
# Envelopes of an agent

A message is sealed for its recipients, and then, for every mediator on the way, put into a forward
message that is sealed for the mediator. The mediator reached first is the last in the list.
-/
namespace Pairwise

/-- How an envelope is made: enciphered, or only signed, which is not done here. -/
inductive EnvelopeForm where
  | enciphered
  | signed
  deriving DecidableEq, Repr

/-- Whom a message is sealed for, and in whose name. -/
structure Delivery where
  recipients : List Key
  routing : List Key := []
  sender : Option Key := none
  form : EnvelopeForm := .enciphered
  deriving DecidableEq, Repr

namespace Agent

variable [Suite] [Chance]

/-- Wraps a content key for recipients in turn. -/
def wrapFor (contentKey : Bytes) (sender : Option Sender) : List Key → Step (List Recipient)
  | [] => return []
  | key :: rest => do
    let secret ← drawNoise Key.length
    let nonce ← drawNoise (Cipher.nonceLength .xchacha)
    let recipient ← Wrapping.wrap contentKey sender ⟨secret, nonce⟩ key
    return recipient :: (← wrapFor contentKey sender rest)

/-- Seals a message for recipients, in the name of a key of the wallet or without a sender. -/
def sealFor (message : Json) (recipients : List Key) (sender : Option Key) : Step Envelope := do
  if recipients.isEmpty then Step.fail .noRecipients
  else
    let wallet ← Step.view (·.wallet)
    let sender ← match sender with
      | some key => do pure (some (← wallet.sender key))
      | none => pure none
    let contentKey ← drawNoise Cipher.keyLength
    let recipients ← wrapFor contentKey sender recipients
    let nonce ← drawNoise wallet.cipher.nonceLength
    Envelope.sealContent wallet.cipher sender.isSome contentKey nonce recipients message

/-- Hands an envelope for a key to mediators, one after the other. -/
def forward (target : String) (e : Envelope) : List Key → Step Envelope
  | [] => return e
  | mediator :: rest => do
    let message : Forward := { id := ← drawId, target, msg := e }
    let outer ← sealFor message.toJson [mediator] none
    forward mediator.base58 outer rest

/-- Seals a message and hands it to the mediators on the way. -/
def pack (message : Json) (d : Delivery) : Step Envelope :=
  match d.form, d.recipients with
  | .signed, _ => Step.fail (.unsupportedEnvelope "signed")
  | .enciphered, [] => Step.fail (.missingRouting "no recipient keys")
  | .enciphered, first :: _ => do
    let e ← sealFor message d.recipients d.sender
    forward first.base58 e d.routing

/-- Restates an error as one of opening an envelope. -/
def failedToOpen : Error → Error
  | .decryptionFailed why => .decryptionFailed why
  | e => .decryptionFailed e.message

/-- Opens the outermost layer of an envelope. -/
def unpack (e : Envelope) (a : Agent) : Except Error Opened :=
  (a.wallet.unpack e).mapError failedToOpen

end Agent

end Pairwise
