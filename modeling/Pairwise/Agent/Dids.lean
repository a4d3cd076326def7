import Pairwise.Agent
import Pairwise.Connection.Routing
import Pairwise.Message.SignedDocument
/-!
# DIDs of an agent

An agent makes a DID for every routing it tells, and stores the DIDs of its counterparties. Stored
DIDs are found again by their recipient keys and by every name of their document.
-/
namespace Pairwise

namespace Agent

variable [Suite] [Chance]

/-- The document that tells a routing, with ids that are drawn. -/
def routingDocument (r : Routing) : Step Document := do
  let agreement ← r.recipientKey.toX25519
  let authenticationId ← drawId
  let agreementId ← drawId
  r.document agreement ("#" ++ authenticationId) ("#" ++ agreementId)

/-- Stores a DID unless it is stored. -/
def saveNewDid (r : DidRecord) : Step Unit := do
  if (← Step.view fun a => a.dids.find? r.did).isSome then return ()
  else saveDid r

/-- The document under which an agent stores its own DID. A document that follows from a key has no
services; they are kept with it. -/
def ownDocument (form : PeerForm) (told derived : Document) : Document :=
  if form = .inceptionKey then { derived with service := told.service } else derived

/-- Makes a DID that tells a routing, and stores it. -/
def createPeerDid (r : Routing) (form : PeerForm) : Step PeerDid := do
  let told ← routingDocument r
  let peer ← PeerDid.ofDocument told form
  match peer.document with
  | none => Step.fail (.unresolvedDid peer.did)
  | some derived =>
    let now ← Step.view (·.now)
    saveNewDid (← DidRecord.new peer.did .created (ownDocument form told derived)
      peer.alternatives now)
    return peer

/-- The names of a document beside a DID: its own DID, and the others of the same peer DID. -/
def otherNames (did : String) (document : Document) : Except Error (List String) :=
  if PeerDid.isValid document.id then do
    let peer ← PeerDid.ofDid document.id
    return (peer.did :: peer.alternatives).filter (· ≠ did)
  else return []

/-- Stores the document of a counterparty's DID. -/
def saveReceivedDid (did : String) (document : Document) : Step Unit := do
  let names ← otherNames did document
  let now ← Step.view (·.now)
  saveNewDid (← DidRecord.new did .received document names now)

/-- The peer DID that a counterparty tells in an exchange. A document that does not follow from the
DID must come as a signed attachment. -/
def theirPeerDid (did : String) (attachment : Option Attachment) (allowed : List Key) :
    Except Error PeerDid :=
  match attachment with
  | some attachment => do
    PeerDid.ofDidWithDocument did (← SignedDocument.verify attachment allowed)
  | none =>
    if PeerDid.isDerivable did then PeerDid.ofDid did
    else .error (.invalidSignature s!"DID Doc attachment is required for {did}")

/-- Takes in the DID that a counterparty tells in an exchange, and stores it. -/
def acceptTheirDid (did : String) (attachment : Option Attachment) (allowed : List Key) :
    Step Unit := do
  let peer ← theirPeerDid did attachment allowed
  match peer.document with
  | none => Step.fail (.unresolvedDid did)
  | some document => saveReceivedDid did document

/-- The attachment for a DID, signed by a key of the wallet. A DID that is a key has none. -/
def attachmentFor (peer : PeerDid) (signer : Key) : Step (Option Attachment) := do
  let form ← PeerDid.form peer.did
  match form, peer.document with
  | .inceptionKey, _ => return none
  | _, none => return none
  | _, some document =>
    let jws ← Step.ask fun a => SignedDocument.sign a.wallet document signer
    return some (SignedDocument.attach (← drawId) document jws)

end Agent

end Pairwise
