import Pairwise.Agent.Connections
import Pairwise.Agent.Dids
import Pairwise.Agent.Outbound
/-!
# The rotation of DIDs

One side announces a new DID and goes on under the old one until the other side acknowledges it.
The other side takes the new DID at once and remembers the old one. A hangup takes the agent's own
DID off the connection, and the counterparty's off theirs.
-/
namespace Pairwise

/-- What a connection rotates to: a DID of the agent's own, with the mediators it may go through, or
a new DID that tells a routing. -/
inductive RotationTarget where
  | existing (did : String) (mediators : List Mediator)
  | routing (r : Routing)
  deriving DecidableEq, Repr

namespace Connection

/-- Accepts a connection whose exchange is completed. -/
def requireCompleted (c : Connection) : Except Error Unit := c.assertState [.completed]

/-- The rotation that waits, which must be there. -/
def requireRotation (c : Connection) : Except Error PendingRotation := do
  match ← c.pendingRotation with
  | some rotation => return rotation
  | none => .error (.missingRotation c.id)

/-- Notes a rotation that waits. -/
def noteRotation (c : Connection) (r : PendingRotation) : Connection :=
  { c with metadata := c.metadata.set PendingRotation.key r.toJson }

/-- Drops the rotation that waits. -/
def dropRotation (c : Connection) : Connection :=
  { c with metadata := c.metadata.delete PendingRotation.key }

/-- The connection under the counterparty's new DID, if it has one; the old one is remembered. -/
def withTheirDid (c : Connection) (did : Option String) : Connection :=
  { c with theirDid := did, previousTheirDids := remember c.theirDid c.previousTheirDids }

/-- The connection under the DID that waited; the old one is remembered. -/
def commitRotation (c : Connection) (r : PendingRotation) : Connection :=
  { c.dropRotation with
    did := some r.did
    mediatorId := r.mediatorId
    previousDids := remember c.did c.previousDids }

end Connection

namespace Agent

variable [Suite] [Chance]

/-! ## The side that rotates -/

/-- The first mediator that a document goes through. -/
def mediatorOf (document : Document) : List Mediator → Except Error (Option String)
  | [] => return none
  | m :: rest => do
    if ← m.routes document then return some m.mediatorId else mediatorOf document rest

/-- The DID of a target and the mediator it goes through. -/
def rotationDid : RotationTarget → Step (String × Option String)
  | .existing did mediators => do
    let record ← Step.ask fun a => a.dids.get did
    if record.role ≠ .created then Step.fail (.keyNotFound s!"{did} was not created by us")
    else
      let document ← Step.ask (resolve did)
      return (did, ← mediatorOf document mediators)
  | .routing r => do
    let settings ← Step.view (·.settings)
    let peer ← createPeerDid r settings.rotationForm
    return (peer.did, r.mediatorId)

/-- Accepts a connection on which no rotation waits, unless a newer one may take its place. -/
def checkRotation (c : Connection) (settings : Settings) : Except Error Unit := do
  if (← c.pendingRotation).isSome && settings.strictRotation then
    .error (.rotationInProgress c.id)

/-- Creates the announcement of a new DID. -/
def createRotate (c : Connection) (target : RotationTarget) : Step (Rotate × Connection) := do
  c.requireCompleted
  checkRotation c (← Step.view (·.settings))
  let (did, mediatorId) ← rotationDid target
  let message := Rotate.new (← drawId) did
  let c ← updateConnection (c.noteRotation { threadId := message.threadId, did, mediatorId })
  return (message, c)

/-- Takes in the acknowledgement of the rotation that waits. -/
def processRotateAck (c : Connection) (m : RotateAck) : Step Connection := do
  c.requireCompleted
  let rotation ← c.requireRotation
  if rotation.threadId ≠ m.threadId then
    Step.fail (.threadMismatch rotation.threadId m.threadId)
  else updateConnection (c.commitRotation rotation)

/-- Drops the rotation that the counterparty has refused. -/
def processRotateProblem (c : Connection) (_ : ProblemReport) : Step Connection := do
  c.requireCompleted
  let _ ← c.requireRotation
  updateConnection c.dropRotation

/-! ## The other side -/

/-- What is wrong with a document to rotate to, or the document. -/
def checkRotationDid (did : String) (a : Agent) : Except (KnownProblem × String) Document :=
  if PeerDid.isValid did && !PeerDid.isDerivable did then
    .error (.didMethodUnsupported, "DID Method Unsupported")
  else
    match a.resolve did with
    | .error _ => .error (.didUnresolvable, "DID Unresolvable")
    | .ok document =>
      if document.didcommServices.isEmpty then
        .error (.didDocUnsupported, "DID Document Unsupported")
      else .ok document

/-- Takes in the announcement of a new DID: acknowledges it, or reports what is wrong with it. The
answer is addressed with the connection as it was. -/
def processRotate (c : Connection) (m : Rotate) : Step Outbound := do
  c.requireCompleted
  match ← Step.view (checkRotationDid m.did) with
  | .error (problem, en) =>
    let report : ProblemReport := {
      kind := .rotateProblem
      id := ← drawId
      description := { Problem.ofKnown problem with en := some en }
      thread := some (.reply m.threadId) }
    return ⟨.ofReport report, c⟩
  | .ok document =>
    let ack := RotateAck.new (← drawId) m.threadId .ok
    saveReceivedDid document.id document
    let _ ← updateConnection (c.withTheirDid (some m.did))
    return ⟨.rotateAck ack, c⟩

/-! ## Hanging up -/

/-- Creates a hangup and takes the agent's own DID off the connection. -/
def createHangup (c : Connection) : Step (Hangup × Connection) := do
  c.requireCompleted
  let c ← updateConnection { c with did := none }
  return (Hangup.new (← drawId), c)

/-- Takes in a hangup: the counterparty's DID is only remembered from then on. -/
def processHangup (c : Connection) (_ : Hangup) : Step Connection := do
  c.requireCompleted
  updateConnection (c.withTheirDid none)

end Agent

end Pairwise
