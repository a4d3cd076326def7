import Pairwise.Agent
import Pairwise.Connection.Routing
/-!
# Connections of an agent

How connections begin, with an invitation that is made or received, and how they are found: by
their thread, by the key a message is sealed for, by the counterparty's DID, and by the invitation.
-/
namespace Pairwise

namespace Agent

variable [Suite] [Chance]

/-- A routing with a key of its own: through a mediator, or straight to the agent's endpoints. -/
def freshRouting (mediator : Option Mediator) : Step Routing := do
  let recipientKey ← freshKey
  match mediator with
  | some m => return {
      endpoints := [m.endpoint], recipientKey, routingKeys := m.routingKeys
      mediatorId := some m.mediatorId }
  | none => return {
      endpoints := (← Step.view (·.settings)).endpoints, recipientKey, routingKeys := []
      mediatorId := none }

/-- Makes an invitation that tells a routing, and the connection that waits for its answer. -/
def createInvitation (r : Routing) (multiUse : Bool) (label : Option String) :
    Step (Invitation × Connection) := do
  let settings ← Step.view (·.settings)
  let invitation : Invitation := {
    id := ← drawId
    label := label.getD settings.label
    recipientKeys := [r.recipientKey.base58]
    endpoint := r.endpoints.head?
    routingKeys := r.routingKeys.map (·.base58) }
  let c ← newConnection .responder .invitationSent
  let c ← saveConnection { c with
    invitation := some invitation
    multiUse
    verkey := some r.recipientKey.base58
    mediatorId := r.mediatorId }
  return (invitation, c)

/-- Stores the connection that a received invitation leads to. -/
def receiveInvitation (i : Invitation) (autoAccept : Option Bool) : Step Connection := do
  let c ← newConnection .requester .invitationReceived
  saveConnection { c with theirLabel := some i.label, invitation := some i, autoAccept }

/-- Moves a connection to a state. -/
def updateState (c : Connection) (state : ExchangeState) : Step Connection :=
  updateConnection { c with state }

/-! ## Finding connections -/

/-- The connection of a thread. -/
def connectionOfThread (thread : String) (a : Agent) : Except Error (Option Connection) :=
  a.connections.querySingle (.on "threadId" thread)

/-- The first connection that one of the queries finds. -/
def firstOf (connections : Store Connection) :
    List Query → Except Error (Option Connection)
  | [] => return none
  | q :: rest => do
    match ← connections.querySingle q with
    | some c => return some c
    | none => firstOf connections rest

/-- The agent's own DIDs with a recipient key. -/
def didsOfKey (key : Key) (a : Agent) : List DidRecord :=
  a.dids.query (Query.and (.on "role" DidRole.created.name) "recipientKeyFingerprints"
    key.fingerprint)

/-- Where a message for a key belongs: to the connection that one of the key's DIDs has, now or
before, and otherwise to the invitation that waits for an answer to the key. -/
def recipientQueries (key : Key) (dids : List DidRecord) : List Query :=
  (dids.flatMap fun r => [.on "did" r.did, .on "previousDids" r.did])
    ++ [Query.and (.on "invitationKey" key.base58) "state" ExchangeState.invitationSent.name]

/-- The connection that a message for a key belongs to. -/
def connectionOfKey (key : Key) (a : Agent) : Except Error (Option Connection) :=
  firstOf a.connections (recipientQueries key (a.didsOfKey key))

/-- The connection with a counterparty that has a DID, now or before. -/
def connectionOfTheirDid (did : String) (a : Agent) : Except Error (Option Connection) :=
  firstOf a.connections [.on "theirDid" did, .on "previousTheirDids" did]

/-- The connections that grew out of an invitation, and the one that waits for its answers. -/
def connectionsOfInvitation (id : String) (a : Agent) : List Connection :=
  a.connections.query (.on "invitationId" id)

/-- Whether a stored connection is ready. -/
def isReady (id : String) (a : Agent) : Except Error Bool := do
  return (← a.connections.get id).isReady

end Agent

end Pairwise
