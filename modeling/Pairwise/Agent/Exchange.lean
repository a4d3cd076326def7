import Pairwise.Agent.Connections
import Pairwise.Agent.Dids
import Pairwise.Connection.Transition
import Pairwise.Message.Exchange
import Pairwise.Message.Problem
/-!
# The exchange of DIDs

Both sides of an exchange. Every step first asks whether the state of the connection admits its
message, then works out the connection that follows, and stores it once. A step that creates a
message gives the message and the connection as it is stored then; one that fails has stored no
connection.
-/
namespace Pairwise

/-- What may be said in a request beside the routing; the label is the agent's if none is given. -/
structure RequestOptions where
  label : Option String := none
  goalCode : Option String := none
  goal : Option String := none
  autoAccept : Option Bool := none
  deriving DecidableEq, Repr

/-- The first key that an invitation is answered to, which must be there. -/
def Invitation.requireKey (i : Invitation) : Except Error Key := do
  match ← i.recipients with
  | [] => .error .invitationWithoutKey
  | key :: _ => return key

namespace Connection

/-- The invitation of a connection, which must be there. -/
def requireInvitation (c : Connection) : Except Error Invitation :=
  match c.invitation with
  | some i => .ok i
  | none => .error .missingInvitation

/-- The thread of a connection, which must be there. -/
def requireThread (c : Connection) : Except Error String :=
  match c.threadId with
  | some thread => .ok thread
  | none => .error (.noThread c.id)

/-- The state that follows, if the connection may create or process a message. -/
def advance (c : Connection) (direction : Direction) (kind : MessageKind) :
    Except Error ExchangeState :=
  Transition.apply direction kind c.role c.state

end Connection

/-- Accepts a reference that is there and is the one expected. -/
def checkReference (what : String) (expected received : Option String) : Except Error Unit :=
  if expected.isSome ∧ expected = received then .ok ()
  else .error (.referenceMismatch
    (what ++ " '" ++ received.getD "" ++ "' does not match '" ++ expected.getD "" ++ "'"))

namespace Agent

variable [Suite] [Chance]

/-! ## The requester's and the responder's messages -/

/-- Creates the request that answers the connection's invitation, with a new DID that tells a
routing. -/
def createRequest (c : Connection) (r : Routing) (options : RequestOptions) :
    Step (Request × Connection) := do
  let invitation ← c.requireInvitation
  let state ← c.advance .create .exchangeRequest
  let settings ← Step.view (·.settings)
  let peer ← createPeerDid r settings.exchangeForm
  let label := options.label.getD settings.label
  let message := Request.new (← drawId) label invitation.id peer.did
  let attachment ← attachmentFor peer r.recipientKey
  let c ← updateConnection { c with
    did := some peer.did
    verkey := some r.recipientKey.base58
    threadId := some message.id
    mediatorId := r.mediatorId
    autoAccept := options.autoAccept.or c.autoAccept
    state }
  return ({ message with goalCode := options.goalCode, goal := options.goal, attachment }, c)

/-- The connection that a request is answered on: the invitation's own, or a new one for every
request if the invitation is for many. -/
def answering (c : Connection) (r : Option Routing) : Step Connection :=
  if c.multiUse then
    match r with
    | none => Step.fail (.missingRouting
        ("request for multi-use invitation " ++ c.invitationId.getD ""))
    | some r => do
      let new ← newConnection c.role c.state
      return { new with
        invitation := c.invitation
        autoAccept := c.autoAccept
        customTags := c.customTags
        verkey := some r.recipientKey.base58
        mediatorId := r.mediatorId }
  else return c

/-- Takes in a request for the connection's invitation. -/
def processRequest (c : Connection) (m : Request) (r : Option Routing) : Step Connection := do
  let state ← c.advance .process .exchangeRequest
  checkReference "parent thread id" c.invitationId (Thread.parentOf m.thread)
  let answer ← answering c r
  acceptTheirDid m.did m.attachment []
  let answer := { answer with
    theirDid := some m.did
    theirLabel := some m.label
    threadId := some m.id
    state }
  if c.multiUse then saveConnection answer else updateConnection answer

/-- The routing of an invitation: its key, endpoint and mediators. -/
def invitationRouting (c : Connection) (i : Invitation) (key : Key) (settings : Settings) :
    Except Error Routing := do
  return {
    endpoints := (i.endpoint.map fun e => [e]).getD settings.endpoints
    recipientKey := key
    routingKeys := ← i.routing
    mediatorId := c.mediatorId }

/-- The routing that a response tells: the one given, or that of the invitation. -/
def responseRouting (c : Connection) (i : Invitation) (key : Key) (settings : Settings) :
    Option Routing → Except Error Routing
  | some r => .ok r
  | none => invitationRouting c i key settings

/-- Creates the response to a request, with a new DID that tells a routing. The invitation's key signs
the attachment. -/
def createResponse (c : Connection) (r : Option Routing) : Step (Response × Connection) := do
  let state ← c.advance .create .exchangeResponse
  let thread ← c.requireThread
  let invitation ← c.requireInvitation
  let key ← invitation.requireKey
  let settings ← Step.view (·.settings)
  let r ← responseRouting c invitation key settings r
  let peer ← createPeerDid r settings.exchangeForm
  let message := Response.new (← drawId) peer.did thread
  let attachment ← attachmentFor peer key
  let c ← updateConnection { c with did := some peer.did, mediatorId := r.mediatorId, state }
  return ({ message with attachment }, c)

/-- Takes in the response to the connection's request. The document may be signed by the key of the
invitation. -/
def processResponse (c : Connection) (m : Response) : Step Connection := do
  let state ← c.advance .process .exchangeResponse
  checkReference "thread id" c.threadId (some (Thread.idOf m.id m.thread))
  let invitation ← c.requireInvitation
  let keys ← invitation.recipients
  acceptTheirDid m.did m.attachment keys
  updateConnection { c with theirDid := some m.did, state }

/-- Creates the completion of an exchange. -/
def createComplete (c : Connection) : Step (Complete × Connection) := do
  let state ← c.advance .create .exchangeComplete
  let thread ← c.requireThread
  let invitation ← c.requireInvitation
  let message := Complete.new (← drawId) thread (some invitation.id)
  return (message, ← updateState c state)

/-- Takes in the completion of an exchange. -/
def processComplete (c : Connection) (m : Complete) : Step Connection := do
  let state ← c.advance .process .exchangeComplete
  checkReference "thread id" c.threadId (some (Thread.idOf m.id m.thread))
  checkReference "parent thread id" c.invitationId (Thread.parentOf m.thread)
  updateState c state

/-- Gives up the exchange that the counterparty has reported a problem with. -/
def processExchangeProblem (c : Connection) (_ : ProblemReport) : Step Connection := do
  let state ← c.advance .process .exchangeProblem
  updateState c state

end Agent

end Pairwise
