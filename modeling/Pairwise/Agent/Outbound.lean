import Pairwise.Agent.Envelopes
/-!
# Sending

A message is sent with the connection that it is addressed with: to the first service of the
counterparty's DID, or, as long as no DID of theirs is known, to where the invitation says.
-/
namespace Pairwise

/-- A message and the connection that it is addressed with. -/
structure Outbound where
  message : Message
  connection : Connection

/-- A sealed message and the endpoint that it goes to. -/
structure Package where
  payload : Envelope
  endpoint : String
  deriving DecidableEq, Repr

namespace Agent

variable [Suite] [Chance]

/-- The endpoint and the keys of the first service of a DID. -/
def serviceDelivery (did : String) (a : Agent) : Except Error (String × Delivery) := do
  let document ← a.resolve did
  match document.didcommServices with
  | [] => .error (.missingRouting s!"{did} has no DIDComm service")
  | service :: _ =>
    let recipients ← document.serviceRecipientKeys service
    let routing ← document.serviceRoutingKeys service
    return (service.endpoint, { recipients, routing })

/-- The endpoint and the keys of an invitation. -/
def invitationDelivery (i : Invitation) : Except Error (String × Delivery) :=
  match i.endpoint with
  | none => .error (.missingRouting s!"invitation {i.id} has no endpoint")
  | some endpoint => do
    let recipients ← i.recipients
    let routing ← i.routing
    return (endpoint, { recipients, routing })

/-- Where the counterparty of a connection is reached. -/
def delivery (c : Connection) (a : Agent) : Except Error (String × Delivery) :=
  match c.theirDid, c.invitation with
  | some did, _ => a.serviceDelivery did
  | none, some i =>
    if c.isRequester then invitationDelivery i else unreachable c
  | none, none => unreachable c
where
  unreachable (c : Connection) : Except Error (String × Delivery) :=
    .error (.missingRouting s!"connection {c.id} has no counterparty to send to")

/-- The key of the agent's DID on a connection. Without a DID nobody is named. -/
def senderKey (c : Connection) (a : Agent) : Except Error (Option Key) :=
  match c.did with
  | none => .ok none
  | some did => do
    let document ← a.resolve did
    match ← document.recipientKeys with
    | key :: _ => return some key
    | [] => return (← document.authenticationKeys).head?

/-- Seals a message for the counterparty. -/
def package (o : Outbound) : Step Package := do
  let (endpoint, d) ← Step.ask (delivery o.connection)
  let sender ← Step.ask (senderKey o.connection)
  return ⟨← pack o.message.toJson { d with sender }, endpoint⟩

/-- Seals a message and hands it to a transport. Gives what was handed over. -/
def send (transport : Package → Except Error Unit) (o : Outbound) : Step Package := do
  let p ← package o
  transport p
  return p

end Agent

end Pairwise
