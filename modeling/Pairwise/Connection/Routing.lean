import Pairwise.Did.Key
/-!
# Routing

How a counterparty reaches an agent: its endpoints, the key that messages are enciphered for, and
the keys of the mediators on the way, the one reached first being the last.
-/
namespace Pairwise

/-- How an agent is reached. -/
structure Routing where
  endpoints : List String
  recipientKey : Key
  routingKeys : List Key
  mediatorId : Option String
  deriving DecidableEq, Repr

/-- A mediator that new routings go through. -/
structure Mediator where
  mediatorId : String
  endpoint : String
  routingKeys : List Key
  deriving DecidableEq, Repr

namespace Mediator

/-- Whether the services, up to the first that does, go through all keys of the mediator. -/
def routesVia (m : Mediator) (d : Document) : List Service → Except Error Bool
  | [] => .ok false
  | s :: rest => do
    let keys ← d.serviceRoutingKeys s
    if m.routingKeys.all keys.contains then return true else routesVia m d rest

/-- Whether a document goes through the mediator; one without keys is on no way. -/
def routes (m : Mediator) (d : Document) : Except Error Bool :=
  if m.routingKeys.isEmpty then .ok false else m.routesVia d d.didcommServices

end Mediator

namespace Routing

/-- The services that tell the routing, one for every endpoint. -/
def services [Suite] (r : Routing) : Except Error (List Service) := do
  let routingKeys ← r.routingKeys.mapM (·.routingReference)
  return r.endpoints.zipIdx.map fun (endpoint, i) =>
    { Service.didcomm s!"#inline-{i}" endpoint [r.recipientKey.base58] routingKeys with
      priority := i % (Service.priorityLimit + 1) }

/-- The name that a new document has for itself. -/
def selfName : String := "#id"

/-- The document that tells a routing, its two keys under the given ids: the recipient key for
authentication, the agreement key that belongs to it for key agreement. -/
def document [Suite] (r : Routing) (agreement : Key) (authenticationId agreementId : String) :
    Except Error Document := do
  let services ← r.services
  return { Document.new "" with
    authentication := [.embedded (.ofKey authenticationId selfName r.recipientKey)]
    keyAgreement := [.embedded (.ofKey agreementId selfName agreement)]
    service := services }

end Routing

end Pairwise
