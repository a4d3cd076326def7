import Pairwise.Key
/-!
# Invitations

An invitation tells how its maker is reached: by which keys, at which endpoint and through which
mediators. It travels outside of any connection.
-/
namespace Pairwise

/-- An invitation to connect. Keys are given in bare base 58. -/
structure Invitation where
  kind : MessageKind := .invitation
  id : String
  label : String
  recipientKeys : List String
  endpoint : Option String := none
  routingKeys : List String := []
  deriving DecidableEq, Repr

namespace Invitation

/-- The keys that the invitation is answered to. -/
def recipients (i : Invitation) : Except Error (List Key) := Key.allOfBase58 i.recipientKeys

/-- The keys of the mediators on the way. -/
def routing (i : Invitation) : Except Error (List Key) := Key.allOfBase58 i.routingKeys

def reader : Json.Record Invitation :=
  mk <$> .field "@type" MessageKind.reader <*> .field "@id" .string <*> .field "label" .string
    <*> .field "recipientKeys" (.list .string) <*> .nullable "serviceEndpoint" .string
    <*> .withDefault "routingKeys" (.list .string) []

def toJson (i : Invitation) : Json :=
  .obj ([("@type", i.kind.toJson), ("@id", .str i.id), ("label", .str i.label),
      ("recipientKeys", Json.strings i.recipientKeys)]
    ++ Json.optional "serviceEndpoint" (i.endpoint.map .str)
    ++ Json.unlessEmpty "routingKeys" (i.routingKeys.map .str))

end Invitation

end Pairwise
