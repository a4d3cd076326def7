import Pairwise.Message.Attachment
import Pairwise.Message.Kind
import Pairwise.Message.Thread
/-!
# Messages of the exchange

A request answers an invitation and tells the requester's DID, a response tells the responder's, and
the completion ends the exchange. A DID that does not tell its document travels with it as a signed
attachment.
-/
namespace Pairwise

/-- A request for an exchange of DIDs. -/
structure Request where
  kind : MessageKind := .exchangeRequest
  id : String
  label : String
  goalCode : Option String := none
  goal : Option String := none
  did : String
  attachment : Option Attachment := none
  thread : Option Thread := none

namespace Request

/-- A request that starts a thread under an invitation. -/
def new (id label invitation did : String) : Request where
  id := id
  label := label
  did := did
  thread := some (.replyUnder id (some invitation))

def reader : Json.Record Request :=
  mk <$> .field "@type" MessageKind.reader <*> .field "@id" .string <*> .field "label" .string
    <*> .nullable "goal_code" .string <*> .nullable "goal" .string <*> .field "did" .string
    <*> .nullable "did_doc~attach" Attachment.reader.read <*> Thread.member

def toJson (m : Request) : Json :=
  .obj ([("@type", m.kind.toJson), ("@id", .str m.id), ("label", .str m.label)]
    ++ Json.optional "goal_code" (m.goalCode.map .str)
    ++ Json.optional "goal" (m.goal.map .str)
    ++ [("did", .str m.did)]
    ++ Json.optional "did_doc~attach" (m.attachment.map (·.toJson))
    ++ Thread.write m.thread)

end Request

/-- The answer to a request. -/
structure Response where
  kind : MessageKind := .exchangeResponse
  id : String
  did : String
  attachment : Option Attachment := none
  thread : Option Thread := none

namespace Response

/-- A response in a thread. -/
def new (id did thread : String) : Response where
  id := id
  did := did
  thread := some (.reply thread)

def reader : Json.Record Response :=
  mk <$> .field "@type" MessageKind.reader <*> .field "@id" .string <*> .field "did" .string
    <*> .nullable "did_doc~attach" Attachment.reader.read <*> Thread.member

def toJson (m : Response) : Json :=
  .obj ([("@type", m.kind.toJson), ("@id", .str m.id), ("did", .str m.did)]
    ++ Json.optional "did_doc~attach" (m.attachment.map (·.toJson))
    ++ Thread.write m.thread)

end Response

/-- The end of an exchange. -/
structure Complete where
  kind : MessageKind := .exchangeComplete
  id : String
  thread : Option Thread := none
  deriving DecidableEq, Repr

namespace Complete

/-- A completion in a thread that grew out of another. -/
def new (id thread : String) (parent : Option String) : Complete where
  id := id
  thread := some (.replyUnder thread parent)

def reader : Json.Record Complete :=
  mk <$> .field "@type" MessageKind.reader <*> .field "@id" .string <*> Thread.member

def toJson (m : Complete) : Json :=
  .obj ([("@type", m.kind.toJson), ("@id", .str m.id)] ++ Thread.write m.thread)

end Complete

end Pairwise
