import Pairwise.Message.Kind
import Pairwise.Message.Thread
/-!
# Messages of the rotation

One side announces the DID it rotates to, the other acknowledges it; a hangup ends the relationship.
-/
namespace Pairwise

/-- The announcement of a new DID. -/
structure Rotate where
  kind : MessageKind := .rotate
  id : String
  did : String
  thread : Option Thread := none
  deriving DecidableEq, Repr

namespace Rotate

def new (id did : String) : Rotate := { id, did }

/-- Reads an announcement; the DID may go by either of two names. -/
def reader : Json.Record Rotate :=
  mk <$> .field "@type" MessageKind.reader <*> .field "@id" .string
    <*> .fieldAlso "to_did" "did" .string <*> Thread.member

def toJson (m : Rotate) : Json :=
  .obj ([("@type", m.kind.toJson), ("@id", .str m.id), ("to_did", .str m.did)]
    ++ Thread.write m.thread)

/-- The thread that the announcement belongs to. -/
def threadId (m : Rotate) : String := Thread.idOf m.id m.thread

end Rotate

/-- What an acknowledgement says. -/
inductive AckStatus where
  | ok
  | pending
  deriving DecidableEq, Repr

namespace AckStatus

def name : AckStatus → String
  | ok => "OK"
  | pending => "PENDING"

def ofName? : String → Option AckStatus
  | "OK" => some .ok
  | "PENDING" => some .pending
  | _ => none

def reader : Json.Reader AckStatus := .choice ofName?

def toJson (s : AckStatus) : Json := .str s.name

end AckStatus

/-- The acknowledgement of a rotation. -/
structure RotateAck where
  kind : MessageKind := .rotateAck
  id : String
  status : AckStatus
  thread : Option Thread := none
  deriving DecidableEq, Repr

namespace RotateAck

def new (id thread : String) (status : AckStatus) : RotateAck where
  id := id
  status := status
  thread := some (.reply thread)

def reader : Json.Record RotateAck :=
  mk <$> .field "@type" MessageKind.reader <*> .field "@id" .string
    <*> .field "status" AckStatus.reader <*> Thread.member

def toJson (m : RotateAck) : Json :=
  .obj ([("@type", m.kind.toJson), ("@id", .str m.id), ("status", m.status.toJson)]
    ++ Thread.write m.thread)

/-- The thread that the acknowledgement belongs to. -/
def threadId (m : RotateAck) : String := Thread.idOf m.id m.thread

end RotateAck

/-- The end of a relationship. -/
structure Hangup where
  kind : MessageKind := .hangup
  id : String
  thread : Option Thread := none
  deriving DecidableEq, Repr

namespace Hangup

def new (id : String) : Hangup := { id }

def reader : Json.Record Hangup :=
  mk <$> .field "@type" MessageKind.reader <*> .field "@id" .string <*> Thread.member

def toJson (m : Hangup) : Json :=
  .obj ([("@type", m.kind.toJson), ("@id", .str m.id)] ++ Thread.write m.thread)

end Hangup

end Pairwise
