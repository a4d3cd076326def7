import Pairwise.Error
/-!
# Notes on a connection

Values that protocols attach to a connection by name. The rotation keeps here the DID that waits for
the counterparty's acknowledgement.
-/
namespace Pairwise

/-- Values by name, sorted. -/
structure Metadata where
  values : List (String × Json) := []

namespace Metadata

def get? (m : Metadata) (key : String) : Option Json := m.values.lookup key

/-- The value under a key, read. -/
def read {α : Type} (m : Metadata) (key : String) (reader : Json.Reader α) :
    Except Error (Option α) :=
  match m.get? key with
  | none => .ok none
  | some v => Error.ofJson (some <$> Json.Reader.ofJson reader v)

def set (m : Metadata) (key : String) (v : Json) : Metadata :=
  ⟨Json.putMember key v.sorted m.values⟩

def delete (m : Metadata) (key : String) : Metadata :=
  ⟨m.values.filter fun (name, _) => name ≠ key⟩

def contains (m : Metadata) (key : String) : Bool := (m.get? key).isSome

def reader : Json.Reader Metadata := fun s => mk <$> Json.Reader.table Json.Reader.json s

def toJson (m : Metadata) : Json := .obj m.values

end Metadata

/-- A rotation that waits for its acknowledgement. -/
structure PendingRotation where
  threadId : String
  did : String
  mediatorId : Option String := none
  deriving DecidableEq, Repr

namespace PendingRotation

/-- The name under which a connection notes its pending rotation. -/
def key : String := "_internal/didRotate"

def reader : Json.Record PendingRotation :=
  mk <$> .field "threadId" .string <*> .field "did" .string <*> .nullable "mediatorId" .string

def toJson (r : PendingRotation) : Json :=
  .obj ([("threadId", .str r.threadId), ("did", .str r.did)]
    ++ Json.optional "mediatorId" (r.mediatorId.map .str))

end PendingRotation

end Pairwise
