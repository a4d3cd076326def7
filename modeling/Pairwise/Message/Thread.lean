import Pairwise.Json.Reader
/-!
# Threads

The decorator that ties messages together: the thread a message belongs to, and the thread that one
grew out of. A message without a thread starts one under its own id.
-/
namespace Pairwise

/-- The thread of a message. -/
structure Thread where
  thid : Option String := none
  pthid : Option String := none
  senderOrder : Option Nat := none
  receivedOrders : Option (List (String × Nat)) := none
  deriving DecidableEq, Repr

namespace Thread

/-- Counters have 64 bits. -/
def countLimit : Nat := UInt64.size - 1

/-- The thread of a reply. -/
def reply (thid : String) : Thread := { thid := some thid }

/-- The thread of a reply that grew out of another. -/
def replyUnder (thid : String) (parent : Option String) : Thread :=
  { thid := some thid, pthid := parent }

def reader : Json.Record Thread :=
  mk <$> .nullable "thid" .string <*> .nullable "pthid" .string
    <*> .nullable "sender_order" (.natUpTo countLimit)
    <*> .nullable "received_orders" (.table (.natUpTo countLimit))

def toJson (t : Thread) : Json :=
  .obj (Json.optional "thid" (t.thid.map .str)
    ++ Json.optional "pthid" (t.pthid.map .str)
    ++ Json.optional "sender_order" (t.senderOrder.map fun n => .int n)
    ++ Json.optional "received_orders"
      (t.receivedOrders.map fun orders => .obj (orders.map fun (name, n) => (name, .int n))))

/-- The field of a message that holds its thread. -/
def member : Json.Record (Option Thread) := .nullable "~thread" reader.read

/-- The members of a message that write its thread. -/
def write (t : Option Thread) : List (String × Json) :=
  Json.optional "~thread" (t.map (·.toJson))

/-- The thread of a message with the given id. -/
def idOf (id : String) (t : Option Thread) : String := (t.bind (·.thid)).getD id

/-- The thread that the thread of a message grew out of. -/
def parentOf (t : Option Thread) : Option String := t.bind (·.pthid)

end Thread

end Pairwise
