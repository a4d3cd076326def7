import Pairwise.Connection.Metadata
import Pairwise.Message.Invitation
import Pairwise.Store
import Pairwise.Timestamp
/-!
# Connections

All that an agent knows of one relationship: its role and state in the exchange, the DIDs of both
sides now and before, the invitation it grew out of, and notes and tags of its own.
-/
namespace Pairwise

/-- A connection as an agent keeps it. -/
structure Connection where
  id : String
  createdAt : Timestamp
  role : ExchangeRole
  state : ExchangeState
  did : Option String := none
  theirDid : Option String := none
  theirLabel : Option String := none
  /-- The key used during the exchange, in base 58. -/
  verkey : Option String := none
  invitation : Option Invitation := none
  threadId : Option String := none
  mediatorId : Option String := none
  previousDids : List String := []
  previousTheirDids : List String := []
  multiUse : Bool := false
  autoAccept : Option Bool := none
  metadata : Metadata := {}
  customTags : Tags := []
  version : UInt64 := 0

namespace Connection

def isRequester (c : Connection) : Bool := c.role = .requester

/-- Whether the exchange is completed and both sides are known. -/
def isReady (c : Connection) : Bool :=
  c.state = .completed && c.did.isSome && c.theirDid.isSome

def invitationId (c : Connection) : Option String := c.invitation.map (·.id)

/-- The first recipient key of the invitation. -/
def invitationKey (c : Connection) : Option String := c.invitation.bind (·.recipientKeys.head?)

/-- Accepts a connection in one of the states. -/
def assertState (c : Connection) (expected : List ExchangeState) : Except Error Unit :=
  if expected.contains c.state then .ok () else .error (.unexpectedState c.id c.state expected)

/-- The counterparty's DID, which must be known. -/
def requireTheirDid (c : Connection) : Except Error String :=
  match c.theirDid with
  | some did => .ok did
  | none => .error (.noTheirDid c.id)

/-- The agent's own DID, which must be there. -/
def requireDid (c : Connection) : Except Error String :=
  match c.did with
  | some did => .ok did
  | none => .error (.noOwnDid c.id)

/-- The rotation that waits, if there is one. -/
def pendingRotation (c : Connection) : Except Error (Option PendingRotation) :=
  c.metadata.read PendingRotation.key PendingRotation.reader.read

/-- Appends unless it is there. -/
def remember (did : Option String) (dids : List String) : List String :=
  match did with
  | some did => if dids.contains did then dids else dids ++ [did]
  | none => dids

/-- The tags of a connection: those of its own making, and over them the ones its fields give. -/
def tags (c : Connection) : Tags :=
  let tags := (c.customTags.set "state" (.str c.state.name)).set "role" (.str c.role.name)
  let tags := tags.setSome "threadId" c.threadId
  let tags := tags.setSome "did" c.did
  let tags := tags.setSome "theirDid" c.theirDid
  let tags := tags.setSome "invitationId" c.invitationId
  let tags := tags.setSome "invitationKey" c.invitationKey
  let tags := tags.setSome "mediatorId" c.mediatorId
  (tags.set "previousDids" (.list c.previousDids)).set "previousTheirDids"
    (.list c.previousTheirDids)

instance : Storable Connection where
  name := "ConnectionRecord"
  id := id
  version := version
  setVersion n c := { c with version := n }
  tags := tags

def reader : Json.Record Connection :=
  mk <$> .field "id" .string <*> .field "createdAt" Timestamp.reader
    <*> .field "role" ExchangeRole.reader <*> .field "state" ExchangeState.reader
    <*> .optional "did" .string <*> .optional "theirDid" .string
    <*> .optional "theirLabel" .string <*> .optional "verkey" .string
    <*> .optional "invitation" Invitation.reader.read
    <*> .optional "threadId" .string <*> .optional "mediatorId" .string
    <*> .withDefault "previousDids" (.list .string) []
    <*> .withDefault "previousTheirDids" (.list .string) []
    <*> .withDefault "multiUseInvitation" .bool false
    <*> .optional "autoAcceptConnection" .bool
    <*> .withDefault "metadata" Metadata.reader {}
    <*> .withDefault "customTags" Tags.reader []
    <*> .withDefault "version" .word 0

def toJson (c : Connection) : Json :=
  let text := Json.ofOption Json.str
  .obj [("id", .str c.id), ("createdAt", c.createdAt.toJson), ("role", c.role.toJson),
    ("state", c.state.toJson), ("did", text c.did), ("theirDid", text c.theirDid),
    ("theirLabel", text c.theirLabel), ("verkey", text c.verkey),
    ("invitation", Json.ofOption (·.toJson) c.invitation),
    ("threadId", text c.threadId), ("mediatorId", text c.mediatorId),
    ("previousDids", Json.strings c.previousDids),
    ("previousTheirDids", Json.strings c.previousTheirDids),
    ("multiUseInvitation", .bool c.multiUse),
    ("autoAcceptConnection", Json.ofOption .bool c.autoAccept),
    ("metadata", c.metadata.toJson), ("customTags", c.customTags.toJson),
    ("version", .int c.version.toNat)]

end Connection

end Pairwise
