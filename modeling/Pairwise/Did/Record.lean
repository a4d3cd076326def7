import Pairwise.Did.Peer
import Pairwise.Store
import Pairwise.Timestamp
/-!
# Stored DIDs

A DID with its document as an agent keeps it: its own, or a counterparty's. The fingerprints of the
recipient keys and the other names of the document are kept beside it, to find it by.

`resolve` gives the document of a DID: where the DID tells it, from the DID alone, and otherwise
from the store.
-/
namespace Pairwise

/-- Whose DID it is. -/
inductive DidRole where
  | created
  | received
  deriving DecidableEq, Repr, Inhabited

namespace DidRole

def name : DidRole → String
  | created => "created"
  | received => "received"

def ofName? : String → Option DidRole
  | "created" => some .created
  | "received" => some .received
  | _ => none

def reader : Json.Reader DidRole := .choice ofName?

def toJson (r : DidRole) : Json := .str r.name

end DidRole

/-- A stored DID. -/
structure DidRecord where
  did : String
  role : DidRole
  document : Option Document
  createdAt : Timestamp
  fingerprints : List String
  alternatives : List String
  version : UInt64 := 0
  deriving DecidableEq, Repr

namespace DidRecord

/-- The record of a document, found by its recipient keys. -/
def new (did : String) (role : DidRole) (document : Document) (alternatives : List String)
    (now : Timestamp) : Except Error DidRecord := do
  return { did, role, document := some document, createdAt := now,
           fingerprints := ← document.recipientFingerprints, alternatives }

/-- The method of a DID: what stands between its first two colons. -/
def method (did : String) : String :=
  match Text.splitFirst? ':' did with
  | some (_, rest) => Text.before ':' rest
  | none => ""

def tags (r : DidRecord) : Tags :=
  [("alternativeDids", .list r.alternatives), ("method", .str (method r.did)),
    ("recipientKeyFingerprints", .list r.fingerprints), ("role", .str r.role.name)]

instance : Storable DidRecord where
  name := "DidRecord"
  id := did
  version := version
  setVersion n r := { r with version := n }
  tags := tags

def reader : Json.Record DidRecord :=
  mk <$> .field "id" .string <*> .field "role" DidRole.reader
    <*> .optional "did_document" Document.reader.read
    <*> .field "created_at" Timestamp.reader
    <*> .field "recipient_key_fingerprints" (.list .string)
    <*> .field "alternative_dids" (.list .string)
    <*> .withDefault "version" .word 0

def toJson (r : DidRecord) : Json :=
  .obj [("id", .str r.did), ("role", r.role.toJson),
    ("did_document", Json.ofOption (·.toJson) r.document),
    ("created_at", r.createdAt.toJson),
    ("recipient_key_fingerprints", Json.strings r.fingerprints),
    ("alternative_dids", Json.strings r.alternatives), ("version", .int r.version.toNat)]

end DidRecord

namespace Did

/-- The stored document of a DID, by its own name or by another name of the document. -/
def stored? (dids : Store DidRecord) (did : String) : Option Document :=
  let record := match dids.find? did with
    | some r => some r
    | none => (dids.query (.on "alternativeDids" did)).head?
  record.bind (·.document)

/-- The document of a DID. -/
def resolve [Suite] (dids : Store DidRecord) (did : String) : Except Error Document :=
  if Text.startsWith keyScheme did then do
    let key ← Did.key did
    key.document key.did
  else if !Text.startsWith PeerDid.scheme did then
    .error (.unresolvedDid (did ++ ": unsupported method"))
  else do
    let peer ← PeerDid.ofDid did
    let document := if PeerDid.isDerivable did then peer.document else stored? dids did
    match document with
    | some d => return d
    | none => .error (.unresolvedDid did)

end Did

end Pairwise
