import Pairwise.Key
/-!
# DID documents

A document says which keys belong to a DID and at which services it is reached. Keys are verification
methods of the document, named by references `did#fragment` or `#fragment`; a reference may also be
a `did:key` or a bare key.

`Document.authenticationKeys`, `Document.keyAgreementKeys` and `Document.recipientKeys` are the keys
of a document by purpose, `Document.didcommServices` its services in the order of their priority.
`Document.reader` and `Document.toJson` read and write.
-/
namespace Pairwise

/-- A key of a document, with the text it is given in. -/
structure VerificationMethod where
  id : String
  kind : String
  controller : String
  base58 : Option String := none
  multibase : Option String := none
  deriving DecidableEq, Repr

namespace VerificationMethod

def ed25519Kind : String := "Ed25519VerificationKey2018"
def x25519Kind : String := "X25519KeyAgreementKey2019"

/-- The kinds whose key is given as a fingerprint. -/
def fingerprintKinds : List String :=
  ["Ed25519VerificationKey2020", "X25519KeyAgreementKey2020", "Multikey"]

/-- The method of a key. -/
def ofKey (id controller : String) (key : Key) : VerificationMethod where
  id := id
  kind := match key.kind with
    | .ed25519 => ed25519Kind
    | .x25519 => x25519Kind
  controller := controller
  base58 := some key.base58

/-- The key of a method: by its kind in base 58, or as a fingerprint of either kind of key. -/
def toKey (m : VerificationMethod) : Except Error Key :=
  let unsupported : Except Error Key := .error (.methodWithoutKey m.id m.kind)
  if m.kind = ed25519Kind then
    match m.base58 with
    | some text => Key.ofBase58 text .ed25519
    | none => unsupported
  else if m.kind = x25519Kind then
    match m.base58 with
    | some text => Key.ofBase58 text .x25519
    | none => unsupported
  else if fingerprintKinds.contains m.kind then
    match m.multibase with
    | some text => Key.ofFingerprint text
    | none => unsupported
  else unsupported

def reader : Json.Record VerificationMethod :=
  mk <$> .field "id" .string <*> .field "type" .string <*> .field "controller" .string
    <*> .nullable "publicKeyBase58" .string <*> .nullable "publicKeyMultibase" .string

def toJson (m : VerificationMethod) : Json :=
  .obj ([("id", .str m.id), ("type", .str m.kind), ("controller", .str m.controller)]
    ++ Json.optional "publicKeyBase58" (m.base58.map .str)
    ++ Json.optional "publicKeyMultibase" (m.multibase.map .str))

end VerificationMethod

/-- An entry of a list of keys by purpose: a reference to a method of the document, or a method of
its own. -/
inductive MethodRef where
  | reference (id : String)
  | embedded (m : VerificationMethod)
  deriving DecidableEq, Repr

namespace MethodRef

def reader : Json.Reader MethodRef :=
  .orElse (fun s => reference <$> Json.Reader.string s)
    (fun s => embedded <$> VerificationMethod.reader.read s)

def toJson : MethodRef → Json
  | .reference id => .str id
  | .embedded m => m.toJson

end MethodRef

/-- A service at which a DID is reached. -/
structure Service where
  id : String
  kind : String
  priority : Nat
  recipientKeys : List String
  routingKeys : List String
  endpoint : String
  accept : List String
  deriving DecidableEq, Repr

namespace Service

def didcommKind : String := "did-communication"
def indyKind : String := "IndyAgent"

/-- The profile that new services accept. -/
def defaultAccept : String := "didcomm/aip2;env=rfc19"

/-- A service for messages between agents. -/
def didcomm (id endpoint : String) (recipientKeys routingKeys : List String) : Service where
  id := id
  kind := didcommKind
  priority := 0
  recipientKeys := recipientKeys
  routingKeys := routingKeys
  endpoint := endpoint
  accept := [defaultAccept]

/-- Whether messages between agents are sent to the service. -/
def isDidcomm (s : Service) : Bool := s.kind = didcommKind || s.kind = indyKind

/-- The greatest priority. -/
def priorityLimit : Nat := UInt32.size - 1

def reader : Json.Record Service :=
  mk <$> .field "id" .string <*> .field "type" .string
    <*> .withDefault "priority" (.natUpTo priorityLimit) 0
    <*> .withDefault "recipientKeys" (.list .string) []
    <*> .withDefault "routingKeys" (.list .string) []
    <*> .withDefault "serviceEndpoint" .string ""
    <*> .withDefault "accept" (.list .string) []

def toJson (s : Service) : Json :=
  .obj ([("id", .str s.id), ("type", .str s.kind), ("priority", .int s.priority),
      ("recipientKeys", Json.strings s.recipientKeys)]
    ++ Json.unlessEmpty "routingKeys" (s.routingKeys.map .str)
    ++ [("serviceEndpoint", .str s.endpoint)]
    ++ Json.unlessEmpty "accept" (s.accept.map .str))

end Service

/-- A DID document. -/
structure Document where
  context : List String := []
  id : String := ""
  alsoKnownAs : List String := []
  verificationMethod : List VerificationMethod := []
  authentication : List MethodRef := []
  assertionMethod : List MethodRef := []
  keyAgreement : List MethodRef := []
  service : List Service := []
  deriving DecidableEq, Repr

/-- The prefix of keys written as DIDs. -/
def Did.keyScheme : String := "did:key:"

namespace Did

/-- The key of a `did:key`; what follows a `#` does not count. -/
def key (did : String) : Except Error Key :=
  match Text.after? keyScheme did with
  | none => .error (.malformedDid did)
  | some identifier =>
    (Key.ofFingerprint (Text.before '#' identifier)).mapError fun _ => .malformedDid did

end Did

namespace Document

/-- The context of new documents. -/
def defaultContext : String := "https://w3id.org/did/v1"

/-- A document without keys and services. -/
def new (id : String) : Document where
  context := [defaultContext]
  id := id

/-- The names of the document: its DID and those it is also known as, the empty ones apart. -/
def names (d : Document) : List String := (d.id :: d.alsoKnownAs).filter (· ≠ "")

/-- The part of a reference from its `#` on, if one of the names stands in front of it. -/
def relative (d : Document) (reference : String) : String :=
  let fragment (name : String) : Option String :=
    match Text.after? name reference with
    | some rest => if Text.startsWith "#" rest then some rest else none
    | none => none
  (d.names.findSome? fragment).getD reference

/-- The method that a reference names. -/
def method (d : Document) (reference : String) : Except Error VerificationMethod :=
  match d.verificationMethod.find? fun m => d.relative m.id = d.relative reference with
  | some m => .ok m
  | none => .error (.keyNotFound s!"verification method '{reference}' in document '{d.id}'")

/-- The key that a reference names: a `did:key`, a method of the document, or a bare signing
key. -/
def dereference (d : Document) (reference : String) : Except Error Key :=
  if Text.startsWith Did.keyScheme reference then Did.key reference
  else if reference.toList.contains '#' then do (← d.method reference).toKey
  else Key.ofBase58 reference .ed25519

/-- The key of an entry. -/
def entryKey (d : Document) : MethodRef → Except Error Key
  | .reference id => do (← d.method id).toKey
  | .embedded m => m.toKey

/-- The keys for signatures in the name of the DID. -/
def authenticationKeys (d : Document) : Except Error (List Key) :=
  d.authentication.mapM d.entryKey

/-- The keys for key agreement. -/
def keyAgreementKeys (d : Document) : Except Error (List Key) :=
  d.keyAgreement.mapM d.entryKey

/-- The services for messages between agents, the lowest priority number first; among equals the
order of the document stays. -/
def didcommServices (d : Document) : List Service :=
  (d.service.filter (·.isDidcomm)).mergeSort fun a b => a.priority ≤ b.priority

/-- The keys that messages to a service are enciphered for. -/
def serviceRecipientKeys (d : Document) (s : Service) : Except Error (List Key) :=
  s.recipientKeys.mapM d.dereference

/-- The keys of the mediators in front of a service. -/
def serviceRoutingKeys (d : Document) (s : Service) : Except Error (List Key) :=
  s.routingKeys.mapM d.dereference

/-- Adds the items of a list that are not there yet. -/
def addNew {α : Type} [BEq α] (seen : List α) (items : List α) : List α :=
  items.foldl (fun seen a => if seen.contains a then seen else seen ++ [a]) seen

/-- The recipient keys of all services, each once. -/
def recipientKeys (d : Document) : Except Error (List Key) := do
  let keys ← d.didcommServices.mapM d.serviceRecipientKeys
  return addNew [] keys.flatten

/-- The fingerprints of the recipient keys. -/
def recipientFingerprints (d : Document) : Except Error (List String) := do
  return (← d.recipientKeys).map (·.fingerprint)

def reader : Json.Record Document :=
  mk <$> .withDefault "@context" (.list .string) []
    <*> .withDefault "id" .string ""
    <*> .withDefault "alsoKnownAs" (.list .string) []
    <*> .withDefault "verificationMethod" (.list VerificationMethod.reader.read) []
    <*> .withDefault "authentication" (.list MethodRef.reader) []
    <*> .withDefault "assertionMethod" (.list MethodRef.reader) []
    <*> .withDefault "keyAgreement" (.list MethodRef.reader) []
    <*> .withDefault "service" (.list Service.reader.read) []

def toJson (d : Document) : Json :=
  .obj (Json.unlessEmpty "@context" (d.context.map .str)
    ++ (if d.id = "" then [] else [("id", .str d.id)])
    ++ Json.unlessEmpty "alsoKnownAs" (d.alsoKnownAs.map .str)
    ++ Json.unlessEmpty "verificationMethod" (d.verificationMethod.map (·.toJson))
    ++ Json.unlessEmpty "authentication" (d.authentication.map (·.toJson))
    ++ Json.unlessEmpty "assertionMethod" (d.assertionMethod.map (·.toJson))
    ++ Json.unlessEmpty "keyAgreement" (d.keyAgreement.map (·.toJson))
    ++ Json.unlessEmpty "service" (d.service.map (·.toJson)))

end Document

end Pairwise
