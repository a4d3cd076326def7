import Pairwise.Did.Key
/-!
# Peer DIDs

DIDs that two agents make for one another, in three forms: a key (form 0), the hash of a document
(form 1), and the hash of a document with the document itself behind it (form 4), whose short form
is the hash alone.

`PeerDid.ofKey` and `PeerDid.ofDocument` make them, `PeerDid.ofDid` reads one, and
`PeerDid.ofDidWithDocument` joins a DID that does not tell its document to one that came by another
way.
-/
namespace Pairwise

/-- The forms of peer DIDs. -/
inductive PeerForm where
  /-- A key, from which the document follows. -/
  | inceptionKey
  /-- The hash of a document that comes by another way. -/
  | genesisHash
  /-- The hash of a document, alone or with the document behind it. -/
  | hashAndDocument
  deriving DecidableEq, Repr, Inhabited

namespace PeerForm

/-- The number of a form in DIDs and settings. -/
def number : PeerForm → Nat
  | .inceptionKey => 0
  | .genesisHash => 1
  | .hashAndDocument => 4

def ofNumber? : Nat → Option PeerForm
  | 0 => some .inceptionKey
  | 1 => some .genesisHash
  | 4 => some .hashAndDocument
  | _ => none

def reader : Json.Reader PeerForm := .refine (.natUpTo 255) ofNumber?

def toJson (f : PeerForm) : Json := .int f.number

end PeerForm

/-- A peer DID with its document, where it is known. -/
structure PeerDid where
  did : String
  document : Option Document
  deriving DecidableEq, Repr

namespace PeerDid

def scheme : String := "did:peer:"

/-! ## The form of the identifier -/

/-- Digits of base 58. -/
def isDigit (c : Char) : Bool := Base58.alphabet.contains c

/-- The identifier of form 0 or 1: `z` and 5 to 200 digits. -/
def isShortBody : List Char → Bool
  | 'z' :: digits => 5 ≤ digits.length && digits.length ≤ 200 && digits.all isDigit
  | _ => false

/-- The identifier of form 4: `z` and 46 digits, and after a colon, if there is one, `z` and at
least 6 digits. -/
def isHashBody : List Char → Bool
  | 'z' :: rest =>
    let hash := rest.take 46
    hash.length == 46 && hash.all isDigit &&
      match rest.drop 46 with
      | [] => true
      | ':' :: 'z' :: digits => 6 ≤ digits.length && digits.all isDigit
      | _ => false
  | _ => false

/-- The form and the identifier of a well-formed peer DID. -/
def parts? (did : String) : Option (PeerForm × List Char) := do
  let rest ← Text.after? scheme did
  match rest.toList with
  | '0' :: body => if isShortBody body then some (.inceptionKey, body) else none
  | '1' :: body => if isShortBody body then some (.genesisHash, body) else none
  | '4' :: body => if isHashBody body then some (.hashAndDocument, body) else none
  | _ => none

/-- Whether a text has the form of a peer DID. -/
def isValid (did : String) : Bool := (parts? did).isSome

/-- The form of a peer DID. -/
def form (did : String) : Except Error PeerForm :=
  match parts? did with
  | some (form, _) => .ok form
  | none => .error (.malformedDid did)

/-- What stands in front of the hash of form 4. -/
def hashScheme : String := scheme ++ "4"

/-- The hash and the encoded document of a DID of form 4 with its document. -/
def longParts? (did : String) : Option (String × String) := do
  Text.splitFirst? ':' (← Text.after? hashScheme did)

/-- Whether the document follows from the DID alone. -/
def isDerivable (did : String) : Bool :=
  match form did with
  | .ok .inceptionKey => true
  | .ok .hashAndDocument => (longParts? did).isSome
  | _ => false

/-! ## Making -/

/-- The document without what names it. -/
def stripped (d : Document) : Document := { d with id := "", alsoKnownAs := [] }

/-- The hash of a text in base 58. -/
def hashText (text : Bytes) : String := Multibase.encode (Multihash.ofText text)

/-- The document as a text in base 58. -/
def encodeDocument (d : Document) : String :=
  Multibase.encode (Multicodec.tag Multicodec.json d.toJson.canonicalBytes)

/-- Form 0, of a key. -/
def ofKey [Suite] (key : Key) : Except Error PeerDid := do
  let did := scheme ++ "0" ++ key.fingerprint
  return ⟨did, some (← key.document did)⟩

/-- Form 1, of a document. -/
def ofGenesis (document : Document) : PeerDid :=
  let d := stripped document
  let did := scheme ++ "1" ++ hashText d.toJson.canonicalBytes
  ⟨did, some { d with id := did }⟩

/-- Form 4 with the document behind the hash. -/
def ofHashAndDocument (document : Document) : PeerDid :=
  let d := stripped document
  let encoded := encodeDocument d
  let short := hashScheme ++ hashText (Utf8.ofString encoded)
  let did := short ++ ":" ++ encoded
  ⟨did, some { d with id := did, alsoKnownAs := [short] }⟩

/-- The peer DID of a document in a form; form 0 takes the first authentication key. -/
def ofDocument [Suite] (document : Document) : PeerForm → Except Error PeerDid
  | .inceptionKey => do
    match ← document.authenticationKeys with
    | key :: _ => ofKey key
    | [] => .error (.keyNotFound "no authentication key for did:peer:0")
  | .genesisHash => return ofGenesis document
  | .hashAndDocument => return ofHashAndDocument document

/-! ## Reading -/

/-- The document that an encoded text holds, if the hash in front of it is its own. -/
def decodeDocument? (hash encoded : String) : Option Document :=
  if hashText (Utf8.ofString encoded) ≠ hash then none
  else
    match Multibase.decode encoded with
    | .error _ => none
    | .ok bytes =>
      match Multicodec.split bytes with
      | .error _ => none
      | .ok (code, json) =>
        if code ≠ Multicodec.json then none
        else (Json.Reader.ofBytes Document.reader.read json).toOption

/-- Reads a peer DID, with its document where the identifier tells it. -/
def ofDid [Suite] (did : String) : Except Error PeerDid :=
  match parts? did with
  | none => .error (.malformedDid did)
  | some (.inceptionKey, body) =>
    match Key.ofFingerprint (String.ofList body) with
    | .error _ => .error (.malformedDid did)
    | .ok key => do
      let peer ← ofKey key
      if peer.did = did then return peer else .error (.malformedDid did)
  | some (.genesisHash, body) =>
    match Multibase.decode (String.ofList body) with
    | .error _ => .error (.malformedDid did)
    | .ok bytes =>
      match Multihash.decode bytes with
      | .error _ => .error (.malformedDid did)
      | .ok _ => .ok ⟨did, none⟩
  | some (.hashAndDocument, _) =>
    match longParts? did with
    | none => .ok ⟨did, none⟩
    | some (hash, encoded) =>
      match decodeDocument? hash encoded with
      | none => .error (.malformedDid did)
      | some d => .ok ⟨did, some { d with id := did, alsoKnownAs := [hashScheme ++ hash] }⟩

/-- The short form of a DID of form 4. -/
def shortForm? (p : PeerDid) : Option String :=
  match longParts? p.did with
  | some (hash, _) => some (hashScheme ++ hash)
  | none => if Text.startsWith hashScheme p.did then some p.did else none

/-- The other DIDs of the same document. -/
def alternatives (p : PeerDid) : List String :=
  match longParts? p.did with
  | some (hash, _) => [hashScheme ++ hash]
  | none => []

/-- Joins a DID to a document that came by another way, if they belong together. A DID that tells
its document keeps its own. -/
def ofDidWithDocument [Suite] (did : String) (document : Document) : Except Error PeerDid := do
  let peer ← ofDid did
  if peer.document.isSome then return peer
  else
    let expected ← ofDocument document (← form peer.did)
    if expected.shortForm?.getD expected.did = did then return expected
    else .error (.malformedDid (did ++ " does not match the supplied document"))

end PeerDid

end Pairwise
