import Pairwise.Did.Document
import Pairwise.Did.Key
import Pairwise.Message.Jwk
/-!
# Detached signatures

A signature over a payload that stands elsewhere. What is signed is the protected header and the
payload, both in base 64, with a point between them. One signature stands alone, several are listed.
-/
namespace Pairwise

/-- The header that is signed with the payload. -/
structure ProtectedHeader where
  alg : String
  kid : Option String
  jwk : Jwk
  deriving DecidableEq, Repr

namespace ProtectedHeader

def reader : Json.Record ProtectedHeader :=
  mk <$> .field "alg" .string <*> .optional "kid" .string <*> .field "jwk" Jwk.reader.read

/-- What is expected where a header is read. -/
def form : Json.Form :=
  .record "JwsProtectedHeader" [("alg", .text), ("kid", .optionalText), ("jwk", Jwk.form)]

def toJson (h : ProtectedHeader) : Json :=
  .obj ([("alg", .str h.alg)] ++ Json.optional "kid" (h.kid.map .str) ++ [("jwk", h.jwk.toJson)])

end ProtectedHeader

/-- The name of the only algorithm for signatures. -/
def signatureAlgorithm : String := "EdDSA"

/-- Accepts the name of a known algorithm. -/
def checkSignatureAlgorithm (name : String) : Except Error Unit :=
  if name = signatureAlgorithm then .ok ()
  else .error (.invalidSignature s!"unsupported signature algorithm '{name}'")

/-- One signature: the id of its key, and its parts in base 64. -/
structure Signature where
  kid : String
  header : String
  value : String
  deriving DecidableEq, Repr

namespace Signature

/-- The signature of a header; without an id of its own the key is named by its DID. -/
def make (header : ProtectedHeader) (value : Bytes) : Except Error Signature := do
  let kid ← match header.kid with
    | some kid => pure kid
    | none => do pure (← header.jwk.toKey).did
  return ⟨kid, Base64Url.encode header.toJson.bytes, Base64Url.encode value⟩

/-- Reads base 64 that holds the text of a record. -/
def decodeText {α : Type} (read : Json.Reader α) (text : String) : Except Error α := do
  let bytes ← (Base64Url.decode text).mapError Error.base64
  Error.ofJson (Json.Reader.ofBytes read bytes)

/-- The error of a header that cannot be read. -/
def malformed (why : String) : Error := .invalidSignature ("malformed protected header: " ++ why)

/-- The header of a signature. The counterparty is told in words what is wrong with it. -/
def decodeHeader (s : Signature) : Except Error ProtectedHeader := do
  let bytes ← (Base64Url.decode s.header).mapError fun e => malformed (Error.base64 e).message
  (Json.Reader.ofBytes ProtectedHeader.reader.read bytes).mapError fun _ =>
    malformed (ProtectedHeader.form.diagnose bytes)

/-- What is signed, for a payload. -/
def input (s : Signature) (payload : String) : Bytes :=
  Utf8.ofString (s.header ++ "." ++ payload)

/-- Reads the object that holds the id of the key. -/
def kidReader : Json.Record String := id <$> .field "kid" .string

def reader : Json.Record Signature :=
  mk <$> .field "header" kidReader.read <*> .field "protected" .string
    <*> .field "signature" .string

def toJson (s : Signature) : Json :=
  .obj [("header", .obj [("kid", .str s.kid)]), ("protected", .str s.header),
    ("signature", .str s.value)]

end Signature

/-- The signatures of a payload: a list, or one alone. -/
inductive Jws where
  | general (signatures : List Signature)
  | flattened (signature : Signature)
  deriving DecidableEq, Repr

namespace Jws

def signatures : Jws → List Signature
  | general signatures => signatures
  | flattened signature => [signature]

/-- Puts signatures together: one stands alone, several are listed. -/
def ofSignatures : List Signature → Except Error Jws
  | [] => .error (.invalidSignature "no signatures")
  | [s] => .ok (flattened s)
  | signatures => .ok (general signatures)

/-- Reads the listed form. -/
def generalReader : Json.Record Jws :=
  general <$> .field "signatures" (.list Signature.reader.read)

def reader : Json.Reader Jws :=
  .orElse generalReader.read (fun s => flattened <$> Signature.reader.read s)

def toJson : Jws → Json
  | general signatures => .obj [("signatures", .arr (signatures.map (·.toJson)))]
  | flattened signature => signature.toJson

end Jws

end Pairwise
