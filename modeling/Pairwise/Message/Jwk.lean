import Pairwise.Json.Diagnosis
import Pairwise.Key
/-!
# Keys in signatures

A public key as a JSON object: its curve and its bytes in base 64.
-/
namespace Pairwise

/-- A public key as an object. -/
structure Jwk where
  kty : String
  crv : String
  x : String
  kid : Option String := none
  deriving DecidableEq, Repr

namespace Jwk

/-- The object of a key. -/
def ofKey (k : Key) : Jwk where
  kty := "OKP"
  crv := k.kind.label
  x := Base64Url.encode k.bytes

/-- The kind of key that the object says it is. -/
def kind? (j : Jwk) : Option KeyKind :=
  if j.kty ≠ "OKP" then none
  else if j.crv = "Ed25519" then some .ed25519
  else if j.crv = "X25519" then some .x25519
  else none

/-- The key of an object. -/
def toKey (j : Jwk) : Except Error Key :=
  match j.kind? with
  | none => .error (.unsupportedJwk j.kty j.crv)
  | some kind => do
    let bytes ← (Base64Url.decode j.x).mapError Error.base64
    if bytes.length = Key.length then return ⟨bytes, kind⟩ else .error .jwkLength

def reader : Json.Record Jwk :=
  mk <$> .field "kty" .string <*> .field "crv" .string <*> .field "x" .string
    <*> .optional "kid" .string

/-- What is expected where a key is read. -/
def form : Json.Form :=
  .record "Jwk" [("kty", .text), ("crv", .text), ("x", .text), ("kid", .optionalText)]

def toJson (j : Jwk) : Json :=
  .obj ([("kty", .str j.kty), ("crv", .str j.crv), ("x", .str j.x)]
    ++ Json.optional "kid" (j.kid.map .str))

end Jwk

end Pairwise
