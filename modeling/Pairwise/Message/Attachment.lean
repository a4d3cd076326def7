import Pairwise.Message.Jws
/-!
# Attachments

Content that travels with a message, in base 64 or as JSON, and its signatures.
-/
namespace Pairwise

/-- The content of an attachment. -/
structure AttachmentData where
  jws : Option Jws := none
  sha256 : Option String := none
  links : List String := []
  base64 : Option String := none
  json : Option Json := none

namespace AttachmentData

def reader : Json.Record AttachmentData :=
  mk <$> .optional "jws" Jws.reader <*> .optional "sha256" .string
    <*> .withDefault "links" (.list .string) [] <*> .optional "base64" .string
    <*> .optional "json" .json

def toJson (d : AttachmentData) : Json :=
  .obj (Json.optional "jws" (d.jws.map (·.toJson))
    ++ Json.optional "sha256" (d.sha256.map .str)
    ++ Json.unlessEmpty "links" (d.links.map .str)
    ++ Json.optional "base64" (d.base64.map .str)
    ++ Json.optional "json" d.json)

end AttachmentData

/-- An attachment. -/
structure Attachment where
  id : Option String := none
  description : Option String := none
  filename : Option String := none
  mimeType : Option String := none
  lastmodTime : Option String := none
  byteCount : Option Nat := none
  data : AttachmentData

namespace Attachment

/-- An attachment of JSON in base 64. -/
def ofBase64 (id base64 : String) (jws : Option Jws) : Attachment where
  id := some id
  mimeType := some "application/json"
  data := { jws, base64 := some base64 }

/-- The bytes of the content; base 64 goes before JSON. -/
def content (a : Attachment) : Except Error Bytes :=
  match a.data.base64, a.data.json with
  | some text, _ => (Base64Url.decode text).mapError Error.base64
  | none, some v => .ok v.bytes
  | none, none => .error .noContent

def reader : Json.Record Attachment :=
  mk <$> .optional "@id" .string <*> .optional "description" .string
    <*> .optional "filename" .string <*> .optional "mime-type" .string
    <*> .optional "lastmod_time" .string
    <*> .optional "byte_count" (.natUpTo (UInt64.size - 1))
    <*> .field "data" AttachmentData.reader.read

def toJson (a : Attachment) : Json :=
  .obj (Json.optional "@id" (a.id.map .str)
    ++ Json.optional "description" (a.description.map .str)
    ++ Json.optional "filename" (a.filename.map .str)
    ++ Json.optional "mime-type" (a.mimeType.map .str)
    ++ Json.optional "lastmod_time" (a.lastmodTime.map .str)
    ++ Json.optional "byte_count" (a.byteCount.map fun n => .int n)
    ++ [("data", a.data.toJson)])

end Attachment

end Pairwise
