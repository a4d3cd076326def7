import Pairwise.Message.Kind
/-!
# Envelopes

An envelope is an enciphered message: one ciphertext, and for every recipient the content key
enciphered for its key. A forward message carries an envelope to a mediator, who passes it on.
-/
namespace Pairwise

/-- What is authenticated with the content. -/
structure EnvelopeHeader where
  typ : String
  enc : String
  alg : String
  deriving DecidableEq, Repr

namespace EnvelopeHeader

def reader : Json.Record EnvelopeHeader :=
  mk <$> .field "typ" .string <*> .field "enc" .string <*> .field "alg" .string

def toJson (h : EnvelopeHeader) : Json :=
  .obj [("typ", .str h.typ), ("enc", .str h.enc), ("alg", .str h.alg)]

end EnvelopeHeader

/-- How the content key is enciphered for a recipient. Keys are in base 58, all else in base 64. -/
structure RecipientHeader where
  kid : String
  sender : Option String
  alg : String
  epk : String
  iv : String
  tag : String
  deriving DecidableEq, Repr

namespace RecipientHeader

def reader : Json.Record RecipientHeader :=
  mk <$> .field "kid" .string <*> .nullable "sender" .string <*> .field "alg" .string
    <*> .field "epk" .string <*> .field "iv" .string <*> .field "tag" .string

def toJson (h : RecipientHeader) : Json :=
  .obj ([("kid", .str h.kid)] ++ Json.optional "sender" (h.sender.map .str)
    ++ [("alg", .str h.alg), ("epk", .str h.epk), ("iv", .str h.iv), ("tag", .str h.tag)])

end RecipientHeader

/-- The content key for a recipient. -/
structure Recipient where
  encryptedKey : String
  header : RecipientHeader
  deriving DecidableEq, Repr

namespace Recipient

def reader : Json.Record Recipient :=
  mk <$> .field "encrypted_key" .string <*> .field "header" RecipientHeader.reader.read

def toJson (r : Recipient) : Json :=
  .obj [("encrypted_key", .str r.encryptedKey), ("header", r.header.toJson)]

end Recipient

/-- An enciphered message. -/
structure Envelope where
  header : String
  recipients : List Recipient
  iv : String
  ciphertext : String
  tag : String
  deriving DecidableEq, Repr

namespace Envelope

/-- The keys that the envelope is addressed to. -/
def kids (e : Envelope) : List String := e.recipients.map (·.header.kid)

def reader : Json.Record Envelope :=
  mk <$> .field "protected" .string <*> .field "recipients" (.list Recipient.reader.read)
    <*> .field "iv" .string <*> .field "ciphertext" .string <*> .field "tag" .string

def toJson (e : Envelope) : Json :=
  .obj [("protected", .str e.header), ("recipients", .arr (e.recipients.map (·.toJson))),
    ("iv", .str e.iv), ("ciphertext", .str e.ciphertext), ("tag", .str e.tag)]

end Envelope

/-- An envelope on its way to the key it is for. -/
structure Forward where
  kind : MessageKind := .forward
  id : String
  target : String
  msg : Envelope
  deriving DecidableEq, Repr

namespace Forward

def reader : Json.Record Forward :=
  mk <$> .field "@type" MessageKind.reader <*> .field "@id" .string <*> .field "to" .string
    <*> .field "msg" Envelope.reader.read

def toJson (m : Forward) : Json :=
  .obj [("@type", m.kind.toJson), ("@id", .str m.id), ("to", .str m.target), ("msg", m.msg.toJson)]

end Forward

end Pairwise
