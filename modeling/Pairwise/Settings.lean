import Pairwise.Did.Peer
/-!
# Settings of an agent

How an agent names itself, where it is reached, which form its DIDs take, and what it does on its
own.
-/
namespace Pairwise

/-- The settings of an agent. -/
structure Settings where
  label : String := "didcomm-exchange agent"
  endpoints : List String := ["didcomm:transport/queue"]
  /-- The form of DIDs made for an exchange. -/
  exchangeForm : PeerForm := .genesisHash
  /-- The form of DIDs made for a rotation. -/
  rotationForm : PeerForm := .hashAndDocument
  autoAccept : Bool := false
  /-- No rotation while another one waits; otherwise the newer one takes its place. -/
  strictRotation : Bool := false
  deriving DecidableEq, Repr

namespace Settings

def reader : Json.Record Settings :=
  let default : Settings := {}
  mk <$> .withDefault "label" .string default.label
    <*> .withDefault "endpoints" (.list .string) default.endpoints
    <*> .withDefault "peerNumAlgoForDidExchangeRequests" PeerForm.reader default.exchangeForm
    <*> .withDefault "peerNumAlgoForDidRotation" PeerForm.reader default.rotationForm
    <*> .withDefault "autoAcceptConnections" .bool default.autoAccept
    <*> .withDefault "strictRotation" .bool default.strictRotation

def toJson (s : Settings) : Json :=
  .obj [("label", .str s.label), ("endpoints", Json.strings s.endpoints),
    ("peerNumAlgoForDidExchangeRequests", s.exchangeForm.toJson),
    ("peerNumAlgoForDidRotation", s.rotationForm.toJson),
    ("autoAcceptConnections", .bool s.autoAccept), ("strictRotation", .bool s.strictRotation)]

/-- Reads settings from a text. -/
def ofText (text : String) : Except Error Settings :=
  Error.ofJson (Json.Reader.ofText reader.read text)

end Settings

end Pairwise
