import Pairwise.Json.Reader
import Pairwise.Text.Split
/-!
# Kinds of messages

Every message names its kind by a URI `family/version/name`. The version is not compared: a kind is
told by its family and its name.

Results:
* `MessageKind.ofUri?_uri`: a kind is read back from the URI it is written with.
-/
namespace Pairwise

/-- The kinds of messages agents exchange. -/
inductive MessageKind where
  | invitation
  | exchangeRequest
  | exchangeResponse
  | exchangeComplete
  | exchangeProblem
  | rotate
  | rotateAck
  | hangup
  | rotateProblem
  | forward
  deriving DecidableEq, Repr, Inhabited

namespace MessageKind

/-- All kinds. -/
def all : List MessageKind :=
  [.invitation, .exchangeRequest, .exchangeResponse, .exchangeComplete, .exchangeProblem, .rotate,
    .rotateAck, .hangup, .rotateProblem, .forward]

/-- The part of the URI before the version. -/
def family : MessageKind → String
  | .invitation => "https://didcomm.org/connections"
  | .exchangeRequest | .exchangeResponse | .exchangeComplete | .exchangeProblem =>
    "https://didcomm.org/didexchange"
  | .rotate | .rotateAck | .hangup | .rotateProblem => "https://didcomm.org/did-rotate"
  | .forward => "https://didcomm.org/routing"

/-- The version that is written. -/
def version : MessageKind → String
  | .exchangeRequest | .exchangeResponse | .exchangeComplete | .exchangeProblem => "1.1"
  | _ => "1.0"

/-- The part of the URI after the version. -/
def name : MessageKind → String
  | .invitation => "invitation"
  | .exchangeRequest => "request"
  | .exchangeResponse => "response"
  | .exchangeComplete => "complete"
  | .exchangeProblem | .rotateProblem => "problem-report"
  | .rotate => "rotate"
  | .rotateAck => "ack"
  | .hangup => "hangup"
  | .forward => "forward"

/-- The URI of a kind. -/
def uri (k : MessageKind) : String := k.family ++ "/" ++ k.version ++ "/" ++ k.name

/-- The kind of a family and a name. -/
def ofParts? (family name : String) : Option MessageKind :=
  all.find? fun k => k.name = name && k.family = family

/-- The kind of a URI: the last part is the name, the part before it is passed over, and the rest is
the family; with two parts only, the first is the family. -/
def ofUri? (uri : String) : Option MessageKind := do
  let (front, name) ← Text.splitLast? '/' uri
  let family := match Text.splitLast? '/' front with
    | some (family, _) => family
    | none => front
  ofParts? family name

theorem ofUri?_uri (k : MessageKind) : ofUri? k.uri = some k := by
  cases k <;> decide +kernel

/-- The value of a kind. -/
def toJson (k : MessageKind) : Json := .str k.uri

/-- Reads a kind from its URI. -/
def reader : Json.Reader MessageKind := Json.Reader.refine Json.Reader.string ofUri?

end MessageKind

end Pairwise
