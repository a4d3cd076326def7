import Pairwise.Json.Reader
/-!
# Roles and states of an exchange

The two sides of an exchange of DIDs and the states a connection goes through.

Results:
* `ExchangeState.ofName?_name`, `ExchangeRole.ofName?_name`: names are read back.
-/
namespace Pairwise

/-- The side of a connection: who answers an invitation, and who made it. -/
inductive ExchangeRole where
  | requester
  | responder
  deriving DecidableEq, Repr, Inhabited

namespace ExchangeRole

def name : ExchangeRole → String
  | .requester => "requester"
  | .responder => "responder"

def ofName? : String → Option ExchangeRole
  | "requester" => some .requester
  | "responder" => some .responder
  | _ => none

theorem ofName?_name (r : ExchangeRole) : ofName? r.name = some r := by cases r <;> rfl

def toJson (r : ExchangeRole) : Json := .str r.name

def reader : Json.Reader ExchangeRole := Json.Reader.choice ofName?

end ExchangeRole

/-- The states of an exchange. -/
inductive ExchangeState where
  | start
  | invitationSent
  | invitationReceived
  | requestSent
  | requestReceived
  | responseSent
  | responseReceived
  | abandoned
  | completed
  deriving DecidableEq, Repr, Inhabited

namespace ExchangeState

def all : List ExchangeState :=
  [.start, .invitationSent, .invitationReceived, .requestSent, .requestReceived, .responseSent,
    .responseReceived, .abandoned, .completed]

/-- The name in records and tags. -/
def name : ExchangeState → String
  | .start => "start"
  | .invitationSent => "invitation-sent"
  | .invitationReceived => "invitation-received"
  | .requestSent => "request-sent"
  | .requestReceived => "request-received"
  | .responseSent => "response-sent"
  | .responseReceived => "response-received"
  | .abandoned => "abandoned"
  | .completed => "completed"

/-- The name in error messages. -/
def label : ExchangeState → String
  | .start => "Start"
  | .invitationSent => "InvitationSent"
  | .invitationReceived => "InvitationReceived"
  | .requestSent => "RequestSent"
  | .requestReceived => "RequestReceived"
  | .responseSent => "ResponseSent"
  | .responseReceived => "ResponseReceived"
  | .abandoned => "Abandoned"
  | .completed => "Completed"

def ofName? (s : String) : Option ExchangeState := all.find? fun x => x.name = s

theorem ofName?_name (s : ExchangeState) : ofName? s.name = some s := by
  cases s <;> decide +kernel

/-- No message leads out of these states. -/
def isTerminal : ExchangeState → Bool
  | .abandoned | .completed => true
  | _ => false

def toJson (s : ExchangeState) : Json := .str s.name

def reader : Json.Reader ExchangeState := Json.Reader.choice ofName?

end ExchangeState

end Pairwise
