import Pairwise.Error
/-!
# Transitions of the exchange

Which messages a side may create and process in which state, and the state that follows. Only the
messages of the exchange have transitions; a problem report is for both sides and for every state
that is not terminal.
-/
namespace Pairwise

/-- Whether a message is made or comes in. -/
inductive Direction where
  | create
  | process
  deriving DecidableEq, Repr

/-- What a message does to the state of one side. -/
structure Transition where
  sources : List ExchangeState
  target : ExchangeState
  deriving DecidableEq, Repr

namespace Transition

/-- The states that are not terminal. -/
def openStates : List ExchangeState := ExchangeState.all.filter fun s => !s.isTerminal

/-- The transition of a message for a side. -/
def find? : Direction → MessageKind → ExchangeRole → Option Transition
  | .create, .exchangeRequest, .requester => some ⟨[.start, .invitationReceived], .requestSent⟩
  | .create, .exchangeResponse, .responder => some ⟨[.requestReceived], .responseSent⟩
  | .create, .exchangeComplete, .requester => some ⟨[.responseReceived], .completed⟩
  | .process, .exchangeRequest, .responder => some ⟨[.start, .invitationSent], .requestReceived⟩
  | .process, .exchangeResponse, .requester => some ⟨[.requestSent], .responseReceived⟩
  | .process, .exchangeComplete, .responder => some ⟨[.responseSent], .completed⟩
  | _, .exchangeProblem, _ => some ⟨openStates, .abandoned⟩
  | _, _, _ => none

/-- The state after a message, in a state that admits it. -/
def apply (direction : Direction) (kind : MessageKind) (role : ExchangeRole)
    (state : ExchangeState) : Except Error ExchangeState :=
  match find? direction kind role with
  | some t =>
    if t.sources.contains state then .ok t.target
    else .error (.invalidTransition kind state t.sources)
  | none => .error (.invalidTransition kind state [])

/-- The state after a message that is made or comes in; the role decides which of the two. -/
def next (kind : MessageKind) (role : ExchangeRole) (state : ExchangeState) :
    Except Error ExchangeState :=
  match apply .create kind role state with
  | .ok s => .ok s
  | .error _ => apply .process kind role state

end Transition

end Pairwise
