import Pairwise.Agent.Exchange
import Pairwise.Agent.Rotation
/-!
# Receiving

An envelope is opened, its message is read, its connection found by the key it was sealed for, and
its sender compared with the counterparty of the connection. Then the message is processed. What the
counterparty should know of a failure goes back to it as a problem report.
-/
namespace Pairwise

namespace Agent

variable [Suite] [Chance]

/-! ## The sender -/

/-- Whether a document has a key: one for messages, or one for signatures. -/
def holdsKey (document : Document) (key : Key) : Except Error Bool := do
  if (← document.recipientKeys).contains key then return true
  else return (← document.authenticationKeys).contains key

/-- Whether one of the DIDs has a key; those that cannot be resolved are passed over. -/
def anyHoldsKey (a : Agent) (key : Key) : List String → Except Error Bool
  | [] => return false
  | did :: rest =>
    match a.resolve did with
    | .error _ => anyHoldsKey a key rest
    | .ok document => do
      if ← holdsKey document key then return true else anyHoldsKey a key rest

/-- Messages that come before the counterparty's DID is known. -/
def comesBeforeDid : Message → Bool
  | .request _ | .response _ | .exchangeProblem _ => true
  | _ => false

/-- Accepts a message from the counterparty of its connection, under the DID it has or one it had
before. -/
def checkSender (m : Message) (c : Connection) (sender : Option Key) (a : Agent) :
    Except Error Unit :=
  match c.theirDid, sender with
  | none, _ =>
    if comesBeforeDid m then .ok ()
    else .error (.senderMismatch
      s!"connection {c.id} has no counterparty DID for {m.kind.uri}")
  | some _, none => .error (.senderMismatch s!"anonymous {m.kind.uri} on connection {c.id}")
  | some did, some key => do
    if ← a.anyHoldsKey key (did :: c.previousTheirDids) then return ()
    else .error (.senderMismatch s!"{key.fingerprint} is not a key of {did}")

/-! ## The message -/

/-- Whether an agent answers on a connection by itself. -/
def accepts (c : Connection) (settings : Settings) : Bool := c.autoAccept.getD settings.autoAccept

/-- A routing of its own for everyone who answers an invitation for many. -/
def answerRouting (c : Connection) : Step (Option Routing) := do
  if c.multiUse then return some (← freshRouting none) else return none

/-- Processes a message on its connection, and gives the answer if there is one. -/
def dispatch (m : Message) (c : Connection) : Step (Option Outbound) := do
  let settings ← Step.view (·.settings)
  match m with
  | .request m =>
    let r ← answerRouting c
    let c ← processRequest c m r
    if accepts c settings then
      let (response, c) ← createResponse c r
      return some ⟨.response response, c⟩
    else return none
  | .response m =>
    let c ← processResponse c m
    if accepts c settings then
      let (complete, c) ← createComplete c
      return some ⟨.complete complete, c⟩
    else return none
  | .complete m =>
    let _ ← processComplete c m
    return none
  | .exchangeProblem m =>
    let _ ← processExchangeProblem c m
    return none
  | .rotate m => return some (← processRotate c m)
  | .rotateAck m =>
    let _ ← processRotateAck c m
    return none
  | .hangup m =>
    let _ ← processHangup c m
    return none
  | .rotateProblem m =>
    let _ ← processRotateProblem c m
    return none
  | .forward _ => Step.fail (.unsupportedMessage
      s!"{MessageKind.forward.uri} is only handled by mediators")

/-- The report of a problem with a message. -/
def problemReport (m : Message) (c : Connection) (problem : KnownProblem) (e : Error) :
    Step Outbound := do
  let report : ProblemReport := {
    kind := .exchangeProblem
    id := ← drawId
    description := { Problem.ofKnown problem with en := some e.message }
    thread := some (.reply m.threadId) }
  return ⟨.ofReport report, c⟩

/-- The connection of an opened message. -/
def connectionFor (m : Message) (recipient : Key) (a : Agent) : Except Error Connection := do
  match ← a.connectionOfKey recipient with
  | some c => return c
  | none => .error (.recordNotFound
      s!"connection for {m.kind.uri} addressed to {recipient.fingerprint}")

/-- Processes a message on its connection. What the counterparty should know of a failure is the
answer then. -/
def handle (m : Message) (c : Connection) : Step (Option Outbound) := do
  match ← Step.attempt (dispatch m c) with
  | .ok answer => return answer
  | .error e =>
    match e.problem? m.kind with
    | some problem => return some (← problemReport m c problem e)
    | none => Step.fail e

/-- Receives an envelope, and gives the answer to its message if there is one. -/
def receive (e : Envelope) : Step (Option Outbound) := do
  let opened ← Step.ask (unpack e)
  let m ← Message.ofJson opened.plaintext
  let c ← Step.ask (connectionFor m opened.recipient)
  Step.ask (checkSender m c opened.sender)
  handle m c

end Agent

end Pairwise
