import Pairwise.Message.Envelope
import Pairwise.Message.Exchange
import Pairwise.Message.Problem
import Pairwise.Message.Rotation
/-!
# Messages between agents

All messages that an agent understands. `Message.ofJson` reads one by its kind, `Message.toJson`
writes it.
-/
namespace Pairwise

/-- A message between agents. -/
inductive Message where
  | request (m : Request)
  | response (m : Response)
  | complete (m : Complete)
  | exchangeProblem (m : ProblemReport)
  | rotate (m : Rotate)
  | rotateAck (m : RotateAck)
  | hangup (m : Hangup)
  | rotateProblem (m : ProblemReport)
  | forward (m : Forward)

namespace Message

/-- A problem report as a message: it belongs to the rotation if its kind says so. -/
def ofReport (m : ProblemReport) : Message :=
  if m.kind = .rotateProblem then rotateProblem m else exchangeProblem m

/-- Reads a message of a kind. -/
def ofKind (kind : MessageKind) (v : Json) : Except Error Message :=
  let read {α : Type} (record : Json.Record α) (make : α → Message) : Except Error Message :=
    Error.ofJson (make <$> Json.Reader.ofJson record.read v)
  match kind with
  | .exchangeRequest => read Request.reader request
  | .exchangeResponse => read Response.reader response
  | .exchangeComplete => read Complete.reader complete
  | .exchangeProblem => read ProblemReport.reader exchangeProblem
  | .rotate => read Rotate.reader rotate
  | .rotateAck => read RotateAck.reader rotateAck
  | .hangup => read Hangup.reader hangup
  | .rotateProblem => read ProblemReport.reader rotateProblem
  | .forward => read Forward.reader forward
  | .invitation => .error (.unsupportedMessage s!"{kind.uri} is exchanged out of band")

/-- Reads a message: its kind decides what it must hold. -/
def ofJson (v : Json) : Except Error Message :=
  match (v.get? "@type").bind Json.str? with
  | none => .error (.unsupportedMessage "missing @type")
  | some uri =>
    match MessageKind.ofUri? uri with
    | none => .error (.unsupportedMessage uri)
    | some kind => ofKind kind v

/-- The kind that the message names. -/
def kind : Message → MessageKind
  | request m => m.kind
  | response m => m.kind
  | complete m => m.kind
  | exchangeProblem m => m.kind
  | rotate m => m.kind
  | rotateAck m => m.kind
  | hangup m => m.kind
  | rotateProblem m => m.kind
  | forward m => m.kind

def id : Message → String
  | request m => m.id
  | response m => m.id
  | complete m => m.id
  | exchangeProblem m => m.id
  | rotate m => m.id
  | rotateAck m => m.id
  | hangup m => m.id
  | rotateProblem m => m.id
  | forward m => m.id

/-- The thread decorator; a forward message has none. -/
def thread : Message → Option Thread
  | request m => m.thread
  | response m => m.thread
  | complete m => m.thread
  | exchangeProblem m => m.thread
  | rotate m => m.thread
  | rotateAck m => m.thread
  | hangup m => m.thread
  | rotateProblem m => m.thread
  | forward _ => none

/-- The thread that the message belongs to. -/
def threadId (m : Message) : String := Thread.idOf m.id m.thread

/-- The thread that the message's thread grew out of. -/
def parentThreadId (m : Message) : Option String := Thread.parentOf m.thread

def toJson : Message → Json
  | request m => m.toJson
  | response m => m.toJson
  | complete m => m.toJson
  | exchangeProblem m => m.toJson
  | rotate m => m.toJson
  | rotateAck m => m.toJson
  | hangup m => m.toJson
  | rotateProblem m => m.toJson
  | forward m => m.toJson

end Message

end Pairwise
