import Pairwise.Error
import Pairwise.Message.Thread
/-!
# Problem reports

A report tells the counterparty by a code what went wrong with its message. Codes of both protocols
are known, and others of the same form are accepted.
-/
namespace Pairwise

/-- The problems of both protocols. -/
inductive KnownProblem where
  | requestNotAccepted
  | requestProcessingError
  | responseNotAccepted
  | responseProcessingError
  | completeRejected
  | didMethodUnsupported
  | didUnresolvable
  | didDocUnsupported
  /-- Nothing is known of the problem. -/
  | unknown
  deriving DecidableEq, Repr, Inhabited

namespace KnownProblem

def all : List KnownProblem :=
  [.requestNotAccepted, .requestProcessingError, .responseNotAccepted, .responseProcessingError,
    .completeRejected, .didMethodUnsupported, .didUnresolvable, .didDocUnsupported, .unknown]

/-- The code of a problem. -/
def code : KnownProblem → String
  | .requestNotAccepted => "request_not_accepted"
  | .requestProcessingError => "request_processing_error"
  | .responseNotAccepted => "response_not_accepted"
  | .responseProcessingError => "response_processing_error"
  | .completeRejected => "complete_rejected"
  | .didMethodUnsupported => "e.did.method_unsupported"
  | .didUnresolvable => "e.did.unresolvable"
  | .didDocUnsupported => "e.did.doc_unsupported"
  | .unknown => "e.u.no-data"

def ofCode? (code : String) : Option KnownProblem := all.find? fun p => p.code = code

def reader : Json.Reader KnownProblem := .choice ofCode?

/-- The problem reported for a message of a kind that failed, if the protocol has one. -/
def ofFailed? : MessageKind → Option KnownProblem
  | .exchangeRequest => some .requestNotAccepted
  | .exchangeResponse => some .responseNotAccepted
  | .exchangeComplete => some .completeRejected
  | _ => none

end KnownProblem

/-- The problem that is reported back when a message of a kind failed with an error. -/
def Error.problem? (e : Error) (kind : MessageKind) : Option KnownProblem :=
  if e.isReportable then KnownProblem.ofFailed? kind else none

/-- What went wrong: a code, and a text for people. -/
structure Problem where
  code : String
  en : Option String := none
  deriving DecidableEq, Repr

namespace Problem

def isLowerOrDigit (c : Char) : Bool := ('a' ≤ c && c ≤ 'z') || c.isDigit

/-- The parts between points. -/
def parts (code : List Char) : List (List Char) :=
  code.foldr (fun c parts =>
    if c = '.' then [] :: parts
    else match parts with
      | part :: rest => (c :: part) :: rest
      | [] => [[c]]) [[]]

/-- A code with points: its severity, up to 32 letters and digits, and any further parts. -/
def isDotted (code : List Char) : Bool :=
  match parts code with
  | [severity] :: topic :: rest =>
    (severity == 'e' || severity == 'w')
      && 1 ≤ topic.length && topic.length ≤ 32 && topic.all isLowerOrDigit
      && rest.all fun part =>
        !part.isEmpty && part.all fun c => isLowerOrDigit c || c == '_' || c == '-'
  | _ => false

/-- A code of small letters, digits and underscores. -/
def isPlain : List Char → Bool
  | c :: rest => 'a' ≤ c && c ≤ 'z' && rest.all fun c => isLowerOrDigit c || c == '_'
  | [] => false

/-- The problem of a code. -/
def ofCode (code : String) : Except Error Problem :=
  if isDotted code.toList || isPlain code.toList then .ok { code } else .error .problemCodeFormat

/-- A known problem. -/
def ofKnown (p : KnownProblem) : Problem := { code := p.code }

def reader : Json.Record Problem := mk <$> .field "code" .string <*> .optional "en" .string

def toJson (p : Problem) : Json :=
  .obj ([("code", .str p.code)] ++ Json.optional "en" (p.en.map .str))

end Problem

/-- A problem report of either protocol. -/
structure ProblemReport where
  kind : MessageKind
  id : String
  description : Problem
  thread : Option Thread := none
  deriving DecidableEq, Repr

namespace ProblemReport

def reader : Json.Record ProblemReport :=
  mk <$> .field "@type" MessageKind.reader <*> .field "@id" .string
    <*> .field "description" Problem.reader.read <*> Thread.member

def toJson (m : ProblemReport) : Json :=
  .obj ([("@type", m.kind.toJson), ("@id", .str m.id), ("description", m.description.toJson)]
    ++ Thread.write m.thread)

/-- The thread that the report belongs to. -/
def threadId (m : ProblemReport) : String := Thread.idOf m.id m.thread

end ProblemReport

end Pairwise
