import Mathlib.Logic.Relation
import Pairwise.Proofs.Handling
import Pairwise.Proofs.Operations
import Pairwise.Proofs.Parties
/-!
# Two sides and a network

Two agents answer to one invitation over a network that keeps every envelope, and delivers it at any
time, any number of times, or never. Each side makes its messages when it likes; what it has to send,
answers and reports of problems included, it sends when it likes, and again if it likes.

Results:
* `Side.Does`: what a side does next, with the envelopes that it hands to the network.
* `World.Next`, `World.Reachable`: the runs of the two sides.
* `World.Starts`: how the two sides begin.
-/
namespace Pairwise

variable [suite : Suite]

/-! ## Sending is quiet -/

namespace Agent

variable [chance : Chance]

theorem package_quiet (o : Outbound) : Step.Keeps Quiet (package o) :=
  package_keeps drawId_quiet drawNoise_quiet o

theorem post_quiet (mediators : Wallet) (o : Outbound) : Step.Keeps Quiet (post mediators o) := by
  unfold post
  exact .bind (.ask _) fun delivery => .bind (package_quiet o) fun p => .lift _

end Agent

/-! ## The sides -/

/-- A message under way, in the envelope that was made of it. -/
structure Parcel where
  message : Message
  envelope : Envelope

/-- One side of an exchange. -/
structure Side where
  agent : Agent
  /-- What the agent has to send. -/
  outbox : List Outbound := []
  /-- What the network has for the agent. -/
  inbox : List Parcel := []
  /-- What has been delivered to the agent, in this order. -/
  heard : List Message := []

namespace Side

/-- What a side has to send after it has received something. -/
def answerOf : Except Error (Option Outbound) → List Outbound
  | .ok (some o) => [o]
  | _ => []

/-- A side does one thing on its connection, and hands parcels to the network: it makes a message,
sends one that it has made, fails to send one, or receives an envelope. -/
inductive Does [chance : Chance] (mediators : Wallet) (id : String) (s : Side) :
    List Parcel → Side → Prop
  | makes {x : Agent.Act} {result : Except Error Outbound} {a : Agent}
      (run : (Agent.act id x).run s.agent = (result, a)) :
      Does mediators id s [] { s with agent := a, outbox := s.outbox ++ result.toOption.toList }
  | sends {o : Outbound} {e : Envelope} {a : Agent} (mem : o ∈ s.outbox)
      (run : (Agent.post mediators o).run s.agent = (.ok e, a)) (genuine : e.Genuine o.message) :
      Does mediators id s [⟨o.message, e⟩] { s with agent := a }
  | fails {o : Outbound} {error : Error} {a : Agent} (mem : o ∈ s.outbox)
      (run : (Agent.post mediators o).run s.agent = (.error error, a)) :
      Does mediators id s [] { s with agent := a }
  | receives {p : Parcel} {result : Except Error (Option Outbound)} {a : Agent} (mem : p ∈ s.inbox)
      (run : (Agent.receive p.envelope).run s.agent = (result, a)) :
      Does mediators id s [] { s with
        agent := a
        outbox := s.outbox ++ answerOf result
        heard := s.heard ++ [p.message] }

/-- The network has got parcels for the side. -/
def gets (s : Side) (parcels : List Parcel) : Side := { s with inbox := s.inbox ++ parcels }

/-- How the side's connection stands. -/
def Stands (s : Side) (id : String) (state : ExchangeState) : Prop :=
  ∃ c, s.agent.connections.find? id = some c ∧ c.state = state

end Side

/-! ## The world -/

/-- The requester and the responder of an exchange. -/
structure World where
  requester : Side
  responder : Side

namespace World

/-- One of the sides does something. -/
inductive Next [chance : Chance] (mediators : Wallet) (c d : String) (w : World) : World → Prop
  | requester {parcels : List Parcel} {s : Side} (does : w.requester.Does mediators c parcels s) :
      Next mediators c d w ⟨s, w.responder.gets parcels⟩
  | responder {parcels : List Parcel} {s : Side} (does : w.responder.Does mediators d parcels s) :
      Next mediators c d w ⟨w.requester.gets parcels, s⟩

/-- The sides have come so far, in any number of steps. -/
def Reachable [chance : Chance] (mediators : Wallet) (c d : String) : World → World → Prop :=
  Relation.ReflTransGen (Next mediators c d)

/-- The responder has made an invitation that is answered once, and the requester has received it
once. Nothing is under way. -/
structure Starts (w : World) (i : Invitation) (c d : Connection) : Prop where
  requester : w.requester.agent.connections.find? c.id = some c
  responder : w.responder.agent.connections.find? d.id = some d
  asking : c.At i .requester .invitationReceived none none none
  waiting : d.At i .responder .invitationSent none none none
  once : d.multiUse = false
  only : ∀ x ∈ w.requester.agent.connections.records, x.invitationId = some i.id → x.id = c.id
  requesterNew : w.requester.outbox = [] ∧ w.requester.inbox = [] ∧ w.requester.heard = []
  responderNew : w.responder.outbox = [] ∧ w.responder.inbox = [] ∧ w.responder.heard = []

end World

end Pairwise
