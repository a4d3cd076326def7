import Pairwise.Proofs.RotationInvariant
import Pairwise.Proofs.RotationReplay
/-!
# Rotations come to their end

That both sides agree would be true as well if no announcement ever got through. When nothing else is
under way, one of a DID that can be told does: it is acknowledged, and both sides go by the DID then.

Results:
* `Agree.follows`: an announcement is followed that comes for the DID that the side has.
* `Agree.acknowledged`, `Agree.completes`: the rotation of one side, from its announcement to the
  acknowledgement and to the end.
-/
namespace Pairwise

variable [suite : Suite] [chance : Chance]

namespace Agree

variable {mediators : Wallet} {s t : Side} {c d : Connection}

/-- A DID that has been announced is announced by the side's connection. -/
theorem announced (h : Agree mediators s t c d) {r : Routing} (ready : s.agent.Ready r)
    (mediated : ∀ k ∈ r.routingKeys, mediators.holds k = true) {m : Rotate} {c₁ : Connection}
    {a : Agent} (run : (Agent.createRotate c (.routing r)).run s.agent = (.ok (m, c₁), a))
    (new : s.agent.Unheard m.did) :
    c₁.id = c.id ∧ c₁.ownDids = c.ownDids ∧ c₁.theirDid = c.theirDid ∧
      Agree mediators { s with agent := a, outbox := s.outbox ++ [⟨.rotate m, c₁⟩] } t c₁ d ∧
      (PeerDid.form m.did = .ok .hashAndDocument → ∃ p, p.did = m.did ∧ a.Owns c.id p r) := by
  obtain ⟨c', same, agree⟩ := h.announces ready mediated run fun _ _ announced => by
    cases announced
    exact new
  obtain ⟨id, -, noted, -, -, stored, owns⟩ := Agent.createRotate_announces ready run new
  have there := agree.here.stored
  rw [same] at there
  cases stored.symm.trans there
  exact ⟨same, noted ▸ rfl, noted ▸ rfl, agree, owns⟩

/-- An announcement is followed that comes from a DID of the other side for one of the side's own, if
the DID that it announces can be told. -/
theorem follows (h : Agree mediators s t c d) {p q : PeerDid} {r u : Routing} {m : Rotate}
    {e : Envelope} (told : s.agent.Told p r) (sender : p.did ∈ c.theirDids)
    (owns : s.agent.Owns c.id q u) (receiver : q.did ∈ c.ownDids)
    (readable : (Message.rotate m).Readable) (rotation : (Message.rotate m).OfRotation)
    (holds : e.Holds (Message.rotate m).toJson [u.recipientKey] (some r.recipientKey))
    {p' : PeerDid} {r' : Routing} (made : p'.Made r')
    (form : PeerDid.form p'.did = .ok .hashAndDocument) (did : p'.did = m.did) :
    ∃ n a, (Agent.receive e).run s.agent = (.ok (some ⟨.rotateAck n, c⟩), a) ∧
      a.connections.find? c.id = some (c.withTheirDid (some m.did)).next := by
  obtain ⟨found, checked⟩ := h.accepts (m := .rotate m) told sender owns receiver
  obtain ⟨doc, announced, tells, -⟩ := made.announced form
  obtain ⟨n, a, acked, stored⟩ := announced.processRotate_run did.symm
    ⟨_, tells.recipientFingerprints⟩ h.here.completed h.here.stored
  refine ⟨n, a, ?_, did ▸ stored⟩
  rw [Agent.receive_run holds readable owns.held found checked, Agent.handle_rotation rotation,
    Agent.dispatch, Step.bind_view]
  exact Step.bind_ok acked

/-- An acknowledgement is not answered. -/
theorem unanswered (h : Agree mediators s t c d) {front back : List Parcel} {x : Parcel}
    (next : s.inbox = front ++ x :: back) (silent : x.message.announces = false)
    {result : Except Error (Option Outbound)} {a : Agent}
    (run : (Agent.receive x.envelope).run s.agent = (result, a)) : Side.answerOf result = [] := by
  have addressed := h.arrived next
  obtain ⟨p, r, q, u, -, -, owns, -, holds⟩ := addressed.sealed
  obtain ⟨c', answers, taken⟩ := owns.receive_takes h.here.stored holds addressed.readable
    addressed.rotation run
  rw [taken.answer, (taken.takes.of_silent silent).1]
  rfl

/-- The rotation of one side, when nothing else is under way, up to where the other side has followed
it. The acknowledgement is still to be sent. -/
theorem acknowledged (lawful : suite.Lawful) (drawn : chance.Lawful) {w : World}
    (h : Agree mediators w.requester w.responder c d) (still : w.Still) {r : Routing}
    (ready : w.requester.agent.Ready r) (mediated : ∀ k ∈ r.routingKeys, mediators.holds k = true)
    {m : Rotate} {c₁ : Connection} {a : Agent}
    (run : (Agent.createRotate c (.routing r)).run w.requester.agent = (.ok (m, c₁), a))
    (new : w.requester.agent.Unheard m.did) (form : PeerDid.form m.did = .ok .hashAndDocument) :
    ∃ a' b' heard heard' n d',
      let w' : World := ⟨⟨a', [], [], heard⟩, ⟨b', [⟨.rotateAck n, d⟩], [], heard'⟩⟩
      Relation.ReflTransGen (World.Rotates mediators c.id d.id) w w' ∧ c₁.id = c.id ∧ d'.id = d.id ∧
        Agree mediators w'.requester w'.responder c₁ d' ∧ c₁.ownDids = c.ownDids ∧
        d'.theirDid = some m.did ∧ .rotate m ∈ heard' := by
  obtain ⟨⟨a₀, outbox, inbox, heard⟩, b, outbox', inbox', heard'⟩ := w
  obtain ⟨⟨rfl, rfl⟩, rfl, rfl⟩ := still
  -- the DID is announced
  obtain ⟨id, own, theirDid, agree₁, owned⟩ := h.announced ready mediated run new
  obtain ⟨p', did, made⟩ := owned form
  let w₁ : World := ⟨⟨a, [⟨.rotate m, c₁⟩], [], heard⟩, ⟨b, [], [], heard'⟩⟩
  have announces : World.Rotates mediators c.id d.id _ w₁ :=
    .requester (.announces h.here.stored ready mediated run fun _ _ announced => by
      cases announced
      exact new)
  -- the announcement is sent, for the DID that the other side has
  have first : w₁.requester.outbox = [] ++ ⟨.rotate m, c₁⟩ :: [] := rfl
  have outgoing : Outbound.Addressed ⟨.rotate m, c₁⟩ c₁ d := agree₁.outgoing first
  obtain ⟨p, u, q, v, e, a₁, posted, -, told, known, owns, receiver, -, holds⟩ :=
    agree₁.posts lawful drawn outgoing
  let w₂ : World := ⟨⟨a₁, [], [], heard⟩, ⟨b, [], [⟨.rotate m, e⟩], heard'⟩⟩
  have agree₂ : Agree mediators w₂.requester w₂.responder c₁ d :=
    agree₁.sends lawful drawn first posted
  have sends : World.Rotates mediators c.id d.id w₁ w₂ := .requester (.sends first posted)
  have current : d.did = some q.did := by
    have same := (h.still ⟨⟨rfl, rfl⟩, rfl, rfl⟩).2
    exact same.symm.trans (theirDid.symm.trans receiver)
  -- it is followed
  have second : w₂.responder.inbox = [] ++ ⟨.rotate m, e⟩ :: [] := rfl
  obtain ⟨n, b₁, acked, followed⟩ := agree₂.symm.follows told known owns
    (Connection.mem_ownDids_of_did current) outgoing.readable outgoing.rotation holds made.made
    (did ▸ form) did
  let w₃ : World := ⟨⟨a₁, [], [], heard⟩, ⟨b₁, [⟨.rotateAck n, d⟩], [], heard' ++ [.rotate m]⟩⟩
  obtain ⟨d₁, id', agree₃⟩ : ∃ d₁, d₁.id = d.id ∧ Agree mediators w₃.responder w₃.requester d₁ c₁ :=
    agree₂.symm.hears second rfl acked
  have hears : World.Rotates mediators c.id d.id w₂ w₃ := .responder (.receives second acked)
  have theirs : d₁.theirDid = some m.did := by
    have there := agree₃.here.stored
    rw [id'] at there
    cases followed.symm.trans there
    rfl
  exact ⟨a₁, b₁, heard, _, n, d₁, ((Relation.ReflTransGen.single announces).tail sends).tail hears,
    id, id', agree₃.symm, own, theirs, List.mem_append_right _ List.mem_cons_self⟩

/-- The rotation of one side, when nothing else is under way. The DID that it announces is told, the
other side goes by it, and then so does the side itself. -/
theorem completes (lawful : suite.Lawful) (drawn : chance.Lawful) {w : World}
    (h : Agree mediators w.requester w.responder c d) (still : w.Still) {r : Routing}
    (ready : w.requester.agent.Ready r) (mediated : ∀ k ∈ r.routingKeys, mediators.holds k = true)
    {m : Rotate} {c₁ : Connection} {a : Agent}
    (run : (Agent.createRotate c (.routing r)).run w.requester.agent = (.ok (m, c₁), a))
    (new : w.requester.agent.Unheard m.did) (form : PeerDid.form m.did = .ok .hashAndDocument) :
    ∃ w' c' d', Relation.ReflTransGen (World.Rotates mediators c.id d.id) w w' ∧ w'.Still ∧
      c'.id = c.id ∧ d'.id = d.id ∧ Agree mediators w'.requester w'.responder c' d' ∧
      c'.did = some m.did ∧ d'.theirDid = some m.did := by
  obtain ⟨a₁, b₁, heard, heard', n, d₁, run, id, id', agree₃, -, theirs, -⟩ :=
    h.acknowledged lawful drawn still ready mediated run new form
  let w₃ : World := ⟨⟨a₁, [], [], heard⟩, ⟨b₁, [⟨.rotateAck n, d⟩], [], heard'⟩⟩
  -- the acknowledgement is sent and received
  have third : w₃.responder.outbox = [] ++ ⟨.rotateAck n, d⟩ :: [] := rfl
  obtain ⟨-, -, -, -, e', b₂, posted', -⟩ :=
    agree₃.symm.posts lawful drawn (agree₃.symm.outgoing third)
  let w₄ : World := ⟨⟨a₁, [], [⟨.rotateAck n, e'⟩], heard⟩, ⟨b₂, [], [], heard'⟩⟩
  have agree₄ : Agree mediators w₄.requester w₄.responder c₁ d₁ :=
    (agree₃.symm.sends lawful drawn third posted').symm
  have acks : World.Rotates mediators c.id d.id w₃ w₄ := .responder (.sends third posted')
  have fourth : w₄.requester.inbox = [] ++ ⟨.rotateAck n, e'⟩ :: [] := rfl
  rcases received : (Agent.receive e').run a₁ with ⟨result, a₂⟩
  have silent := agree₄.unanswered fourth rfl received
  let w₅ : World := ⟨w₄.requester.received [] ⟨.rotateAck n, e'⟩ result a₂, w₄.responder⟩
  obtain ⟨c', id'', agree₅⟩ :
      ∃ c', c'.id = c₁.id ∧ Agree mediators w₅.requester w₅.responder c' d₁ :=
    agree₄.answered fourth rfl received
  have ends : World.Rotates mediators c.id d.id w₄ w₅ := .requester (.receives fourth received)
  have still : w₅.Still := ⟨⟨silent, rfl⟩, rfl, rfl⟩
  have same := (agree₅.still still).1
  exact ⟨w₅, c', d₁, (run.tail acks).tail ends, still, id''.trans id, id', agree₅,
    same.symm.trans theirs, theirs⟩

end Agree

end Pairwise
