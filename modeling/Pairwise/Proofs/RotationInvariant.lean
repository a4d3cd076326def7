import Mathlib.Logic.Relation
import Pairwise.Proofs.RotationPhases
/-!
# What rotations keep

Both sides of a completed connection announce new DIDs whenever they like, one at a time each. What
they have to send, answers included, is sent once and delivered once, in any order.

The rotation of each side is in one of its phases, and what the sides know of each other makes sure
that an acknowledgement is not lost, which is the only message that must not be.

Results:
* `Side.Rotates`, `World.Rotates`: what the sides do.
* `Agree`, `Agree.turn`: what holds of both sides, and what a side has to keep when it does something.
* `Agree.rotates`, `Agree.run`: everything that the sides do keeps it.
-/
namespace Pairwise

/-! ## The two sides -/

section Sides

variable [suite : Suite]

/-- The connection is completed, both its DIDs are known, and its rotations wait for one another. -/
structure Agent.Standing (a : Agent) (c : Connection) : Prop where
  stored : a.connections.find? c.id = some c
  completed : c.state = .completed
  did : c.did.isSome = true
  theirDid : c.theirDid.isSome = true
  strict : a.settings.strictRotation = true

namespace Side

/-- What a side has to send after it has announced a DID. -/
def announcementOf : Except Error (Rotate × Connection) → List Outbound
  | .ok (m, c) => [⟨.rotate m, c⟩]
  | .error _ => []

/-- The side when it has received a parcel, and what has come of that. -/
def received (s : Side) (rest : List Parcel) (x : Parcel) (result : Except Error (Option Outbound))
    (a : Agent) : Side where
  agent := a
  outbox := s.outbox ++ answerOf result
  inbox := rest
  heard := s.heard ++ [x.message]

/-- A side does one thing on its connection, and hands parcels to the network: it makes a key to rotate
to, announces a new DID for such a key, sends a message that it has to send, or receives an envelope.
Whatever comes of that, it sends every message once, and receives every envelope once. -/
inductive Rotates [chance : Chance] (mediators : Wallet) (id : String) (s : Side) :
    List Parcel → Side → Prop
  | prepares {mediator : Option Mediator} {result : Except Error Routing} {a : Agent}
      (run : (Agent.freshRouting mediator).run s.agent = (result, a)) :
      Rotates mediators id s [] { s with agent := a }
  | announces {c : Connection} {r : Routing} {result : Except Error (Rotate × Connection)} {a : Agent}
      (stored : s.agent.connections.find? id = some c) (ready : s.agent.Ready r)
      (mediated : ∀ k ∈ r.routingKeys, mediators.holds k = true)
      (run : (Agent.createRotate c (.routing r)).run s.agent = (result, a))
      (new : ∀ m c', result = .ok (m, c') → s.agent.Unheard m.did) :
      Rotates mediators id s [] { s with agent := a, outbox := s.outbox ++ announcementOf result }
  | sends {front back : List Outbound} {o : Outbound} {result : Except Error Envelope} {a : Agent}
      (next : s.outbox = front ++ o :: back)
      (run : (Agent.post mediators o).run s.agent = (result, a)) :
      Rotates mediators id s (result.toOption.toList.map fun e => ⟨o.message, e⟩)
        { s with agent := a, outbox := front ++ back }
  | receives {front back : List Parcel} {x : Parcel} {result : Except Error (Option Outbound)}
      {a : Agent} (next : s.inbox = front ++ x :: back)
      (run : (Agent.receive x.envelope).run s.agent = (result, a)) :
      Rotates mediators id s [] (s.received (front ++ back) x result a)

/-- The messages under way from one side to the other, what is still to be sent included. -/
def underWay (s t : Side) : Multiset Message :=
  ↑(s.outbox.map (·.message)) + ↑(t.inbox.map (·.message))

variable {s s' t : Side}

omit suite in
/-- What is left is some of what there was. -/
theorem mem_of_left {α : Type} {all front back : List α} {x y : α} (next : all = front ++ x :: back)
    (left : y ∈ front ++ back) : y ∈ all :=
  next ▸ ((List.sublist_cons_self x back).append_left front).subset left

theorem gets_nil (t : Side) : t.gets [] = t := by
  rw [gets, List.append_nil]

/-- More is under way when more is to be sent. -/
theorem underWay_append (more : List Outbound) (outbox : s'.outbox = s.outbox ++ more) :
    s'.underWay t = s.underWay t + ↑(more.map (·.message)) := by
  rw [underWay, underWay, outbox, List.map_append, ← Multiset.coe_add, add_right_comm]

/-- What is sent is still under way. -/
theorem underWay_sends {front back : List Outbound} {o : Outbound}
    (outbox : s.outbox = front ++ o :: back) (outbox' : s'.outbox = front ++ back) (e : Envelope) :
    s'.underWay (t.gets [⟨o.message, e⟩]) = s.underWay t := by
  rw [underWay, underWay, outbox, outbox', gets]
  simp only [List.map_append, List.map_cons, List.map_nil, ← Multiset.coe_add, ← Multiset.cons_coe,
    Multiset.coe_nil, Multiset.add_cons, Multiset.cons_add, add_zero]

/-- What is received is under way no more. -/
theorem underWay_receives {front back : List Parcel} {x : Parcel}
    (inbox : s.inbox = front ++ x :: back) (inbox' : s'.inbox = front ++ back) :
    t.underWay s = x.message ::ₘ t.underWay s' := by
  rw [underWay, underWay, inbox, inbox', List.map_append, List.map_append, List.map_cons,
    ← Multiset.coe_add, ← Multiset.coe_add, ← Multiset.cons_coe, Multiset.add_cons,
    Multiset.add_cons]

end Side

namespace World

/-- One of the sides does something. -/
inductive Rotates [chance : Chance] (mediators : Wallet) (c d : String) (w : World) : World → Prop
  | requester {parcels : List Parcel} {s : Side}
      (rotates : w.requester.Rotates mediators c parcels s) :
      Rotates mediators c d w ⟨s, w.responder.gets parcels⟩
  | responder {parcels : List Parcel} {s : Side}
      (rotates : w.responder.Rotates mediators d parcels s) :
      Rotates mediators c d w ⟨w.requester.gets parcels, s⟩

/-- Nothing is under way. -/
structure Still (w : World) : Prop where
  requester : w.requester.outbox = [] ∧ w.requester.inbox = []
  responder : w.responder.outbox = [] ∧ w.responder.inbox = []

theorem Still.underWay {w : World} (h : w.Still) :
    w.requester.underWay w.responder = 0 ∧ w.responder.underWay w.requester = 0 := by
  obtain ⟨⟨outbox, inbox⟩, outbox', inbox'⟩ := h
  rw [Side.underWay, Side.underWay, outbox, inbox, outbox', inbox']
  exact ⟨rfl, rfl⟩

end World

end Sides

/-! ## What the sides know of each other -/

section Knowledge

variable [suite : Suite]

/-- The DID is the first agent's own, on the connection of an id; the second agent was told it, and the
mediators on the way to it are there. -/
def Shared (mediators : Wallet) (a : Agent) (id : String) (b : Agent) (did : String) : Prop :=
  ∃ p r, p.did = did ∧ a.Owns id p r ∧ b.Told p r ∧ ∀ k ∈ r.routingKeys, mediators.holds k = true

/-- The other side knows all DIDs of the connection, and can be told the one that it is rotated to. -/
structure Follows (mediators : Wallet) (a b : Agent) (c d : Connection) : Prop where
  own : c.ownDids ⊆ d.theirDids
  shared : ∀ did ∈ d.theirDids, Shared mediators a c.id b did
  waits : ∀ ρ, c.pendingRotation = .ok (some ρ) → PeerDid.form ρ.did = .ok .hashAndDocument →
    ∃ p r, p.did = ρ.did ∧ a.Owns c.id p r ∧ ∀ k ∈ r.routingKeys, mediators.holds k = true

/-- The message is one of a rotation. It is addressed with DIDs that both sides have or had; an answer
goes to one that the other side has committed itself to. -/
structure Outbound.Addressed (o : Outbound) (c d : Connection) : Prop where
  rotation : o.message.OfRotation
  readable : o.message.Readable
  sender : ∃ did ∈ c.ownDids, o.connection.did = some did
  receiver : ∃ did ∈ c.theirDids, o.connection.theirDid = some did ∧
    (o.message.announces = false → did ∈ d.ownDids)

/-- The envelope holds the message, for a DID of the agent's own and from one that it was told. -/
structure Parcel.Addressed (x : Parcel) (b : Agent) (d : Connection) : Prop where
  rotation : x.message.OfRotation
  readable : x.message.Readable
  sealed : ∃ p r q s, b.Told p r ∧ p.did ∈ d.theirDids ∧ b.Owns d.id q s ∧
    (x.message.announces = false → q.did ∈ d.ownDids) ∧
    x.envelope.Holds x.message.toJson [s.recipientKey] (some r.recipientKey)

/-- What holds of the rotation of one side: what the other side knows of its DIDs, what has been sent,
and the phase that it is in. -/
structure Line (mediators : Wallet) (s t : Side) (c d : Connection) : Prop where
  follows : Follows mediators s.agent t.agent c d
  sent : ∀ o ∈ s.outbox, o.Addressed c d
  arriving : ∀ x ∈ t.inbox, x.Addressed t.agent d
  phase : Phase c d (Message.announcementsOf (s.underWay t)) (Message.answersOf (t.underWay s))

/-- Both sides stand, and so do the rotations of both. -/
structure Agree (mediators : Wallet) (s t : Side) (c d : Connection) : Prop where
  here : s.agent.Standing c
  there : t.agent.Standing d
  forth : Line mediators s t c d
  back : Line mediators t s d c

namespace Follows

variable {mediators : Wallet} {a a' b : Agent} {c c' d : Connection}

/-- The side whose DIDs these are goes on. -/
theorem forth (h : Follows mediators a b c d) (continues : Agent.Continues c.id a a')
    (id : c'.id = c.id) (own : c'.ownDids ⊆ d.theirDids)
    (waits : ∀ ρ, c'.pendingRotation = .ok (some ρ) → c.pendingRotation = .ok (some ρ) ∨
      (PeerDid.form ρ.did = .ok .hashAndDocument →
        ∃ p r, p.did = ρ.did ∧ a'.Owns c.id p r ∧ ∀ k ∈ r.routingKeys, mediators.holds k = true)) :
    Follows mediators a' b c' d where
  own := own
  shared := fun did mem => by
    obtain ⟨p, r, same, owns, told, mediated⟩ := h.shared did mem
    exact ⟨p, r, same, id ▸ owns.continues continues, told, mediated⟩
  waits := fun ρ pending form => by
    rw [id]
    rcases waits ρ pending with before | new
    · obtain ⟨p, r, same, owns, mediated⟩ := h.waits ρ before form
      exact ⟨p, r, same, owns.continues continues, mediated⟩
    · exact new form

/-- The side that knows them goes on. -/
theorem back (h : Follows mediators b a d c) {id : String} (continues : Agent.Continues id a a')
    (theirs : c.theirDids ⊆ c'.theirDids)
    (shared : ∀ did ∈ c'.theirDids, did ∈ c.theirDids ∨ Shared mediators b d.id a' did) :
    Follows mediators b a' d c' where
  own := fun _ mem => theirs (h.own mem)
  shared := fun did mem => by
    rcases shared did mem with before | new
    · obtain ⟨p, r, same, owns, told, mediated⟩ := h.shared did before
      exact ⟨p, r, same, owns, told.continues continues, mediated⟩
    · exact new
  waits := h.waits

end Follows

namespace Outbound.Addressed

variable {o : Outbound} {c c' d d' : Connection}

omit suite in
/-- What is sent on a connection that has a DID and knows the counterparty's is addressed with
these. -/
theorem of_connection {x : Connection} {m : Message} (did : x.did.isSome = true)
    (theirDid : x.theirDid.isSome = true) (carries : x.Carries c) (rotation : m.OfRotation)
    (readable : m.Readable)
    (answer : m.announces = false → ∀ their ∈ x.theirDid, their ∈ d.ownDids) :
    Outbound.Addressed ⟨m, x⟩ c d := by
  obtain ⟨own, named⟩ := Option.isSome_iff_exists.mp did
  obtain ⟨their, known⟩ := Option.isSome_iff_exists.mp theirDid
  exact {
    rotation, readable
    sender := ⟨own, carries.own (Connection.mem_ownDids_of_did named), named⟩
    receiver := ⟨their, carries.theirs (Connection.mem_theirDids_of_theirDid known), known,
      fun silent => answer silent their known⟩ }

omit suite in
theorem carries (h : o.Addressed c d) (own : c.Carries c') (other : d.Carries d') :
    o.Addressed c' d' where
  rotation := h.rotation
  readable := h.readable
  sender := by
    obtain ⟨did, mem, named⟩ := h.sender
    exact ⟨did, own.own mem, named⟩
  receiver := by
    obtain ⟨did, mem, named, answer⟩ := h.receiver
    exact ⟨did, own.theirs mem, named, fun silent => other.own (answer silent)⟩

end Outbound.Addressed

theorem Parcel.Addressed.continues {x : Parcel} {a a' : Agent} {c c' : Connection}
    (h : x.Addressed a c) (continues : Agent.Continues c.id a a') (carries : c.Carries c') :
    x.Addressed a' c' where
  rotation := h.rotation
  readable := h.readable
  sealed := by
    obtain ⟨p, r, q, s, told, mem, owns, answer, holds⟩ := h.sealed
    refine ⟨p, r, q, s, told.continues continues, carries.theirs mem, ?_,
      fun silent => carries.own (answer silent), holds⟩
    exact carries.id ▸ owns.continues continues

theorem Agent.Standing.continues {a a' : Agent} {c c' : Connection} (h : a.Standing c)
    (continues : Continues c.id a a') (carries : c.Carries c')
    (stored : a'.connections.find? c.id = some c') : a'.Standing c' where
  stored := carries.id ▸ stored
  completed := carries.state.trans h.completed
  did := carries.did h.did
  theirDid := carries.theirDid h.theirDid
  strict := continues.settings ▸ h.strict

namespace Agree

variable {mediators : Wallet} {s s' t : Side} {c c' d : Connection}

theorem symm (h : Agree mediators s t c d) : Agree mediators t s d c :=
  ⟨h.there, h.here, h.back, h.forth⟩

/-- When nothing is under way each side goes by the DID of the other. -/
theorem still {w : World} (h : Agree mediators w.requester w.responder c d) (still : w.Still) :
    d.theirDid = c.did ∧ c.theirDid = d.did := by
  have forth := h.forth.phase
  have back := h.back.phase
  rw [still.underWay.1, still.underWay.2] at forth back
  exact ⟨forth.agree, back.agree⟩

/-- What one side has to keep when it does something: its own DIDs are known to the other side, the DID
that it announces can be told, and the DIDs that it has taken in were told; what it sends is
addressed, and the rotations of both sides are in some phase. -/
theorem turn (h : Agree mediators s t c d) {parcels : List Parcel}
    (continues : Agent.Continues c.id s.agent s'.agent)
    (stored : s'.agent.connections.find? c.id = some c') (carries : c.Carries c')
    (own : c'.ownDids ⊆ d.theirDids)
    (waits : ∀ ρ, c'.pendingRotation = .ok (some ρ) → c.pendingRotation = .ok (some ρ) ∨
      (PeerDid.form ρ.did = .ok .hashAndDocument → ∃ p r, p.did = ρ.did ∧
        s'.agent.Owns c.id p r ∧ ∀ k ∈ r.routingKeys, mediators.holds k = true))
    (shared : ∀ did ∈ c'.theirDids, did ∈ c.theirDids ∨
      Shared mediators t.agent d.id s'.agent did)
    (sent : ∀ o ∈ s'.outbox, o ∈ s.outbox ∨ o.Addressed c' d)
    (inbox : ∀ x ∈ s'.inbox, x ∈ s.inbox) (arriving : ∀ x ∈ parcels, x.Addressed t.agent d)
    {there here : Multiset Message} (goes : s'.underWay (t.gets parcels) = there)
    (comes : t.underWay s' = here)
    (forth : Phase c' d (Message.announcementsOf there) (Message.answersOf here))
    (back : Phase d c' (Message.announcementsOf here) (Message.answersOf there)) :
    Agree mediators s' (t.gets parcels) c' d where
  here := h.here.continues continues carries stored
  there := h.there
  forth := {
    follows := h.forth.follows.forth continues carries.id own waits
    sent := fun o mem => (sent o mem).elim
      (fun before => (h.forth.sent o before).carries carries (.refl d)) fun new => new
    arriving := fun x mem => (List.mem_append.mp mem).elim (h.forth.arriving x) (arriving x)
    phase := goes ▸ comes ▸ forth }
  back := {
    follows := h.back.follows.back continues carries.theirs shared
    sent := fun o mem => (h.back.sent o mem).carries (.refl d) carries
    arriving := fun x mem => (h.back.arriving x (inbox x mem)).continues continues carries
    phase := goes ▸ comes ▸ back }

section Steps

variable [chance : Chance]

omit chance in
/-- A side goes on with its connections as they were. -/
theorem stays (h : Agree mediators s t c d) {a : Agent}
    (continues : Agent.Continues c.id s.agent a) (same : a.connections = s.agent.connections) :
    Agree mediators { s with agent := a } t c d := by
  rw [← t.gets_nil]
  exact h.turn continues (same ▸ h.here.stored) (.refl c) h.forth.follows.own
    (fun _ pending => .inl pending) (fun _ mem => .inl mem) (fun _ mem => .inl mem)
    (fun _ mem => mem) (List.forall_mem_nil _) (by rw [t.gets_nil]; rfl) rfl h.forth.phase
    h.back.phase

/-- A side makes a key. -/
theorem prepares (h : Agree mediators s t c d) {mediator : Option Mediator}
    {result : Except Error Routing} {a : Agent}
    (run : (Agent.freshRouting mediator).run s.agent = (result, a)) :
    Agree mediators { s with agent := a } t c d := by
  refine h.stays ((Agent.freshRouting_continues mediator c.id).of_run run) ?_
  have same := Agent.freshRouting_connections mediator s.agent
  rwa [run] at same

/-- A side announces a new DID, or cannot. -/
theorem announces (h : Agree mediators s t c d) {r : Routing} (ready : s.agent.Ready r)
    (mediated : ∀ k ∈ r.routingKeys, mediators.holds k = true)
    {result : Except Error (Rotate × Connection)} {a : Agent}
    (run : (Agent.createRotate c (.routing r)).run s.agent = (result, a))
    (new : ∀ m c', result = .ok (m, c') → s.agent.Unheard m.did) :
    ∃ c', c'.id = c.id ∧
      Agree mediators { s with agent := a, outbox := s.outbox ++ Side.announcementOf result } t
        c' d := by
  rcases result with error | ⟨m, c'⟩
  · obtain ⟨continues, same⟩ := Agent.createRotate_fails ready run
    rw [Side.announcementOf, List.append_nil]
    exact ⟨c, rfl, h.stays continues same⟩
  obtain ⟨id, hm, hc', strict, continues, stored, owns⟩ :=
    Agent.createRotate_announces ready run (new m c' rfl)
  have pending : c'.pendingRotation = .ok (some ⟨id, m.did, r.mediatorId⟩) :=
    hc' ▸ c.pendingRotation_noteRotation _
  have carries : c.Carries c' := hc' ▸ c.carries_noteRotation _
  have did : c'.did = c.did := hc' ▸ rfl
  have theirDid : c'.theirDid = c.theirDid := hc' ▸ rfl
  have goes : ({ s with agent := a, outbox := s.outbox ++ [⟨.rotate m, c'⟩] } : Side).underWay
      (t.gets []) = .rotate m ::ₘ s.underWay t := by
    rw [t.gets_nil, ← Multiset.singleton_add, add_comm]
    exact Side.underWay_append [⟨.rotate m, c'⟩] rfl
  refine ⟨c', carries.id, ?_⟩
  rw [← t.gets_nil]
  refine h.turn continues stored carries ?_ (fun ρ waits => .inr fun form => ?_)
    (fun did mem => .inl ?_) (fun o mem => (List.mem_append.mp mem).imp_right fun last => ?_)
    (fun _ mem => mem) (List.forall_mem_nil _) goes rfl ?_ ?_
  · rw [hc']
    exact h.forth.follows.own
  · cases pending.symm.trans waits
    obtain ⟨p, same, owns⟩ := owns form
    exact ⟨p, r, same, owns, mediated⟩
  · rw [hc'] at mem
    exact mem
  · obtain rfl := List.mem_singleton.mp last
    exact .of_connection (carries.did h.here.did) (carries.theirDid h.here.theirDid) (.refl c')
      (hm ▸ rfl) (Rotate.readable (hm ▸ rfl) (hm ▸ nofun)) nofun
  · rw [Message.announcementsOf_cons rfl]
    exact h.forth.phase.announces (strict h.here.strict) pending did rfl (hm ▸ rfl)
  · rw [Message.answersOf_cons rfl]
    exact h.back.phase.congr rfl rfl theirDid

/-- What a side has to send it can send. The envelope is sealed between DIDs that the other side was
told and owns. -/
theorem posts (lawful : suite.Lawful) (drawn : chance.Lawful) (h : Agree mediators s t c d)
    {o : Outbound} (addressed : o.Addressed c d) :
    ∃ p r q u e a, (Agent.post mediators o).run s.agent = (.ok e, a) ∧ Agent.Drawn s.agent a ∧
      t.agent.Told p r ∧ p.did ∈ d.theirDids ∧ t.agent.Owns d.id q u ∧
      o.connection.theirDid = some q.did ∧ (o.message.announces = false → q.did ∈ d.ownDids) ∧
      e.Holds o.message.toJson [u.recipientKey] (some r.recipientKey) := by
  obtain ⟨x, here, sender⟩ := addressed.sender
  obtain ⟨y, there, receiver, answer⟩ := addressed.receiver
  have known := h.forth.follows.own here
  obtain ⟨p, r, rfl, owns, told, -⟩ := h.forth.follows.shared x known
  obtain ⟨q, u, rfl, owns', told', mediated⟩ := h.back.follows.shared y there
  obtain ⟨e, a, posted, drew, holds⟩ := owns.post_run lawful drawn told' sender receiver
    addressed.readable mediated
  exact ⟨p, r, q, u, e, a, posted, drew, told, known, owns', receiver, answer, holds⟩

omit chance in
/-- What a side has to send is addressed. -/
theorem outgoing (h : Agree mediators s t c d) {front back : List Outbound} {o : Outbound}
    (next : s.outbox = front ++ o :: back) : o.Addressed c d :=
  h.forth.sent o (next ▸ List.mem_append_right _ List.mem_cons_self)

/-- A side sends what it has to send. -/
theorem sends (lawful : suite.Lawful) (drawn : chance.Lawful) (h : Agree mediators s t c d)
    {front back : List Outbound} {o : Outbound} {result : Except Error Envelope} {a : Agent}
    (next : s.outbox = front ++ o :: back)
    (run : (Agent.post mediators o).run s.agent = (result, a)) :
    Agree mediators { s with agent := a, outbox := front ++ back }
      (t.gets (result.toOption.toList.map fun e => ⟨o.message, e⟩)) c d := by
  have addressed := h.outgoing next
  obtain ⟨p, r, q, u, e, a', posted, drew, told, known, owns, -, answer, holds⟩ :=
    h.posts lawful drawn addressed
  cases posted.symm.trans run
  refine h.turn drew.continues (drew.connections ▸ h.here.stored) (.refl c) h.forth.follows.own
    (fun _ pending => .inl pending) (fun _ mem => .inl mem)
    (fun o' left => .inl (Side.mem_of_left next left)) (fun _ mem => mem)
    (List.forall_mem_singleton.mpr ?_) (Side.underWay_sends next rfl e) rfl h.forth.phase
    h.back.phase
  exact {
    rotation := addressed.rotation
    readable := addressed.readable
    sealed := ⟨p, r, q, u, told, known, owns, answer, holds⟩ }

omit chance in
/-- What a side has received was addressed to it. -/
theorem arrived (h : Agree mediators s t c d) {front back : List Parcel} {x : Parcel}
    (next : s.inbox = front ++ x :: back) : x.Addressed s.agent c :=
  h.back.arriving x (next ▸ List.mem_append_right _ List.mem_cons_self)

section Receiving

omit chance in
/-- What comes from a DID that the other side is known by, for one of the side's own, leads to the
connection and is accepted. -/
theorem accepts (h : Agree mediators s t c d) {p q : PeerDid} {r u : Routing} {m : Message}
    (told : s.agent.Told p r) (sender : p.did ∈ c.theirDids) (owns : s.agent.Owns c.id q u)
    (receiver : q.did ∈ c.ownDids) :
    s.agent.connectionOfKey u.recipientKey = .ok (some c) ∧
      Agent.checkSender m c (some r.recipientKey) s.agent = .ok () := by
  obtain ⟨did, named⟩ := Option.isSome_iff_exists.mp h.here.did
  refine ⟨owns.connectionOfKey h.here.stored named receiver,
    told.checkSender sender h.here.theirDid fun did mem => ?_⟩
  obtain ⟨q', s', same, -, told', -⟩ := h.back.follows.shared did mem
  exact ⟨q', s', same, told'⟩

variable {front back : List Parcel} {x : Parcel} {result : Except Error (Option Outbound)} {a : Agent}

/-- A side receives an announcement. -/
theorem hears (h : Agree mediators s t c d) {m : Rotate} (next : s.inbox = front ++ x :: back)
    (message : x.message = .rotate m)
    (run : (Agent.receive x.envelope).run s.agent = (result, a)) :
    ∃ c', c'.id = c.id ∧ Agree mediators (s.received (front ++ back) x result a) t c' d := by
  have addressed := h.arrived next
  obtain ⟨_, r, q, u, -, -, owns, -, holds⟩ := addressed.sealed
  obtain ⟨c', answers, taken⟩ := owns.receive_takes h.here.stored holds addressed.readable
    addressed.rotation run
  have carries := taken.takes.carries
  have silent : ∀ n ∈ (answers : Multiset Message), n.announces = false := fun n mem =>
    (taken.takes.answered n (Multiset.mem_coe.mp mem)).2.2
  let s' : Side := s.received (front ++ back) x result a
  have goes : s'.underWay (t.gets []) = s.underWay t + ↑answers := by
    rw [t.gets_nil, Side.underWay_append (Side.answerOf result) rfl, taken.answer, List.map_map]
    exact congrArg (s.underWay t + ↑·) (List.map_id answers)
  have comes : t.underWay s = .rotate m ::ₘ t.underWay s' := by
    rw [← message]
    exact Side.underWay_receives next rfl
  -- the rotation of the other side has been waiting for this
  have waiting := h.back.phase
  rw [comes, Message.announcementsOf_cons rfl] at waiting
  obtain ⟨ρ, pending, agree, did, -⟩ := waiting.asked_of_cons
  obtain ⟨own, same, rotation, theirs⟩ := (message ▸ taken.takes).of_rotate
  refine ⟨c', carries.id, ?_⟩
  rw [← t.gets_nil]
  refine h.turn taken.continues taken.stored carries (own ▸ h.forth.follows.own)
    (fun ρ waits => .inl (rotation ▸ waits)) (fun told mem => (theirs told mem).imp_right ?_)
    (fun o mem => (List.mem_append.mp mem).imp_right fun answer => ?_)
    (fun y left => Side.mem_of_left next left) (List.forall_mem_nil _) goes rfl ?_ ?_
  · rintro ⟨rfl, d', announced⟩
    obtain ⟨p, v, same, owns, mediated⟩ := h.back.follows.waits ρ pending (did ▸ announced.form)
    refine ⟨p, v, same.trans did.symm, owns, ⟨owns.sound, owns.made, .inl ?_⟩, mediated⟩
    rw [same, ← did]
    exact announced.derivable
  · rw [taken.answer] at answer
    obtain ⟨n, mem', rfl⟩ := List.mem_map.mp answer
    obtain ⟨rotation, readable, -⟩ := taken.takes.answered n mem'
    exact .of_connection h.here.did h.here.theirDid carries rotation readable
      fun _ _ known => Connection.mem_ownDids_of_did (agree.symm.trans known)
  · rw [Message.announcementsOf_add silent]
    have phase := h.forth.phase
    rw [comes, Message.answersOf_cons rfl] at phase
    exact phase.congr rotation same rfl
  · rw [Message.answersOf_add silent]
    exact waiting.hears (message ▸ taken.takes)

omit chance in
/-- A side has taken in an answer, as its rotation allows. -/
theorem takes (h : Agree mediators s t c d) {answers : List Message}
    (next : s.inbox = front ++ x :: back) (silent : x.message.announces = false)
    (taken : Agent.TakesIn s.agent c x.message result a c' answers) (own : c'.ownDids ⊆ d.theirDids)
    (waits : ∀ ρ, c'.pendingRotation = .ok (some ρ) → c.pendingRotation = .ok (some ρ))
    {M : Multiset Message} (answered : Message.answersOf (t.underWay s) = x.message ::ₘ M)
    (phase : Phase c' d (Message.announcementsOf (s.underWay t)) M) :
    Agree mediators (s.received (front ++ back) x result a) t c' d := by
  obtain ⟨rfl, theirDid, theirDids⟩ := taken.takes.of_silent silent
  have unanswered : s.outbox ++ Side.answerOf result = s.outbox := by
    rw [taken.answer]
    exact List.append_nil _
  let s' : Side := s.received (front ++ back) x result a
  have goes : s'.underWay (t.gets []) = s.underWay t := by
    rw [t.gets_nil, Side.underWay, Side.underWay, ← unanswered]
    rfl
  have comes : t.underWay s = x.message ::ₘ t.underWay s' := Side.underWay_receives next rfl
  rw [← t.gets_nil]
  refine h.turn taken.continues taken.stored taken.takes.carries own
    (fun ρ waits' => .inl (waits ρ waits')) (fun did mem => .inl (theirDids ▸ mem))
    (fun o mem => .inl (unanswered ▸ mem)) (fun y left => Side.mem_of_left next left)
    (List.forall_mem_nil _) goes rfl ?_ ?_
  · rw [comes, Message.answersOf_cons_of_silent silent] at answered
    exact (Multiset.cons_inj_right _).mp answered ▸ phase
  · have kept := h.back.phase
    rw [comes, Message.announcementsOf_cons_of_silent silent] at kept
    exact kept.congr rfl rfl theirDid

/-- A side receives an answer to its announcement. -/
theorem answered (h : Agree mediators s t c d) (next : s.inbox = front ++ x :: back)
    (silent : x.message.announces = false)
    (run : (Agent.receive x.envelope).run s.agent = (result, a)) :
    ∃ c', c'.id = c.id ∧ Agree mediators (s.received (front ++ back) x result a) t c' d := by
  have addressed := h.arrived next
  obtain ⟨p, r, q, u, told, sender, owns, answer, holds⟩ := addressed.sealed
  have comes : Message.answersOf (t.underWay s)
      = x.message ::ₘ Message.answersOf (t.underWay (s.received (front ++ back) x result a)) := by
    rw [← Message.answersOf_cons_of_silent silent]
    exact congrArg _ (Side.underWay_receives next rfl)
  have phase := h.forth.phase
  rw [comes] at phase
  obtain ⟨unasked, unanswered, ρ, pending, ⟨n, ack, follows, thread⟩ | ⟨⟨n, report⟩, agree⟩⟩ :=
    phase.of_answer
  · -- an acknowledgement is never dropped, or the other side would be ahead for good
    obtain ⟨found, checked⟩ := h.accepts told sender owns (answer silent)
    rw [ack] at holds
    have taken := Agent.receiveAck_takes found owns.held holds (ack ▸ addressed.readable)
      (ack ▸ addressed.rotation) checked h.here.completed pending thread run
    have done : (c.commitRotation ρ).next.pendingRotation = .ok none := c.pendingRotation_dropRotation
    refine ⟨(c.commitRotation ρ).next, rfl, h.takes next silent (ack ▸ taken) (fun did mem => ?_)
      (fun ρ' waits => ?_) comes (.settled done follows unasked unanswered)⟩
    · rcases Connection.mem_ownDids_commitRotation.mp mem with rfl | before
      · exact Connection.mem_theirDids_of_theirDid follows
      · exact h.forth.follows.own before
    · cases done.symm.trans waits
  · obtain ⟨c', answers, taken⟩ := owns.receive_takes h.here.stored holds addressed.readable
      addressed.rotation run
    have takes := taken.takes
    rw [report] at takes
    cases takes with
    | drops =>
      exact ⟨c, rfl, h.takes next silent taken h.forth.follows.own (fun _ waits => waits) comes
        (.lost pending agree unasked unanswered)⟩
    | abandons =>
      have done : c.dropRotation.next.pendingRotation = .ok none := c.pendingRotation_dropRotation
      refine ⟨c.dropRotation.next, rfl, h.takes next silent taken h.forth.follows.own
        (fun ρ' waits => ?_) comes (.settled done agree unasked unanswered)⟩
      cases done.symm.trans waits

end Receiving

/-- A side does something. -/
theorem rotates (lawful : suite.Lawful) (drawn : chance.Lawful) (h : Agree mediators s t c d)
    {parcels : List Parcel} (does : s.Rotates mediators c.id parcels s') :
    ∃ c', c'.id = c.id ∧ Agree mediators s' (t.gets parcels) c' d := by
  cases does with
  | prepares run =>
    rw [t.gets_nil]
    exact ⟨c, rfl, h.prepares run⟩
  | announces stored ready mediated run new =>
    rw [t.gets_nil]
    cases h.here.stored.symm.trans stored
    exact h.announces ready mediated run new
  | sends next run => exact ⟨c, rfl, h.sends lawful drawn next run⟩
  | @receives front back x result a next run =>
    rw [t.gets_nil]
    rcases Message.announcement x.message with ⟨m, message⟩ | silent
    · exact h.hears next message run
    · exact h.answered next silent run

/-- One of the sides does something. -/
theorem next (lawful : suite.Lawful) (drawn : chance.Lawful) {w w' : World}
    (h : Agree mediators w.requester w.responder c d)
    (does : w.Rotates mediators c.id d.id w') :
    ∃ c' d', c'.id = c.id ∧ d'.id = d.id ∧ Agree mediators w'.requester w'.responder c' d' := by
  cases does with
  | requester rotates =>
    obtain ⟨c', same, agree⟩ := h.rotates lawful drawn rotates
    exact ⟨c', d, same, rfl, agree⟩
  | responder rotates =>
    obtain ⟨d', same, agree⟩ := h.symm.rotates lawful drawn rotates
    exact ⟨c, d', rfl, same, agree.symm⟩

/-- Both sides do something, any number of times. -/
theorem run (lawful : suite.Lawful) (drawn : chance.Lawful) {w w' : World}
    (h : Agree mediators w.requester w.responder c d)
    (run : Relation.ReflTransGen (World.Rotates mediators c.id d.id) w w') :
    ∃ c' d', c'.id = c.id ∧ d'.id = d.id ∧ Agree mediators w'.requester w'.responder c' d' := by
  induction run with
  | refl => exact ⟨c, d, rfl, rfl, h⟩
  | tail _ does ih =>
    obtain ⟨c₁, d₁, sameC, sameD, agree⟩ := ih
    rw [← sameC, ← sameD] at does ⊢
    exact agree.next lawful drawn does

end Steps

end Agree

end Knowledge

end Pairwise
