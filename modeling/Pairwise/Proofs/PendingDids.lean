import Pairwise.Proofs.RotationAgreement
/-!
# Messages for a DID that waits

The other side of a connection goes by a new DID as soon as it has followed the announcement, and seals
what it sends for the key of that DID. The side that has announced it keeps the DID in the notes of its
connection until the acknowledgement has come, and finds the connection of a key without a look at the
notes. So a message that overtakes the acknowledgement finds no connection, and where the
acknowledgement is lost no message ever does.

Results:
* `Owns.connectionOfKey_iff`: the key of a DID leads to the connection exactly if the connection goes or
  went by the DID.
* `Agree.continues`: a side keeps its DIDs for whole runs.
* `rotation_leads_iff`: which messages of the other side find the connection.
* `rotation_loses`: those for a DID that waits do not.
-/
namespace Pairwise

open Relation (ReflTransGen)

section Waiting

variable [suite : Suite]

/-! ## Which keys lead to a connection -/

namespace Agent

variable {a : Agent} {c : Connection} {p : PeerDid} {r : Routing}

/-- A connection that waits for no answer is found by the DIDs that it goes or went by, and by no
others. -/
theorem Owns.connectionOfKey_iff (owns : a.Owns c.id p r)
    (stored : a.connections.find? c.id = some c) {did : String} (named : c.did = some did)
    (answered : c.state ≠ .invitationSent) :
    a.connectionOfKey r.recipientKey = .ok (some c) ↔ p.did ∈ c.ownDids := by
  refine ⟨fun found => ?_, owns.connectionOfKey stored named⟩
  obtain ⟨record, own, same⟩ := owns.own
  rw [Agent.connectionOfKey, own] at found
  obtain ⟨q, hq, one⟩ := firstOf_eq_some found
  obtain ⟨-, accepted⟩ := Store.mem_query.mp (one ▸ List.mem_cons_self)
  rcases List.mem_cons.mp hq with rfl | hq
  · obtain rfl := (Connection.accepts_did_of_some named).mp accepted
    exact same ▸ Connection.mem_ownDids_of_did named
  rcases List.mem_cons.mp hq with rfl | hq
  · exact same ▸ List.mem_append_right _ (Connection.accepts_previousDids.mp accepted)
  rw [List.mem_singleton.mp hq, Query.accepts_and] at accepted
  exact absurd (Connection.accepts_state.mp accepted.2) answered

end Agent

namespace Agree

variable [chance : Chance] {mediators : Wallet} {s s' t : Side} {c d : Connection}

/-! ## What a side keeps -/

/-- Whatever a side does, it keeps its DIDs. -/
theorem rotates_continues (lawful : suite.Lawful) (drawn : chance.Lawful)
    (h : Agree mediators s t c d) {parcels : List Parcel}
    (does : s.Rotates mediators c.id parcels s') : Agent.Continues c.id s.agent s'.agent := by
  cases does with
  | prepares run => exact (Agent.freshRouting_continues _ c.id).of_run run
  | @announces _ r result a stored ready mediated run new =>
    cases h.here.stored.symm.trans stored
    rcases result with error | ⟨m, c'⟩
    · exact (Agent.createRotate_fails ready run).1
    · obtain ⟨-, -, -, -, continues, -⟩ := Agent.createRotate_announces ready run (new m c' rfl)
      exact continues
  | sends next run =>
    obtain ⟨p, r, q, u, e, a', posted, drew, -⟩ := h.posts lawful drawn (h.outgoing next)
    cases posted.symm.trans run
    exact drew.continues
  | receives next run =>
    have addressed := h.arrived next
    obtain ⟨_, _, q, u, -, -, owns, -, holds⟩ := addressed.sealed
    obtain ⟨c', answers, taken⟩ := owns.receive_takes h.here.stored holds addressed.readable
      addressed.rotation run
    exact taken.continues

/-- By induction on the run: what the other side does leaves the agent as it is. -/
theorem continues (lawful : suite.Lawful) (drawn : chance.Lawful) {w w' : World}
    (h : Agree mediators w.requester w.responder c d)
    (run : ReflTransGen (World.Rotates mediators c.id d.id) w w') :
    Agent.Continues c.id w.requester.agent w'.requester.agent := by
  induction run with
  | refl => exact refl w.requester.agent
  | tail before does ih =>
    obtain ⟨c₁, d₁, id, -, agree⟩ := h.run lawful drawn before
    refine IsTrans.trans _ _ _ ih ?_
    cases does with
    | requester rotates =>
      rw [← id] at rotates ⊢
      exact agree.rotates_continues lawful drawn rotates
    | responder rotates => exact refl _

/-- What the other side sends, addressed with DIDs that the two sides have or had, is sealed for the key
of one of the side's DIDs. -/
theorem posts_owned (lawful : suite.Lawful) (drawn : chance.Lawful) (h : Agree mediators s t c d)
    {o : Outbound} (readable : o.message.Readable)
    (sender : ∃ did ∈ d.ownDids, o.connection.did = some did)
    (receiver : ∃ did ∈ d.theirDids, o.connection.theirDid = some did) :
    ∃ p r k e b, o.connection.theirDid = some p.did ∧ s.agent.Owns c.id p r ∧
      (Agent.post mediators o).run t.agent = (.ok e, b) ∧
      e.Holds o.message.toJson [r.recipientKey] (some k) := by
  obtain ⟨x, here, sends⟩ := sender
  obtain ⟨y, there, hears⟩ := receiver
  obtain ⟨q, u, rfl, owns', -, -⟩ := h.back.follows.shared x (h.back.follows.own here)
  obtain ⟨p, r, rfl, owns, told, mediated⟩ := h.forth.follows.shared y there
  obtain ⟨e, b, posted, -, holds⟩ :=
    owns'.post_run lawful drawn told sends hears readable mediated
  exact ⟨p, r, u.recipientKey, e, b, hears, owns, posted, holds⟩

end Agree

/-! ## What finds the connection -/

/-- Two sides that are linked rotate their connection. Whatever message the other side makes at any
point of the run, addressed with a DID by which it knows this side, it can send; and at any later point
the message finds the connection exactly if the connection goes or went by that DID. For a DID that
waits this is when the acknowledgement has been taken in, and not before. -/
theorem rotation_leads_iff [chance : Chance] (lawful : suite.Lawful) (drawn : chance.Lawful)
    {mediators : Wallet} {w w₁ w₂ : World} {c d d₁ : Connection} (linked : w.Linked mediators c d)
    (before : ReflTransGen (World.Rotates mediators c.id d.id) w w₁)
    (after : ReflTransGen (World.Rotates mediators c.id d.id) w₁ w₂)
    (stored : w₁.responder.agent.connections.find? d.id = some d₁) {o : Outbound}
    (readable : o.message.Readable) (sender : ∃ did ∈ d₁.ownDids, o.connection.did = some did)
    (receiver : ∃ did ∈ d₁.theirDids, o.connection.theirDid = some did) :
    ∃ did key k e b c₂, o.connection.theirDid = some did ∧
      (Agent.post mediators o).run w₁.responder.agent = (.ok e, b) ∧
      e.Holds o.message.toJson [key] (some k) ∧
      w₂.requester.agent.connections.find? c.id = some c₂ ∧
      (w₂.requester.agent.connectionOfKey key = .ok (some c₂) ↔ did ∈ c₂.ownDids) := by
  obtain ⟨c₁, d', sameC, sameD, agree₁⟩ := linked.agree.run lawful drawn before
  obtain rfl : d' = d₁ := Option.some.inj ((sameD ▸ agree₁.there.stored).symm.trans stored)
  rw [← sameC, ← sameD] at after
  obtain ⟨c₂, d₂, sameC₂, -, agree₂⟩ := agree₁.run lawful drawn after
  obtain ⟨p, r, k, e, b, names, owns, posted, holds⟩ :=
    agree₁.posts_owned lawful drawn readable sender receiver
  have owns₂ : w₂.requester.agent.Owns c₂.id p r :=
    sameC₂ ▸ owns.continues (agree₁.continues lawful drawn after)
  obtain ⟨did, named⟩ := Option.isSome_iff_exists.mp agree₂.here.did
  refine ⟨p.did, r.recipientKey, k, e, b, c₂, names, posted, holds,
    sameC₂.trans sameC ▸ agree₂.here.stored, ?_⟩
  exact owns₂.connectionOfKey_iff agree₂.here.stored named (agree₂.here.completed ▸ nofun)

end Waiting

/-! ## A message that overtakes the acknowledgement -/

section Plain

attribute [local instance] Suite.plain Chance.counting

/-- One of two linked agents has announced a DID. The other one has followed the announcement, and the
acknowledgement is under way. -/
theorem World.between_followed : ∃ (w w' : World) (c d c' d' : Connection) (m : Rotate),
    w.Linked {} c d ∧ ReflTransGen (World.Rotates {} c.id d.id) w w' ∧ c'.id = c.id ∧ d'.id = d.id ∧
      Agree {} w'.requester w'.responder c' d' ∧ .rotate m ∈ w'.responder.heard ∧
      d'.theirDid = some m.did ∧ m.did ∉ c'.ownDids := by
  obtain ⟨w, w₁, c, d, c', m, a, linked, prepares, still, agree, new, form, r, ready, direct,
    announced⟩ := World.between_announces
  obtain ⟨a', b', heard, heard', n, d', follows, sameC, sameD, agree', own, theirs, knows⟩ :=
    agree.acknowledged Suite.plain_lawful Chance.counting_lawful still ready
      (direct ▸ List.forall_mem_nil _) announced new form
  exact ⟨w, _, c, d, c', d', m, linked, (ReflTransGen.single prepares).trans follows, sameC, sameD,
    agree', knows, theirs, own ▸ new.not_mem agree.here.stored⟩

/-- An announcement of the other side's own. -/
def Message.plainRotate : Message := .rotate (.new "announcement" "did:peer:2")

theorem Message.plainRotate_readable : plainRotate.Readable := Rotate.readable rfl nofun

/-- While the acknowledgement is under way, what the other side sends next is for the DID that waits. -/
theorem rotation_leads_iff_plain : ∃ (w w' : World) (c d c' d' : Connection) (did : String)
    (key k : Key) (e : Envelope) (b : Agent), w.Linked {} c d ∧
      ReflTransGen (World.Rotates {} c.id d.id) w w' ∧
      w'.responder.agent.connections.find? d.id = some d' ∧ d'.theirDid = some did ∧
      (Agent.post {} ⟨.plainRotate, d'⟩).run w'.responder.agent = (.ok e, b) ∧
      e.Holds Message.plainRotate.toJson [key] (some k) ∧
      w'.requester.agent.connections.find? c.id = some c' ∧ did ∉ c'.ownDids ∧
      (w'.requester.agent.connectionOfKey key = .ok (some c') ↔ did ∈ c'.ownDids) := by
  obtain ⟨w, w', c, d, c', d', m, linked, run, sameC, sameD, agree, -, theirs, waits⟩ :=
    World.between_followed
  have stored := sameD ▸ agree.there.stored
  obtain ⟨own, named⟩ := Option.isSome_iff_exists.mp agree.there.did
  obtain ⟨did, key, k, e, b, c₂, names, posted, holds, stored', leads⟩ :=
    rotation_leads_iff Suite.plain_lawful Chance.counting_lawful linked run .refl stored
      (o := ⟨.plainRotate, d'⟩) Message.plainRotate_readable
      ⟨own, Connection.mem_ownDids_of_did named, named⟩
      ⟨m.did, Connection.mem_theirDids_of_theirDid theirs, theirs⟩
  obtain rfl : c' = c₂ := Option.some.inj ((sameC ▸ agree.here.stored).symm.trans stored')
  obtain rfl : m.did = did := Option.some.inj (theirs.symm.trans names)
  exact ⟨w, w', c, d, c', d', m.did, key, k, e, b, linked, run, stored, names, posted, holds, stored',
    waits, leads⟩

/-- Not everything finds the connection that the other side sends on it after it has followed an
announcement. -/
theorem rotation_loses : ¬ ∀ (w w' : World) (c d c' d' : Connection) (m : Rotate) (n : Message)
    (e : Envelope) (b : Agent) (key k : Key), w.Linked {} c d →
      ReflTransGen (World.Rotates {} c.id d.id) w w' →
      w'.requester.agent.connections.find? c.id = some c' →
      w'.responder.agent.connections.find? d.id = some d' →
      .rotate m ∈ w'.responder.heard → d'.theirDid = some m.did →
      (Agent.post {} ⟨n, d'⟩).run w'.responder.agent = (.ok e, b) →
      e.Holds n.toJson [key] (some k) →
      w'.requester.agent.connectionOfKey key = .ok (some c') := by
  intro attributed
  obtain ⟨w, w', c, d, c', d', m, linked, run, sameC, sameD, agree, knows, theirs, waits⟩ :=
    World.between_followed
  obtain ⟨own, named⟩ := Option.isSome_iff_exists.mp agree.there.did
  obtain ⟨p, r, k, e, b, names, owns, posted, holds⟩ :=
    agree.posts_owned Suite.plain_lawful Chance.counting_lawful (o := ⟨.plainRotate, d'⟩)
      Message.plainRotate_readable ⟨own, Connection.mem_ownDids_of_did named, named⟩
      ⟨m.did, Connection.mem_theirDids_of_theirDid theirs, theirs⟩
  have found := attributed w w' c d c' d' m .plainRotate e b r.recipientKey k linked run
    (sameC ▸ agree.here.stored) (sameD ▸ agree.there.stored) knows theirs posted holds
  obtain ⟨did, current⟩ := Option.isSome_iff_exists.mp agree.here.did
  have mem : p.did ∈ c'.ownDids :=
    (owns.connectionOfKey_iff agree.here.stored current (agree.here.completed ▸ nofun)).mp found
  exact waits (Option.some.inj (theirs.symm.trans names) ▸ mem)

end Plain

end Pairwise
