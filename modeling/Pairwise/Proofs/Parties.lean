import Pairwise.Proofs.Conversations
import Pairwise.Proofs.ExchangeRuns
/-!
# The parties of an exchange

A party has a DID of its own on the connection that it stored last, and the key of the DID leads to
no other connection. What arrives for that key is handled on the connection, and what is sent on it
bears the key.

Results:
* `Agent.Party`: an agent that has told a routing on its last connection.
* `Agent.Acquainted`: a party that knows the other side.
* `Party.drawn`, `Party.moves`: a party stays one while it draws, moves the connection, and takes in
  DIDs of others.
* `receiveResponse_run`, `receiveComplete_run`: the parties receive what ends the exchange.
-/
namespace Pairwise

variable [suite : Suite]

/-- How far a connection is in the exchange for an invitation: on which side, in which state, under
which DIDs, and in which thread. -/
structure Connection.At (c : Connection) (i : Invitation) (role : ExchangeRole)
    (state : ExchangeState) (did theirDid thread : Option String) : Prop where
  invitation : c.invitation = some i
  role : c.role = role
  state : c.state = state
  did : c.did = did
  theirDid : c.theirDid = theirDid
  thread : c.threadId = thread

/-- The connection has no tags but those of its fields, no notes, and no DIDs of before. -/
def Connection.Plain (c : Connection) : Prop :=
  c.customTags = [] ∧ c.metadata = {} ∧ c.previousDids = [] ∧ c.previousTheirDids = []

omit suite in
/-- No rotation waits on it. -/
theorem Connection.Plain.pendingRotation {c : Connection} (h : c.Plain) :
    c.pendingRotation = .ok none := by
  rw [Connection.pendingRotation, h.2.1]
  rfl

namespace Agent

/-- The agent has a DID of its own for a routing, on the connection that it stored last. -/
structure Party (a : Agent) (front : List Connection) (c : Connection) (p : PeerDid) (r : Routing) :
    Prop where
  last : a.connections.records = front ++ [c]
  others : ∀ c' ∈ front, (Query.on "did" p.did).accepts c'.tags = false
  plain : c.Plain
  did : c.did = some p.did
  sound : r.Sound
  made : p.Made r
  known : a.dids.Knows p
  own : ∃ record, a.didsOfKey r.recipientKey = [record] ∧ record.did = p.did
  held : a.wallet.holds r.recipientKey = true

/-- The party knows the DID of the other side. -/
structure Acquainted (a : Agent) (front : List Connection) (c : Connection) (p : PeerDid)
    (r : Routing) (q : PeerDid) : Prop extends Party a front c p r where
  knows : a.dids.Knows q

variable {a a' : Agent} {front : List Connection} {c c' : Connection} {p q : PeerDid} {r s : Routing}

/-! ## What stays -/

/-- The DIDs of a key when more have been stored. -/
theorem didsOfKey_append {more : List DidRecord} (h : a'.dids.records = a.dids.records ++ more)
    (key : Key) : a'.didsOfKey key = a.didsOfKey key ++ more.filter fun record =>
      ((Query.on "role" DidRole.created.name).and "recipientKeyFingerprints"
        key.fingerprint).accepts record.tags := Store.query_append h _

/-- DIDs of others do not belong to a key. -/
theorem didsOfKey_received {more : List DidRecord} (h : a'.dids.records = a.dids.records ++ more)
    (received : ∀ record ∈ more, record.role = .received) (key : Key) :
    a'.didsOfKey key = a.didsOfKey key := by
  have none : (more.filter fun record => ((Query.on "role" DidRole.created.name).and
      "recipientKeyFingerprints" key.fingerprint).accepts record.tags) = [] := by
    refine List.filter_eq_nil_iff.mpr fun record hrecord accepted => ?_
    have created := (DidRecord.accepts_key.mp accepted).1
    rw [received record hrecord] at created
    cases created
  rw [didsOfKey_append h, none, List.append_nil]

/-- A DID that was made for a routing belongs to its key. -/
theorem didsOfKey_created {record : DidRecord} (h : a'.dids.records = a.dids.records ++ [record])
    (isOf : record.Of .created p r) :
    a'.didsOfKey r.recipientKey = a.didsOfKey r.recipientKey ++ [record] := by
  have accepted : ((Query.on "role" DidRole.created.name).and "recipientKeyFingerprints"
      r.recipientKey.fingerprint).accepts record.tags = true := by
    refine DidRecord.accepts_key.mpr ⟨isOf.role, ?_⟩
    rw [isOf.fingerprints]
    exact List.mem_cons_self
  rw [didsOfKey_append h, List.filter_cons, if_pos accepted, List.filter_nil]

/-- It belongs to no other key. -/
theorem didsOfKey_other {record : DidRecord} {role : DidRole}
    (h : a'.dids.records = a.dids.records ++ [record]) (isOf : record.Of role p r)
    (usable : r.recipientKey.Usable) {key : Key} (usable' : key.Usable) (other : r.recipientKey ≠ key) :
    a'.didsOfKey key = a.didsOfKey key := by
  rw [didsOfKey_append h, List.filter_eq_nil_iff.mpr, List.append_nil]
  refine List.forall_mem_singleton.mpr fun accepted => other ?_
  have same := (DidRecord.accepts_key.mp accepted).2
  rw [isOf.fingerprints, List.mem_singleton] at same
  exact (Key.fingerprint_inj usable'.sized usable.sized same).symm

/-- A DID that is stored is known from then on. -/
theorem Moves.knows {n : Nat} {record : DidRecord} {role : DidRole} {cs : List Connection}
    (moves : Moves a a' n [record] cs) (isOf : record.Of role p r) : a'.dids.Knows p := by
  refine .of_mem ?_ isOf
  rw [moves.dids]
  exact List.mem_append_right _ List.mem_cons_self

/-- A DID that was not stored is not stored with another. -/
theorem Moves.unknown {n : Nat} {record : DidRecord} {role : DidRole} {cs : List Connection}
    (moves : Moves a a' n [record] cs) (isOf : record.Of role p r) {did : String}
    (new : a.dids.find? did = none) (apart : p.did ≠ did) : a'.dids.find? did = none :=
  Store.find?_eq_none_append moves.dids new
    (List.forall_mem_singleton.mpr fun same => apart (isOf.did.symm.trans same))

namespace Party

variable (h : Party a front c p r)

include h

theorem drawn (drew : Drawn a a') : Party a' front c p r where
  last := drew.connections ▸ h.last
  others := h.others
  plain := h.plain
  did := h.did
  sound := h.sound
  made := h.made
  known := drew.dids ▸ h.known
  own := by
    rw [didsOfKey, drew.dids]
    exact h.own
  held := drew.wallet ▸ h.held

theorem moves {n : Nat} {more : List DidRecord} (moves : Moves a a' n more (front ++ [c']))
    (received : ∀ record ∈ more, record.role = .received) (plain : c'.Plain)
    (did : c'.did = some p.did) : Party a' front c' p r where
  last := moves.connections
  others := h.others
  plain := plain
  did := did
  sound := h.sound
  made := h.made
  known := h.known.append moves.dids
  own := by
    rw [didsOfKey_received moves.dids received]
    exact h.own
  held := moves.wallet ▸ h.held

/-! ## Finding and sending -/

/-- The key of the party leads to its connection. -/
theorem connectionOfKey : a.connectionOfKey r.recipientKey = .ok (some c) := by
  obtain ⟨record, own, did⟩ := h.own
  refine connectionOfKey_own own ?_
  rw [did]
  exact Store.query_last h.last h.others ((Connection.accepts_did h.plain.1).mpr h.did)

/-- The party sends in the name of its key. -/
theorem senderKey : a.senderKey c = .ok (some r.recipientKey) :=
  senderKey_did h.made (.inr h.known) h.did

variable [chance : Chance]

/-- What the party sends arrives in its name. -/
theorem post_run (lawful : suite.Lawful) (drawn : chance.Lawful) (sound : s.Sound)
    (way : SendsTo a c s) {m : Message} (readable : m.Readable) {mediators : Wallet}
    (mediated : ∀ k ∈ s.routingKeys, mediators.holds k = true) :
    ∃ e a', (post mediators ⟨m, c⟩).run a = (.ok e, a') ∧ Party a' front c p r ∧ Drawn a a' ∧
      e.Holds m.toJson [s.recipientKey] (some r.recipientKey) := by
  obtain ⟨e, a', hpost, drew, holds⟩ := Agent.post_run lawful drawn sound way h.senderKey
    h.sound.recipient.signs h.held readable mediated
  exact ⟨e, a', hpost, h.drawn drew, drew, holds⟩

/-- What arrives for the key of the party is handled on its connection. -/
theorem receive_run {e : Envelope} {m : Message} {sender : Option Key}
    (holds : e.Holds m.toJson [r.recipientKey] sender) (readable : m.Readable)
    (checked : checkSender m c sender a = .ok ()) : (receive e).run a = (handle m c).run a :=
  Agent.receive_run holds readable h.held h.connectionOfKey checked

/-! ## The end of an exchange -/

variable {i : Invitation} {thread : String}

/-- The requester takes in the response to its request, and completes the exchange. -/
theorem receiveResponse_run (stage : c.At i .requester .requestSent (some p.did) none (some thread))
    {keys : List Key} (hkeys : i.recipients = .ok keys) (accepting : accepts c a.settings = true)
    (made : q.Made s) (new : a.dids.find? q.did = none) {id : String} {attachment : Attachment}
    (plain : attachment.Plain) (told : theirPeerDid q.did (some attachment) keys = .ok q)
    {e : Envelope} {sender : Option Key}
    (holds : e.Holds (Message.response (.telling id q.did thread attachment)).toJson
      [r.recipientKey] sender) :
    ∃ m c' a', (receive e).run a = (.ok (some ⟨.complete m, c'⟩), a') ∧
      m = Complete.new m.id thread (some i.id) ∧ c'.id = c.id ∧
      c'.At i .requester .completed (some p.did) (some q.did) (some thread) ∧
      Party a' front c' p r ∧ a'.dids.Knows q := by
  have checked : checkSender (.response (.telling id q.did thread attachment)) c sender a
      = .ok () := checkSender_stranger stage.theirDid rfl
  obtain ⟨a₁, record, hprocess, isOf, moves₁⟩ := processResponse_run
    (m := .telling id q.did thread attachment) made rfl stage.invitation hkeys told new h.last
    stage.role stage.state stage.thread
  have after := h.moves moves₁ (List.forall_mem_singleton.mpr isOf.role) h.plain h.did
  obtain ⟨m, a', hcreate, hm, moves₂⟩ := createComplete_run after.last stage.role rfl stage.thread
    stage.invitation
  have known : a₁.dids.Knows q := moves₁.knows isOf
  refine ⟨m, (c.responseReceived q.did).next.completed.next, a', ?_, hm, rfl,
    ⟨stage.invitation, stage.role, rfl, stage.did, rfl, stage.thread⟩,
    after.moves moves₂ (List.forall_mem_nil _) h.plain h.did, known.append moves₂.dids⟩
  rw [h.receive_run holds (Response.telling_readable _ _ _ plain) checked]
  refine handle_run ?_
  have accepting' : accepts (c.responseReceived q.did).next a.settings = true := accepting
  rw [dispatch, Step.bind_view]
  dsimp only
  rw [Step.bind_ok hprocess, if_pos accepting', Step.bind_ok hcreate]
  rfl

/-- The responder takes in the completion of its exchange. -/
theorem receiveComplete_run
    (stage : c.At i .responder .responseSent (some p.did) (some q.did) (some thread))
    (made : q.Made s) (known : a.dids.Knows q) {id : String} {e : Envelope}
    (holds : e.Holds (Message.complete (.new id thread (some i.id))).toJson [r.recipientKey]
      (some s.recipientKey)) :
    ∃ c' a', (receive e).run a = (.ok none, a') ∧ c'.id = c.id ∧
      c'.At i .responder .completed (some p.did) (some q.did) (some thread) ∧
      Acquainted a' front c' p r q := by
  obtain ⟨d, hd, tells, -⟩ := made.resolve (.inr known)
  have parent : c.invitationId = some i.id := Connection.invitationId_eq stage.invitation
  obtain ⟨a', hprocess, moves⟩ := processComplete_run (m := .new id thread (some i.id)) h.last
    stage.role stage.state stage.thread ⟨by rw [parent]; rfl, parent⟩
  refine ⟨c.completed.next, a', ?_, rfl, ⟨stage.invitation, stage.role, rfl, stage.did,
    stage.theirDid, stage.thread⟩, h.moves moves (List.forall_mem_nil _) h.plain h.did,
    known.append moves.dids⟩
  rw [h.receive_run holds (Complete.new_readable _ _ _)
    (checkSender_known stage.theirDid hd tells.recipientKeys)]
  refine handle_run ?_
  rw [dispatch, Step.bind_view]
  dsimp only
  rw [Step.bind_ok hprocess]
  rfl

end Party

end Agent

end Pairwise
