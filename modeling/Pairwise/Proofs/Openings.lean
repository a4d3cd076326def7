import Pairwise.Proofs.Parties
/-!
# How an exchange opens

An invitation waits for its answer. A request makes the requester a party of the exchange, and the
answer to it the responder: on the connection of the invitation, or on a new one with a key of its
own if the invitation is for many.

Results:
* `Agent.Waiting`: an agent whose last connection waits for answers to its invitation.
* `receiveInvitation_tells`, `createRequest_party`: the requester takes the invitation in and becomes a
  party.
* `Waiting.receive_answered`, `Waiting.receiveRequest_run`, `Waiting.receiveRequest_fork`: the responder
  does.
* `Waiting.takes_fork`, `Waiting.receiveRequest_waits`: the responder has taken a request in and is still
  to answer it.
-/
namespace Pairwise

variable [suite : Suite]

/-- What an invitation keeps of a routing: of its endpoints the first. -/
def Routing.invited (r : Routing) : Routing := { r with endpoints := r.endpoints.take 1 }

theorem Routing.Sound.invited {r : Routing} (h : r.Sound) : r.invited.Sound where
  endpoints := by
    obtain ⟨first, rest, endpoints⟩ := List.exists_cons_of_ne_nil h.endpoints
    rw [Routing.invited, endpoints]
    exact List.cons_ne_nil _ _
  recipient := h.recipient
  mediators := h.mediators

/-- An answer without a routing of its own tells what the invitation keeps. -/
theorem Invitation.Tells.responseRouting_eq {i : Invitation} {r : Routing} (tells : i.Tells r)
    (sound : r.Sound) {c : Connection} (mediator : c.mediatorId = r.mediatorId) (settings : Settings) :
    Agent.responseRouting c i r.recipientKey settings none = .ok r.invited := by
  obtain ⟨first, rest, endpoints⟩ := List.exists_cons_of_ne_nil sound.endpoints
  rw [Agent.responseRouting, Agent.invitationRouting, tells.routing_read sound, tells.endpoint, mediator,
    Routing.invited, endpoints]
  rfl

namespace Agent

/-- No DID and no invitation that the agent has stored is for the key. -/
structure Unused (a : Agent) (k : Key) : Prop where
  dids : a.didsOfKey k = []
  invitations : a.connections.query (.on "invitationKey" k.base58) = []

/-- The agent has stored neither the DID nor a connection under it. -/
structure Unknown (a : Agent) (p : PeerDid) : Prop where
  dids : a.dids.find? p.did = none
  connections : a.connections.query (.on "did" p.did) = []

variable {a a' b : Agent} {front : List Connection} {c : Connection} {i : Invitation}
  {p q : PeerDid} {r s : Routing}

/-- None of the connections that were stored is under an unknown DID. -/
theorem Unknown.others (h : a.Unknown p) :
    ∀ c ∈ a.connections.records, (Query.on "did" p.did).accepts c.tags = false := by
  intro c hc
  rw [Bool.eq_false_iff]
  exact List.filter_eq_nil_iff.mp h.connections c hc

/-- An agent becomes a party when it stores a new DID for a key that it has not used. -/
theorem Party.of_moves {n : Nat} {record : DidRecord} (moves : Moves a a' n [record] (front ++ [c]))
    (isOf : record.Of .created p r)
    (others : ∀ c' ∈ front, (Query.on "did" p.did).accepts c'.tags = false)
    (plain : c.Plain) (did : c.did = some p.did) (sound : r.Sound) (made : p.Made r)
    (unused : a.didsOfKey r.recipientKey = []) (held : a.wallet.holds r.recipientKey = true) :
    Party a' front c p r where
  last := moves.connections
  others := others
  plain := plain
  did := did
  sound := sound
  made := made
  known := moves.knows isOf
  own := by
    refine ⟨record, ?_, isOf.did⟩
    rw [didsOfKey_created moves.dids isOf, unused]
    rfl
  held := moves.wallet ▸ held

variable [chance : Chance]

/-! ## The request -/

/-- The DID that the agent makes next for a routing is new to it. -/
structure Makes (a : Agent) (r : Routing) (p : PeerDid) : Prop where
  form : a.settings.exchangeForm ≠ .inceptionKey
  peer : r.peerDid a.settings.exchangeForm (chance.uuid a.draws.ids)
    (chance.uuid (a.draws.ids + 1)) = .ok p
  unknown : a.Unknown p

theorem Makes.made (h : Makes a r p) (sound : r.Sound) : p.Made r :=
  Routing.made_of_peerDid sound h.form h.peer

/-- The routing with a key of its own that the agent makes next. -/
def nextRouting (a : Agent) : Routing where
  endpoints := a.settings.endpoints
  recipientKey := Wallet.keyOf (chance.seed a.draws.seeds)
  routingKeys := []
  mediatorId := none

theorem nextRouting_sound (lawful : suite.Lawful) (endpoints : a.settings.endpoints ≠ []) :
    (nextRouting a).Sound :=
  ⟨endpoints, Key.usable_keyOf lawful _, List.forall_mem_nil _⟩

/-- The agent once it has made the key. -/
def withNextKey (a : Agent) : Agent :=
  { a with
    wallet := a.wallet.add (chance.seed a.draws.seeds)
    draws := { a.draws with seeds := a.draws.seeds + 1 } }

theorem freshRouting_run (a : Agent) :
    (freshRouting none).run a = (.ok (nextRouting a), withNextKey a) := rfl

/-- Everyone who answers an invitation for many has a routing of their own. -/
theorem answerRouting_many (many : c.multiUse = true) (a : Agent) :
    (answerRouting c).run a = (.ok (some (nextRouting a)), withNextKey a) := by
  rw [answerRouting, if_pos many, Step.bind_ok (freshRouting_run a)]
  rfl

theorem answerRouting_once (once : c.multiUse = false) (a : Agent) :
    (answerRouting c).run a = (.ok none, a) := by
  rw [answerRouting, if_neg (Bool.eq_false_iff.mp once)]
  rfl

/-- An agent without connections and DIDs that takes an invitation in can answer it with a new DID, for a
key that it has. -/
theorem receiveInvitation_tells (connections : a.connections.records = [])
    (dids : a.dids.records = []) (i : Invitation) (autoAccept : Option Bool) (sound : r.Sound)
    (form : a.settings.exchangeForm ≠ .inceptionKey) (held : a.wallet.holds r.recipientKey = true) :
    ∃ c b p, (receiveInvitation i autoAccept).run a = (.ok c, b) ∧ c.Plain ∧
      c.At i .requester .invitationReceived none none none ∧ Moves a b 1 [] ([] ++ [c]) ∧
      r.peerDid a.settings.exchangeForm (chance.uuid (a.draws.ids + 1))
        (chance.uuid (a.draws.ids + 2)) = .ok p ∧ Tells b r p r.recipientKey := by
  obtain ⟨c, b, taken, hc, moves⟩ := receiveInvitation_run (a := a) i autoAccept
    (Store.find?_eq_none.mpr (connections ▸ List.forall_mem_nil _))
  obtain ⟨p, hp, -⟩ := Routing.peerDid_made sound form (chance.uuid (a.draws.ids + 1))
    (chance.uuid (a.draws.ids + 2))
  rw [connections] at moves
  refine ⟨c, b, p, taken, hc ▸ ⟨rfl, rfl, rfl, rfl⟩, hc ▸ ⟨rfl, rfl, rfl, rfl, rfl, rfl⟩, moves, hp, sound,
    ?_, ?_, ?_, sound.recipient.signs, ?_⟩
  · rw [moves.settings]
    exact form
  · rw [moves.settings, moves.ids]
    exact hp
  · refine Store.find?_eq_none_append moves.dids ?_ (List.forall_mem_nil _)
    exact Store.find?_eq_none.mpr (dids ▸ List.forall_mem_nil _)
  · rw [moves.wallet]
    exact held

/-- The requester's request makes it a party. -/
theorem createRequest_party (lawful : suite.Lawful) (sound : r.Sound) (makes : Makes a r p)
    (unused : a.didsOfKey r.recipientKey = []) (held : a.wallet.holds r.recipientKey = true)
    (last : a.connections.records = front ++ [c]) (plain : c.Plain)
    (stage : c.At i .requester .invitationReceived none none none) (options : RequestOptions) :
    ∃ m a' attachment,
      (createRequest c r options).run a = (.ok (m, (c.requestSent r p.did m.id options).next), a') ∧
      m = .telling m.id (options.label.getD a.settings.label) i.id p.did options attachment ∧
      attachment.Plain ∧ theirPeerDid p.did (some attachment) [] = .ok p ∧
      a'.settings = a.settings ∧
      (∀ did, a.dids.find? did = none → p.did ≠ did → a'.dids.find? did = none) ∧
      Party a' front (c.requestSent r p.did m.id options).next p r := by
  have tells : Tells a r p r.recipientKey :=
    ⟨sound, makes.form, makes.peer, makes.unknown.dids, sound.recipient.signs, held⟩
  obtain ⟨m, a', attachment, record, hrequest, hm, plain', told, isOf, moves⟩ :=
    createRequest_run lawful tells last stage.role stage.state stage.invitation options
  have others : ∀ c' ∈ front, (Query.on "did" p.did).accepts c'.tags = false := fun c' hc' =>
    makes.unknown.others c' (last ▸ List.mem_append_left _ hc')
  exact ⟨m, a', attachment, hrequest, hm, plain', told, moves.settings,
    fun _ => moves.unknown isOf,
    .of_moves moves isOf others plain rfl sound (makes.made sound) unused held⟩

/-! ## The answer to it -/

omit chance in
/-- The agent waits, on the connection that it stored last, for answers to an invitation that tells a
routing. -/
structure Waiting (b : Agent) (front : List Connection) (c : Connection) (i : Invitation)
    (r : Routing) : Prop where
  last : b.connections.records = front ++ [c]
  others : ∀ c' ∈ front, (Query.on "invitationKey" r.recipientKey.base58).accepts c'.tags = false
  plain : c.Plain
  stage : c.At i .responder .invitationSent none none none
  mediator : c.mediatorId = r.mediatorId
  tells : i.Tells r
  sound : r.Sound
  unused : b.didsOfKey r.recipientKey = []
  held : b.wallet.holds r.recipientKey = true

namespace Waiting

variable (h : Waiting b front c i r)

include h

omit chance in
/-- The key of the invitation leads to its connection. -/
theorem connectionOfKey : b.connectionOfKey r.recipientKey = .ok (some c) := by
  have first : c.invitationKey = some r.recipientKey.base58 := by
    rw [Connection.invitationKey, h.stage.invitation]
    change i.recipientKeys.head? = _
    rw [h.tells.recipients]
    rfl
  refine connectionOfKey_waiting h.unused (Store.query_last h.last (fun c' hc' => ?_)
    ((Connection.accepts_invitationKey first).mpr h.stage.state))
  rw [Bool.eq_false_iff]
  intro accepted
  have asked := (Query.accepts_and.mp accepted).1
  change (Query.on "invitationKey" r.recipientKey.base58).accepts c'.tags = true at asked
  rw [h.others c' hc'] at asked
  cases asked

omit chance in
/-- A request for the invitation is one for the connection. -/
theorem answers {b' : Agent} (made : p.Made s) {id label : String} {options : RequestOptions}
    {attachment : Attachment} (told : theirPeerDid p.did (some attachment) [] = .ok p)
    (unknown : b'.dids.find? p.did = none) :
    Answers b' c (.telling id label i.id p.did options attachment) p s where
  role := h.stage.role
  state := h.stage.state
  parent := by
    rw [Connection.invitationId_eq h.stage.invitation]
    exact ⟨rfl, rfl⟩
  did := rfl
  made := made
  told := told
  new := unknown

omit chance in
/-- The answer of the invitation's own connection tells the invitation's routing. -/
theorem responseRouting_eq {c' : Connection} (mediator : c'.mediatorId = c.mediatorId)
    (settings : Settings) :
    responseRouting c' i r.recipientKey settings none = .ok r.invited :=
  h.tells.responseRouting_eq h.sound (mediator.trans h.mediator) settings

/-- The request is handed to the connection of the invitation. -/
theorem receive_request {id label did : String} {options : RequestOptions} {attachment : Attachment}
    (plain : attachment.Plain) {e : Envelope} {sender : Option Key}
    (holds : e.Holds (Message.request (.telling id label i.id did options attachment)).toJson
      [r.recipientKey] sender) :
    (receive e).run b = (handle (.request (.telling id label i.id did options attachment)) c).run b :=
  Agent.receive_run holds (Request.telling_readable _ _ _ _ _ plain) h.held h.connectionOfKey
    (checkSender_stranger h.stage.theirDid rfl)

/-- A request that is taken in and accepted is answered. -/
theorem receive_answered {id label did : String} {options : RequestOptions} {attachment : Attachment}
    (plain : attachment.Plain) {e : Envelope} {sender : Option Key}
    (holds : e.Holds (Message.request (.telling id label i.id did options attachment)).toJson
      [r.recipientKey] sender) {given : Option Routing} {b₀ b₁ b' : Agent} {c₁ c' : Connection}
    {m : Response} (routing : (answerRouting c).run b = (.ok given, b₀))
    (taken : (processRequest c (.telling id label i.id did options attachment) given).run b₀
      = (.ok c₁, b₁))
    (accepting : accepts c₁ b.settings = true)
    (created : (createResponse c₁ given).run b₁ = (.ok (m, c'), b')) :
    (receive e).run b = (.ok (some ⟨.response m, c'⟩), b') := by
  rw [h.receive_request plain holds]
  refine handle_run ?_
  rw [dispatch, Step.bind_view]
  dsimp only
  rw [Step.bind_ok routing, Step.bind_ok taken, if_pos accepting, Step.bind_ok created]
  rfl

/-- A request for an invitation that is answered once is answered on its connection. -/
theorem receiveRequest_run (lawful : suite.Lawful) (once : c.multiUse = false)
    (accepting : accepts c b.settings = true) (made : p.Made s) (unknown : b.dids.find? p.did = none)
    (makes : Makes b r.invited q) (apart : p.did ≠ q.did) {id label : String}
    {options : RequestOptions} {attachment : Attachment} (plain : attachment.Plain)
    (told : theirPeerDid p.did (some attachment) [] = .ok p) {e : Envelope} {sender : Option Key}
    (holds : e.Holds (Message.request (.telling id label i.id p.did options attachment)).toJson
      [r.recipientKey] sender) :
    ∃ m c' b' attachment', (receive e).run b = (.ok (some ⟨.response m, c'⟩), b') ∧
      m = .telling m.id q.did id attachment' ∧ attachment'.Plain ∧
      theirPeerDid q.did (some attachment') [r.recipientKey] = .ok q ∧ c'.id = c.id ∧
      c'.At i .responder .responseSent (some q.did) (some p.did) (some id) ∧
      Party b' front c' q r.invited ∧ b'.dids.Knows p := by
  -- the request is taken in
  have answers : Answers b c (.telling id label i.id p.did options attachment) p s :=
    h.answers made told unknown
  obtain ⟨b₁, record, hprocess, isOf, moves₁⟩ := processRequest_run answers h.last once
  have received : ∀ r ∈ [record], r.role = .received := List.forall_mem_singleton.mpr isOf.role
  -- the answer is made of what has not changed since
  let c' : Connection := requested c (.telling id label i.id p.did options attachment)
  have given : responseRouting c'.next i r.recipientKey b₁.settings none = .ok r.invited :=
    h.responseRouting_eq rfl _
  have new : b₁.dids.find? q.did = none := moves₁.unknown isOf makes.unknown.dids apart
  have tells : Tells b₁ r.invited q r.recipientKey := by
    refine ⟨h.sound.invited, moves₁.settings ▸ makes.form, ?_, new, h.sound.recipient.signs,
      moves₁.wallet ▸ h.held⟩
    rw [moves₁.settings, moves₁.ids]
    exact makes.peer
  obtain ⟨m, b', attachment', record', hcreate, hm, plain', told', isOf', moves₂⟩ :=
    createResponse_run lawful tells moves₁.connections h.stage.role rfl rfl
      h.stage.invitation (h.tells.requireKey h.sound) given
  have others : ∀ c' ∈ front, (Query.on "did" q.did).accepts c'.tags = false := fun c' hc' =>
    makes.unknown.others c' (h.last ▸ List.mem_append_left _ hc')
  have party := Party.of_moves moves₂ isOf' others h.plain rfl h.sound.invited
    (makes.made h.sound.invited) (by
      rw [didsOfKey_received moves₁.dids received]
      exact h.unused) (moves₁.wallet ▸ h.held)
  have stage : (c'.next.responseSent r.invited q.did).next.At i .responder .responseSent
      (some q.did) (some p.did) (some id) :=
    ⟨h.stage.invitation, h.stage.role, rfl, rfl, rfl, rfl⟩
  refine ⟨m, (c'.next.responseSent r.invited q.did).next, b', attachment', ?_, hm, plain', told',
    rfl, stage, party, (moves₁.knows isOf).append moves₂.dids⟩
  exact h.receive_answered plain holds (answerRouting_once once b) hprocess accepting hcreate

/-- A request for an invitation for many is taken in on a connection of its own. -/
theorem takes_fork (many : c.multiUse = true)
    (new : b.connections.find? (chance.uuid b.draws.ids) = none) (made : p.Made s)
    (unknown : b.dids.find? p.did = none) {attachment : Attachment}
    (told : theirPeerDid p.did (some attachment) [] = .ok p) (id label : String)
    (options : RequestOptions) :
    ∃ c' b' record,
      (processRequest c (.telling id label i.id p.did options attachment) (some (nextRouting b))).run
        (withNextKey b) = (.ok c', b') ∧
      c'.id = chance.uuid b.draws.ids ∧
      c'.At i .responder .requestReceived none (some p.did) (some id) ∧ c'.Plain ∧
      c'.mediatorId = none ∧ c'.autoAccept = c.autoAccept ∧ record.Of .received p s ∧
      Moves (withNextKey b) b' 1 [record] (b.connections.records ++ [c']) := by
  have answers : Answers (withNextKey b) c (.telling id label i.id p.did options attachment) p s :=
    h.answers made told unknown
  obtain ⟨c', b', record, taken, rfl, isOf, moves⟩ :=
    processRequest_fork (nextRouting b) answers many new
  exact ⟨_, b', record, taken, rfl, ⟨h.stage.invitation, h.stage.role, rfl, rfl, rfl, rfl⟩,
    ⟨h.plain.1, rfl, rfl, rfl⟩, rfl, rfl, isOf, moves⟩

/-- If the agent accepts by itself, the request is answered on that connection, under a key of its
own. -/
theorem receiveRequest_fork (lawful : suite.Lawful) (many : c.multiUse = true)
    (accepting : accepts c b.settings = true) (endpoints : b.settings.endpoints ≠ [])
    (new : b.connections.find? (chance.uuid b.draws.ids) = none)
    (unused : b.didsOfKey (nextRouting b).recipientKey = []) (made : p.Made s)
    (unknown : b.dids.find? p.did = none)
    (makes : Makes { b with draws := { b.draws with ids := b.draws.ids + 1 } } (nextRouting b) q)
    (apart : p.did ≠ q.did) {id label : String} {options : RequestOptions} {attachment : Attachment}
    (plain : attachment.Plain) (told : theirPeerDid p.did (some attachment) [] = .ok p)
    {e : Envelope} {sender : Option Key}
    (holds : e.Holds (Message.request (.telling id label i.id p.did options attachment)).toJson
      [r.recipientKey] sender) :
    ∃ m c' b' attachment', (receive e).run b = (.ok (some ⟨.response m, c'⟩), b') ∧
      m = .telling m.id q.did id attachment' ∧ attachment'.Plain ∧
      theirPeerDid q.did (some attachment') [r.recipientKey] = .ok q ∧
      c'.id = chance.uuid b.draws.ids ∧
      c'.At i .responder .responseSent (some q.did) (some p.did) (some id) ∧
      Party b' b.connections.records c' q (nextRouting b) ∧ b'.dids.Knows p := by
  have sound := nextRouting_sound lawful endpoints
  obtain ⟨c₁, b₁, record, hprocess, hid, stage₁, plain₁, -, accept, isOf, moves₁⟩ :=
    h.takes_fork many new made unknown told id label options
  have received : ∀ r ∈ [record], r.role = .received := List.forall_mem_singleton.mpr isOf.role
  -- the answer is made of what has not changed since
  have new' : b₁.dids.find? q.did = none := moves₁.unknown isOf makes.unknown.dids apart
  have tells : Tells b₁ (nextRouting b) q r.recipientKey := by
    refine ⟨sound, moves₁.settings ▸ makes.form, ?_, new', h.sound.recipient.signs,
      moves₁.wallet ▸ Wallet.holds_add h.held _⟩
    rw [moves₁.settings, moves₁.ids]
    exact makes.peer
  have given : responseRouting c₁ i r.recipientKey b₁.settings (some (nextRouting b))
      = .ok (nextRouting b) := rfl
  obtain ⟨m, b', attachment', record', hcreate, hm, plain', told', isOf', moves₂⟩ :=
    createResponse_run lawful tells moves₁.connections stage₁.role stage₁.state stage₁.thread
      stage₁.invitation (h.tells.requireKey h.sound) given
  have party := Party.of_moves moves₂ isOf' makes.unknown.others plain₁ rfl sound
    (makes.made sound) (by
      rw [didsOfKey_received moves₁.dids received]
      exact unused) (moves₁.wallet ▸ Wallet.holds_add_self _ _)
  have stage : (c₁.responseSent (nextRouting b) q.did).next.At i .responder .responseSent
      (some q.did) (some p.did) (some id) :=
    ⟨stage₁.invitation, stage₁.role, rfl, rfl, stage₁.theirDid, stage₁.thread⟩
  refine ⟨m, (c₁.responseSent (nextRouting b) q.did).next, b', attachment', ?_, hm, plain', told',
    hid, stage, party, (moves₁.knows isOf).append moves₂.dids⟩
  have accepting' : accepts c₁ b.settings = true := by
    rw [accepts, accept]
    exact accepting
  exact h.receive_answered plain holds (answerRouting_many many b) hprocess accepting' hcreate

/-- If it does not, the request waits on that connection. -/
theorem receiveRequest_waits (many : c.multiUse = true) (manual : accepts c b.settings = false)
    (new : b.connections.find? (chance.uuid b.draws.ids) = none) (made : p.Made s)
    (unknown : b.dids.find? p.did = none) {id label : String} {options : RequestOptions}
    {attachment : Attachment} (plain : attachment.Plain)
    (told : theirPeerDid p.did (some attachment) [] = .ok p) {e : Envelope} {sender : Option Key}
    (holds : e.Holds (Message.request (.telling id label i.id p.did options attachment)).toJson
      [r.recipientKey] sender) :
    ∃ c' b' record, (receive e).run b = (.ok none, b') ∧
      (processRequest c (.telling id label i.id p.did options attachment) (some (nextRouting b))).run
        (withNextKey b) = (.ok c', b') ∧
      c'.id = chance.uuid b.draws.ids ∧
      c'.At i .responder .requestReceived none (some p.did) (some id) ∧ c'.Plain ∧
      c'.mediatorId = none ∧ record.Of .received p s ∧
      Moves (withNextKey b) b' 1 [record] (b.connections.records ++ [c']) := by
  obtain ⟨c', b', record, hprocess, hid, stage, plain', mediator, accept, isOf, moves⟩ :=
    h.takes_fork many new made unknown told id label options
  refine ⟨c', b', record, ?_, hprocess, hid, stage, plain', mediator, isOf, moves⟩
  have manual' : ¬ accepts c' b.settings = true := by
    rw [accepts, accept]
    exact Bool.eq_false_iff.mp manual
  rw [h.receive_request plain holds]
  refine handle_run ?_
  rw [dispatch, Step.bind_view]
  dsimp only
  rw [Step.bind_ok (answerRouting_many many b), Step.bind_ok hprocess, if_neg manual']
  rfl

end Waiting

end Agent

end Pairwise
