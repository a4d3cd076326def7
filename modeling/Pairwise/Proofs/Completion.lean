import Pairwise.Proofs.Openings
import Pairwise.Proofs.PlainSuite
/-!
# Exchanges are completed

Two agents that accept by themselves complete an exchange, whatever they tell about their routing and
whether the invitation is for one or for many: a request, a response and a completion arrive, and
both connections are ready and know the same DIDs.

Results:
* `Agent.Midway`, `Agent.converse_response`: once the responder has made its response, the exchange is
  completed.
* `Agent.exchange_completes`: the exchange of an invitation is completed.
-/
namespace Pairwise

section Exchange

variable [suite : Suite]

omit suite in
/-- A completed connection is ready when both DIDs are known. -/
theorem Connection.At.isReady {c : Connection} {i : Invitation} {role : ExchangeRole}
    {did theirDid : String} {thread : Option String}
    (h : c.At i role .completed (some did) (some theirDid) thread) : c.isReady = true := by
  rw [Connection.isReady, h.state, h.did, h.theirDid]
  rfl

namespace Agent

variable {a b : Agent} {front back : List Connection} {c d : Connection} {i : Invitation}
  {p q : PeerDid} {r s u : Routing}

/-! ## The sides -/

/-- An agent that accepts by itself and tells documents with its DIDs, and a routing of it whose key
it uses for nothing else. -/
structure Host (a : Agent) (r : Routing) : Prop where
  accepting : a.settings.autoAccept = true
  form : a.settings.exchangeForm ≠ .inceptionKey
  endpoints : a.settings.endpoints ≠ []
  sound : r.Sound
  held : a.wallet.holds r.recipientKey = true
  unused : a.Unused r.recipientKey

/-- A DID stays unknown when a connection without a DID is stored. -/
theorem Unknown.moves {a' : Agent} {n : Nat} {c : Connection}
    (h : a.Unknown p) (moves : Moves a a' n [] (a.connections.records ++ [c]))
    (plain : c.customTags = []) (did : c.did = none) : a'.Unknown p where
  dids := Store.find?_eq_none_append moves.dids h.dids (List.forall_mem_nil _)
  connections := by
    have other : ¬ (Query.on "did" p.did).accepts c.tags = true := by
      rw [Connection.accepts_did plain, did]
      exact nofun
    rw [Store.query_append moves.connections, h.connections, List.filter_cons]
    exact if_neg other

/-- The invitation that an agent has made waits for its answers. -/
theorem Waiting.of_invitation {b' : Agent} {n : Nat} {id label : String} (host : Host b s)
    (moves : Moves b b' n [] (b.connections.records ++ [d])) (plain : d.Plain)
    (stage : d.At (invitationOf s id label) .responder .invitationSent none none none)
    (mediator : d.mediatorId = s.mediatorId) :
    Waiting b' b.connections.records d (invitationOf s id label) s where
  last := moves.connections
  others := fun c hc => by
    rw [Bool.eq_false_iff]
    exact List.filter_eq_nil_iff.mp host.unused.invitations c hc
  plain := plain
  stage := stage
  mediator := mediator
  tells := ⟨rfl, rfl, rfl⟩
  sound := host.sound
  unused := by
    rw [didsOfKey_received moves.dids (List.forall_mem_nil _)]
    exact host.unused.dids
  held := moves.wallet ▸ host.held

/-- The connection of a party is found under its id. -/
theorem Party.get (h : Party a front c p r) : a.connections.get c.id = .ok c := by
  refine Store.get_eq_ok.mpr (Store.find?_eq_some.mpr ⟨?_, rfl⟩)
  rw [h.last]
  exact List.mem_append_right _ List.mem_cons_self

variable [chance : Chance]

/-! ## The answer and the completion -/

/-- The responder has made its response, and the requester waits for it. -/
structure Midway (a b : Agent) (front back : List Connection) (c d : Connection) (p q : PeerDid)
    (r s : Routing) (i : Invitation) (thread : String) (m : Response) : Prop where
  requester : Party a front c p r
  responder : Party b back d q s
  asked : c.At i .requester .requestSent (some p.did) none (some thread)
  answered : d.At i .responder .responseSent (some q.did) (some p.did) (some thread)
  known : b.dids.Knows p
  new : a.dids.find? q.did = none
  accepting : accepts c a.settings = true
  message : ∃ keys attachment, i.recipients = .ok keys ∧
    m = .telling m.id q.did thread attachment ∧ attachment.Plain ∧
    theirPeerDid q.did (some attachment) keys = .ok q

omit chance in
theorem Midway.readable {thread : String} {m : Response}
    (h : Midway a b front back c d p q r s i thread m) : (Message.response m).Readable := by
  obtain ⟨keys, attachment, -, hm, plain, -⟩ := h.message
  rw [hm]
  exact Response.telling_readable _ _ _ plain

omit chance in
theorem Midway.kind {thread : String} {m : Response}
    (h : Midway a b front back c d p q r s i thread m) : m.kind = .exchangeResponse := by
  obtain ⟨keys, attachment, -, hm, -⟩ := h.message
  rw [hm]
  rfl

/-- The response of a responder arrives. -/
theorem Midway.post_run (lawful : suite.Lawful) (drawn : chance.Lawful) {thread : String}
    {m : Response} (h : Midway a b front back c d p q r s i thread m) {mediators : Wallet}
    (mediated : ∀ k ∈ r.routingKeys, mediators.holds k = true) :
    ∃ e b', (post mediators ⟨.response m, d⟩).run b = (.ok e, b') ∧ Party b' back d q s ∧
      Drawn b b' ∧ e.Holds (Message.response m).toJson [r.recipientKey] (some s.recipientKey) :=
  h.responder.post_run lawful drawn h.requester.sound
    (sendsTo_did h.requester.made (.inr h.known) h.answered.theirDid) h.readable mediated

/-- The requester completes the exchange when the response arrives. -/
theorem Midway.receive_run {thread : String} {m : Response}
    (h : Midway a b front back c d p q r s i thread m) {e : Envelope} {sender : Option Key}
    (holds : e.Holds (Message.response m).toJson [r.recipientKey] sender) :
    ∃ m c' a', (receive e).run a = (.ok (some ⟨.complete m, c'⟩), a') ∧
      m = Complete.new m.id thread (some i.id) ∧ c'.id = c.id ∧
      c'.At i .requester .completed (some p.did) (some q.did) (some thread) ∧
      Party a' front c' p r ∧ a'.dids.Knows q := by
  obtain ⟨keys, attachment, hkeys, hm, plain, told⟩ := h.message
  rw [hm] at holds
  exact h.requester.receiveResponse_run h.asked hkeys h.accepting h.responder.made h.new plain told
    holds

/-- The two sides complete the exchange. -/
theorem converse_response (lawful : suite.Lawful) (drawn : chance.Lawful) {thread : String}
    {m : Response} (h : Midway a b front back c d p q r s i thread m) {mediators : Wallet}
    (mediated : ∀ k ∈ r.routingKeys ++ s.routingKeys, mediators.holds k = true) (n : Nat) :
    ∃ a' b' c' d', converse mediators (n + 2) b a ⟨.response m, d⟩
        = .ok ([.exchangeResponse, .exchangeComplete], b', a') ∧
      c'.id = c.id ∧ d'.id = d.id ∧
      c'.At i .requester .completed (some p.did) (some q.did) (some thread) ∧
      d'.At i .responder .completed (some q.did) (some p.did) (some thread) ∧
      Acquainted a' front c' p r q ∧ Acquainted b' back d' q s p := by
  -- the response arrives, and is answered
  obtain ⟨e, b₁, hpost, responder, drew, holds⟩ := h.post_run lawful drawn
    fun k hk => mediated k (List.mem_append_left _ hk)
  obtain ⟨m', c', a₁, hreceive, hm', cid, completed, requester, knows⟩ := h.receive_run holds
  -- the completion arrives
  have readable : (Message.complete m').Readable := hm' ▸ Complete.new_readable _ _ _
  obtain ⟨e', a₂, hpost', requester₂, drew', holds'⟩ := requester.post_run lawful drawn h.responder.sound
    (sendsTo_did h.responder.made (.inr knows) completed.theirDid) readable
    fun k hk => mediated k (List.mem_append_right _ hk)
  obtain ⟨d', b₂, hreceive', did, completed', responder₂⟩ := responder.receiveComplete_run h.answered
    h.requester.made (drew.dids ▸ h.known) (hm' ▸ holds')
  refine ⟨a₂, b₂, c', d', ?_, cid, did, completed, completed', ⟨requester₂, drew'.dids ▸ knows⟩,
    responder₂⟩
  have kind : (Message.response m).kind = .exchangeResponse := h.kind
  have kind' : (Message.complete m').kind = .exchangeComplete := by rw [hm']; rfl
  rw [converse, Step.outcome_eq hpost, Outcome.ok_bind]
  dsimp only
  rw [Step.outcome_eq hreceive, Outcome.ok_bind]
  dsimp only
  rw [converse, Step.outcome_eq hpost', Outcome.ok_bind]
  dsimp only
  rw [Step.outcome_eq hreceive', Outcome.ok_bind]
  dsimp only
  rw [kind, kind']
  rfl

/-! ## The whole exchange -/

/-- The routing that the answer to an invitation tells, and how many ids the responder has drawn
when it makes the DID of the answer. -/
def answerRoutingOf (b : Agent) (r : Routing) : (multiUse : Bool) → Routing × Nat
  | false => (r.invited, b.draws.ids + 2)
  | true => (nextRouting b, b.draws.ids + 3)

theorem answerRoutingOf_routingKeys {multiUse : Bool} (k : Key)
    (h : k ∈ (answerRoutingOf b s multiUse).1.routingKeys) : k ∈ s.routingKeys := by
  cases multiUse with
  | false => exact h
  | true => exact absurd h List.not_mem_nil

theorem answerRoutingOf_sound (lawful : suite.Lawful) (host : Host b s) (multiUse : Bool) :
    (answerRoutingOf b s multiUse).1.Sound := by
  cases multiUse with
  | false => exact host.sound.invited
  | true => exact nextRouting_sound lawful host.endpoints

/-- What the two sides draw in an exchange is new to them: the ids of connections, the DIDs that are
made of what they draw, and for an invitation for many the key of the answer. -/
structure Fresh (a b : Agent) (r s : Routing) (multiUse : Bool) (p q : PeerDid) : Prop where
  requester : a.connections.find? (chance.uuid a.draws.ids) = none
  responder : b.connections.find? (chance.uuid (b.draws.ids + 1)) = none
  fork : multiUse = true → b.connections.find? (chance.uuid (b.draws.ids + 2)) = none ∧
    chance.uuid (b.draws.ids + 2) ≠ chance.uuid (b.draws.ids + 1) ∧
    b.Unused (nextRouting b).recipientKey
  asking : r.peerDid a.settings.exchangeForm (chance.uuid (a.draws.ids + 1))
    (chance.uuid (a.draws.ids + 2)) = .ok p
  answering : (answerRoutingOf b s multiUse).1.peerDid b.settings.exchangeForm
    (chance.uuid (answerRoutingOf b s multiUse).2)
    (chance.uuid ((answerRoutingOf b s multiUse).2 + 1)) = .ok q
  asked : a.Unknown p
  answered : b.Unknown q
  heardOf : b.dids.find? p.did = none
  heardBack : a.dids.find? q.did = none
  apart : p.did ≠ q.did

/-- A request for an invitation is answered, whether the invitation is for one or for many. -/
theorem answer_run (lawful : suite.Lawful) {b' : Agent} {multiUse : Bool} (host : Host b s)
    (fresh : Fresh a b r s multiUse p q) (made : p.Made r)
    (moves : Moves b b' 2 [] (b.connections.records ++ [d]))
    (waiting : Waiting b' b.connections.records d i s) (id : d.id = chance.uuid (b.draws.ids + 1))
    (uses : d.multiUse = multiUse) (default : d.autoAccept = none) {thread label : String}
    {options : RequestOptions} {attachment : Attachment} (plain : attachment.Plain)
    (told : theirPeerDid p.did (some attachment) [] = .ok p) {e : Envelope} {sender : Option Key}
    (holds : e.Holds (Message.request (.telling thread label i.id p.did options attachment)).toJson
      [s.recipientKey] sender) :
    ∃ m d' b'' attachment' back, (receive e).run b' = (.ok (some ⟨.response m, d'⟩), b'') ∧
      m = .telling m.id q.did thread attachment' ∧ attachment'.Plain ∧
      theirPeerDid q.did (some attachment') [s.recipientKey] = .ok q ∧
      d'.id = (if multiUse then chance.uuid (b.draws.ids + 2) else d.id) ∧
      d'.At i .responder .responseSent (some q.did) (some p.did) (some thread) ∧
      Party b'' back d' q (answerRoutingOf b s multiUse).1 ∧ b''.dids.Knows p := by
  have accepting : accepts d b'.settings = true := by
    rw [accepts, default, moves.settings]
    exact host.accepting
  have stored {did : String} (new : b.dids.find? did = none) : b'.dids.find? did = none :=
    Store.find?_eq_none_append moves.dids new (List.forall_mem_nil _)
  have unknown : b'.Unknown q := fresh.answered.moves moves waiting.plain.1 waiting.stage.did
  cases multiUse with
  | false =>
    have makes : Makes b' s.invited q := by
      refine ⟨moves.settings ▸ host.form, ?_, unknown⟩
      rw [moves.settings, moves.ids]
      exact fresh.answering
    obtain ⟨m, d', b'', attachment', run⟩ := waiting.receiveRequest_run lawful uses accepting made
      (stored fresh.heardOf) makes fresh.apart plain told holds
    exact ⟨m, d', b'', attachment', b.connections.records, run⟩
  | true =>
    obtain ⟨forked, apart, spare⟩ := fresh.fork rfl
    have next : nextRouting b' = nextRouting b := by
      rw [nextRouting, nextRouting, moves.settings, moves.seeds]
    have makes : Makes { b' with draws := { b'.draws with ids := b'.draws.ids + 1 } }
        (nextRouting b') q := by
      refine ⟨moves.settings ▸ host.form, ?_, unknown.dids, unknown.connections⟩
      rw [next, moves.settings, moves.ids]
      exact fresh.answering
    have new : b'.connections.find? (chance.uuid b'.draws.ids) = none := by
      rw [moves.ids]
      refine Store.find?_eq_none_append moves.connections forked (List.forall_mem_singleton.mpr ?_)
      exact fun same => apart (same.symm.trans id)
    have unused : b'.didsOfKey (nextRouting b').recipientKey = [] := by
      rw [next, didsOfKey_received moves.dids (List.forall_mem_nil _)]
      exact spare.dids
    obtain ⟨m, d', b'', attachment', hreceive, hm, plain', told', id', stage, party, known⟩ :=
      waiting.receiveRequest_fork lawful uses accepting (moves.settings ▸ host.endpoints) new unused
        made (stored fresh.heardOf) makes fresh.apart plain told holds
    rw [moves.ids] at id'
    rw [next] at party
    exact ⟨m, d', b'', attachment', b'.connections.records, hreceive, hm, plain', told', id', stage,
      party, known⟩

omit suite chance in
/-- Who is not told otherwise does what its settings say. -/
theorem accepts_of_willing {settings : Settings} (accepting : settings.autoAccept = true)
    {options : RequestOptions} {accept : Option Bool}
    (h : c.autoAccept = options.autoAccept.or accept) (willing : accept ≠ some false ∧ options.autoAccept ≠ some false) :
    accepts c settings = true := by
  obtain ⟨received, asked⟩ := willing
  rw [accepts, h, accepting]
  cases hasked : options.autoAccept with
  | none =>
    cases accept with
    | none => rfl
    | some answer =>
      cases answer with
      | false => exact absurd rfl received
      | true => rfl
  | some answer =>
    cases answer with
    | false => exact absurd hasked asked
    | true => rfl

/-- The responder waits for the answer to its invitation, and the requester has made its request. -/
structure Opened (a b : Agent) (r s : Routing) (multiUse : Bool) (p q : PeerDid) (i : Invitation)
    (d : Connection) (b' : Agent) (c₀ : Connection) (m : Request) (c : Connection) (a' : Agent) :
    Prop where
  waiting : Waiting b' b.connections.records d i s
  moves : Moves b b' 2 [] (b.connections.records ++ [d])
  id : d.id = chance.uuid (b.draws.ids + 1)
  uses : d.multiUse = multiUse
  default : d.autoAccept = none
  before : c₀.At i .requester .invitationReceived none none none
  same : c.id = c₀.id
  asked : c.At i .requester .requestSent (some p.did) none (some m.id)
  party : Party a' a.connections.records c p r
  settings : a'.settings = a.settings
  accepting : accepts c a'.settings = true
  new : a'.dids.find? q.did = none
  message : ∃ label options attachment, m = .telling m.id label i.id p.did options attachment ∧
    attachment.Plain ∧ theirPeerDid p.did (some attachment) [] = .ok p

section Exchange

variable {multiUse : Bool} (requester : Host a r) (responder : Host b s)
  (fresh : Fresh a b r s multiUse p q) {i : Invitation} {m : Request}

include requester responder fresh

/-- An invitation is made, received, and answered by a request. -/
theorem open_run (lawful : suite.Lawful) (label : Option String) {accept : Option Bool}
    {options : RequestOptions} (willing : accept ≠ some false ∧ options.autoAccept ≠ some false) :
    ∃ i d b₁ c₀ a₁ m c a₂,
      (createInvitation s multiUse label).run b = (.ok (i, d), b₁) ∧
      (receiveInvitation i accept).run a = (.ok c₀, a₁) ∧
      (createRequest c₀ r options).run a₁ = (.ok (m, c), a₂) ∧
      i.id = chance.uuid b.draws.ids ∧
      a₁.connections.records = a.connections.records ++ [c₀] ∧
      Opened a b r s multiUse p q i d b₁ c₀ m c a₂ := by
  obtain ⟨i, d, b₁, hinvite, hi, hd, moved⟩ := createInvitation_run s multiUse label fresh.responder
  have waiting : Waiting b₁ b.connections.records d i s := by
    rw [hi] at hd ⊢
    exact .of_invitation responder moved (hd ▸ ⟨rfl, rfl, rfl, rfl⟩)
      (hd ▸ ⟨rfl, rfl, rfl, rfl, rfl, rfl⟩) (hd ▸ rfl)
  obtain ⟨c₀, a₁, hreceive, hc₀, moved'⟩ := receiveInvitation_run i accept fresh.requester
  have makes : Makes a₁ r p := by
    refine ⟨moved'.settings ▸ requester.form, ?_, fresh.asked.moves moved' (hc₀ ▸ rfl) (hc₀ ▸ rfl)⟩
    rw [moved'.settings, moved'.ids]
    exact fresh.asking
  have unused : a₁.didsOfKey r.recipientKey = [] := by
    rw [didsOfKey_received moved'.dids (List.forall_mem_nil _)]
    exact requester.unused.dids
  have before : c₀.At i .requester .invitationReceived none none none :=
    hc₀ ▸ ⟨rfl, rfl, rfl, rfl, rfl, rfl⟩
  obtain ⟨m, a₂, attachment, hask, hm, plain, told, same, still, party⟩ :=
    createRequest_party lawful requester.sound makes unused (moved'.wallet ▸ requester.held)
      moved'.connections (hc₀ ▸ ⟨rfl, rfl, rfl, rfl⟩) before options
  have accepting : accepts (c₀.requestSent r p.did m.id options).next a₂.settings = true := by
    rw [same, moved'.settings]
    exact accepts_of_willing requester.accepting (hc₀ ▸ rfl) willing
  have unheard : a₁.dids.find? q.did = none :=
    Store.find?_eq_none_append moved'.dids fresh.heardBack (List.forall_mem_nil _)
  have new : a₂.dids.find? q.did = none := still _ unheard fresh.apart
  refine ⟨i, d, b₁, c₀, a₁, m, _, a₂, hinvite, hreceive, hask, hi ▸ rfl, moved'.connections, ?_⟩
  exact {
    waiting, moves := moved, id := hd ▸ rfl, uses := hd ▸ rfl, default := hd ▸ rfl, before
    same := rfl
    asked := ⟨before.invitation, before.role, rfl, rfl, before.theirDid, rfl⟩
    party
    settings := same.trans moved'.settings
    accepting, new
    message := ⟨_, _, attachment, hm, plain, told⟩ }

omit requester in
/-- The request arrives, and the responder makes its response. -/
theorem answer_opened (lawful : suite.Lawful) (drawn : chance.Lawful) {b' a' : Agent}
    {c₀ : Connection} (h : Opened a b r s multiUse p q i d b' c₀ m c a') {mediators : Wallet}
    (mediated : ∀ k ∈ s.routingKeys, mediators.holds k = true) :
    ∃ e a'' m' d' b'' back, (post mediators ⟨.request m, c⟩).run a' = (.ok e, a'') ∧
      e.Genuine (.request m) ∧ (receive e).run b' = (.ok (some ⟨.response m', d'⟩), b'') ∧
      d'.id = (if multiUse then chance.uuid (b.draws.ids + 2) else d.id) ∧
      Midway a'' b'' a.connections.records back c d' p q r (answerRoutingOf b s multiUse).1 i m.id
        m' := by
  obtain ⟨label, options, attachment, hm, plain, told⟩ := h.message
  have readable : (Message.request m).Readable := hm ▸ Request.telling_readable _ _ _ _ _ plain
  obtain ⟨e, a'', hpost, party, drew, holds⟩ := h.party.post_run lawful drawn responder.sound
    (sendsTo_invitation responder.sound h.waiting.tells h.asked.role h.asked.theirDid
      h.asked.invitation) readable mediated
  obtain ⟨m', d', b'', attachment', back, hanswer, hm', plain', told', did, answered, party',
    known⟩ := answer_run lawful responder fresh h.party.made h.moves h.waiting h.id h.uses h.default
      plain told (hm ▸ holds)
  refine ⟨e, a'', m', d', b'', back, hpost, holds.genuine readable, hanswer, did, ?_⟩
  exact {
    requester := party, responder := party', asked := h.asked, answered, known
    new := drew.dids ▸ h.new
    accepting := drew.settings ▸ h.accepting
    message := ⟨_, attachment', h.waiting.tells.recipients_read responder.sound, hm', plain', told'⟩ }

omit requester responder fresh

/-- Two sides complete the exchange of an invitation, each reached through mediators that open what
is sealed for them. The records of both are completed and ready then, each with the DID of the other,
and in one thread. -/
theorem exchange_completes (lawful : suite.Lawful) (drawn : chance.Lawful) {multiUse : Bool}
    (requester : Host a r) (responder : Host b s) (fresh : Fresh a b r s multiUse p q)
    (label : Option String) {accept : Option Bool} {options : RequestOptions}
    (willing : accept ≠ some false ∧ options.autoAccept ≠ some false) {mediators : Wallet}
    (mediated : ∀ k ∈ r.routingKeys ++ s.routingKeys, mediators.holds k = true) :
    ∃ i d b₁ c₀ a₁ m c a₂,
      (createInvitation s multiUse label).run b = (.ok (i, d), b₁) ∧
      (receiveInvitation i accept).run a = (.ok c₀, a₁) ∧
      (createRequest c₀ r options).run a₁ = (.ok (m, c), a₂) ∧
      ∀ n, ∃ a' b' c' d', converse mediators (n + 3) a₂ b₁ ⟨.request m, c⟩
          = .ok ([.exchangeRequest, .exchangeResponse, .exchangeComplete], a', b') ∧
        a'.connections.get c₀.id = .ok c' ∧
        b'.connections.get (if multiUse then chance.uuid (b.draws.ids + 2) else d.id) = .ok d' ∧
        c'.state = .completed ∧ d'.state = .completed ∧ c'.isReady = true ∧ d'.isReady = true ∧
        c'.did = d'.theirDid ∧ d'.did = c'.theirDid ∧ c'.threadId = d'.threadId ∧
        c'.threadId = some m.id := by
  obtain ⟨i, d, b₁, c₀, a₁, m, c, a₂, hinvite, hreceive, hask, -, -, opened⟩ :=
    open_run requester responder fresh lawful label willing
  refine ⟨i, d, b₁, c₀, a₁, m, c, a₂, hinvite, hreceive, hask, fun n => ?_⟩
  obtain ⟨e, a₃, m', d₁, b₂, back, hpost, -, hanswer, did, midway⟩ :=
    answer_opened responder fresh lawful drawn opened
      fun k hk => mediated k (List.mem_append_right _ hk)
  have reached : ∀ k ∈ r.routingKeys ++ (answerRoutingOf b s multiUse).1.routingKeys,
      mediators.holds k = true := fun k hk => mediated k <| by
    rw [List.mem_append] at hk ⊢
    exact hk.imp_right (answerRoutingOf_routingKeys k)
  obtain ⟨a', b', c', d', hrest, cid, did', completed, completed', partyc, partyd⟩ :=
    converse_response lawful drawn midway reached n
  refine ⟨a', b', c', d', ?_, ?_, ?_, completed.state, completed'.state, completed.isReady,
    completed'.isReady, completed.did.trans completed'.theirDid.symm,
    completed'.did.trans completed.theirDid.symm, completed.thread.trans completed'.thread.symm,
    completed.thread⟩
  · have kind : (Message.request m).kind = .exchangeRequest := by
      obtain ⟨_, _, _, hm, -⟩ := opened.message
      rw [hm]
      rfl
    rw [converse, Step.outcome_eq hpost, Outcome.ok_bind]
    dsimp only
    rw [Step.outcome_eq hanswer, Outcome.ok_bind]
    dsimp only
    rw [hrest, Outcome.ok_bind, kind]
    rfl
  · rw [← opened.same, ← cid]
    exact partyc.get
  · rw [← did, ← did']
    exact partyd.get

end Exchange

end Agent

end Exchange

/-! ## Two agents that complete an exchange -/

section Plain

attribute [local instance] Suite.plain Chance.counting

/-- An agent with the key of a seed, that tells DIDs of a form and accepts by itself. -/
def Agent.plain (form : PeerForm) (seed : Bytes) : Agent where
  settings := { exchangeForm := form, autoAccept := true }
  wallet := ({} : Wallet).add seed

/-- A routing to the key of a seed, through the keys of mediators. -/
def Routing.plain (seed : Bytes) (mediators : List Bytes) : Routing where
  endpoints := ["https://agents.example"]
  recipientKey := Wallet.keyOf seed
  routingKeys := mediators.map Wallet.keyOf
  mediatorId := none

theorem Agent.plain_host {form : PeerForm} (hform : form ≠ .inceptionKey) (seed : Bytes)
    (mediators : List Bytes) : Host (plain form seed) (Routing.plain seed mediators) where
  accepting := rfl
  form := hform
  endpoints := List.cons_ne_nil _ _
  sound := {
    endpoints := List.cons_ne_nil _ _
    recipient := Key.usable_keyOf Suite.plain_lawful seed
    mediators := List.forall_mem_map.mpr fun seed _ => Key.usable_keyOf Suite.plain_lawful seed }
  held := Wallet.holds_add_self _ _
  unused := ⟨rfl, rfl⟩

/-- What two agents draw at first is new to them, if their DIDs are of different forms. -/
theorem Agent.plain_fresh (seed seed' : Bytes) (mediators mediators' : List Bytes) (multiUse : Bool) :
    ∃ p q, Fresh (plain .genesisHash seed) (plain .hashAndDocument seed') (.plain seed mediators)
      (.plain seed' mediators') multiUse p q := by
  have here : PeerForm.genesisHash ≠ .inceptionKey := nofun
  have there : PeerForm.hashAndDocument ≠ .inceptionKey := nofun
  obtain ⟨p, hp, -⟩ := Routing.peerDid_made (plain_host here seed mediators).sound here
    (Chance.uuid 1) (Chance.uuid 2)
  obtain ⟨q, hq, -⟩ := Routing.peerDid_made
    (answerRoutingOf_sound Suite.plain_lawful (plain_host there seed' mediators') multiUse) there _ _
  have distinct : Chance.uuid 2 ≠ Chance.uuid 1 := by decide
  refine ⟨p, q, rfl, rfl, fun _ => ⟨rfl, distinct, rfl, rfl⟩, hp, hq, ⟨rfl, rfl⟩, ⟨rfl, rfl⟩, rfl,
    rfl, fun same => ?_⟩
  have forms := (Routing.form_peerDid here hp).symm.trans
    ((congrArg PeerDid.form same).trans (Routing.form_peerDid there hq))
  cases forms

/-- Two agents with DIDs of different forms, the second reached through two mediators, complete the
exchange of an invitation for many. -/
theorem Agent.exchange_completes_plain :
    ∃ i d b₁ c₀ a₁ m c a₂,
      (createInvitation (.plain [2] [[3], [4]]) true none).run (plain .hashAndDocument [2])
        = (.ok (i, d), b₁) ∧
      (receiveInvitation i none).run (plain .genesisHash [1]) = (.ok c₀, a₁) ∧
      (createRequest c₀ (.plain [1] [[3]]) {}).run a₁ = (.ok (m, c), a₂) ∧
      ∃ a' b', converse ((({} : Wallet).add [4]).add [3]) 3 a₂ b₁ ⟨.request m, c⟩
        = .ok ([.exchangeRequest, .exchangeResponse, .exchangeComplete], a', b') := by
  obtain ⟨p, q, fresh⟩ := plain_fresh [1] [2] [[3]] [[3], [4]] true
  have mediated : ∀ k ∈ (Routing.plain [1] [[3]]).routingKeys
      ++ (Routing.plain [2] [[3], [4]]).routingKeys,
      ((({} : Wallet).add [4]).add [3]).holds k = true := by
    have first : ((({} : Wallet).add [4]).add [3]).holds (Wallet.keyOf [3]) = true :=
      Wallet.holds_add_self _ _
    have second : ((({} : Wallet).add [4]).add [3]).holds (Wallet.keyOf [4]) = true :=
      Wallet.holds_add (Wallet.holds_add_self _ _) _
    exact List.forall_mem_cons.mpr ⟨first, List.forall_mem_cons.mpr
      ⟨first, List.forall_mem_singleton.mpr second⟩⟩
  have here : PeerForm.genesisHash ≠ .inceptionKey := nofun
  have there : PeerForm.hashAndDocument ≠ .inceptionKey := nofun
  have willing : (none : Option Bool) ≠ some false ∧
      ({} : RequestOptions).autoAccept ≠ some false := ⟨nofun, nofun⟩
  obtain ⟨i, d, b₁, c₀, a₁, m, c, a₂, hinvite, hreceive, hask, run⟩ :=
    exchange_completes Suite.plain_lawful Chance.counting_lawful (plain_host here [1] [[3]])
      (plain_host there [2] [[3], [4]]) fresh none willing mediated
  obtain ⟨a', b', -, -, done, -⟩ := run 0
  exact ⟨i, d, b₁, c₀, a₁, m, c, a₂, hinvite, hreceive, hask, a', b', done⟩

end Plain

end Pairwise
