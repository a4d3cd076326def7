import Pairwise.Agent.Exchange
import Pairwise.Proofs.DidRuns
import Pairwise.Proofs.ExchangeSteps
import Pairwise.Proofs.Tags
/-!
# Exchanges that go well

Every step of an exchange succeeds when its agent holds the keys, the DIDs are new, and the messages
are those of the other side. For each step there is one lemma that says which message it gives, how
the connection stands then, and which DIDs are stored.

Results:
* `createInvitation_run`, `receiveInvitation_run`: how an exchange begins.
* `createRequest_run`, `processRequest_run`, `createResponse_run`, `processResponse_run`,
  `createComplete_run`, `processComplete_run`: the steps of the exchange.
-/
namespace Pairwise

namespace Connection

/-- A stored connection in its next version. -/
def next (c : Connection) : Connection := { c with version := c.version + 1 }

/-- The requester's connection when its request is made. -/
def requestSent (c : Connection) (r : Routing) (did thread : String) (options : RequestOptions) :
    Connection :=
  { c with
    did := some did
    verkey := some r.recipientKey.base58
    threadId := some thread
    mediatorId := r.mediatorId
    autoAccept := options.autoAccept.or c.autoAccept
    state := .requestSent }

/-- The responder's connection when its response is made. -/
def responseSent (c : Connection) (r : Routing) (did : String) : Connection :=
  { c with did := some did, mediatorId := r.mediatorId, state := .responseSent }

/-- The requester's connection when the response has come. -/
def responseReceived (c : Connection) (did : String) : Connection :=
  { c with theirDid := some did, state := .responseReceived }

/-- The connection of either side when the exchange is over. -/
def completed (c : Connection) : Connection := { c with state := .completed }

theorem invitationId_eq {c : Connection} {i : Invitation} (h : c.invitation = some i) :
    c.invitationId = some i.id := by
  rw [invitationId, h]
  rfl

end Connection

/-- A request that tells a DID with its document. -/
def Request.telling (id label invitation did : String) (options : RequestOptions)
    (attachment : Attachment) : Request :=
  { Request.new id label invitation did with
    goalCode := options.goalCode, goal := options.goal, attachment := some attachment }

/-- A response that tells a DID with its document. -/
def Response.telling (id did thread : String) (attachment : Attachment) : Response :=
  { Response.new id did thread with attachment := some attachment }

theorem Request.telling_readable (id label invitation did : String) (options : RequestOptions)
    {attachment : Attachment} (plain : attachment.Plain) :
    (Message.request (telling id label invitation did options attachment)).Readable :=
  Request.readable rfl (fun _ h => Option.mem_some_iff.mp h ▸ plain)
    fun _ h => Option.mem_some_iff.mp h ▸ Thread.plain_replyUnder id (some invitation)

theorem Response.telling_readable (id did thread : String) {attachment : Attachment}
    (plain : attachment.Plain) :
    (Message.response (telling id did thread attachment)).Readable :=
  Response.readable rfl (fun _ h => Option.mem_some_iff.mp h ▸ plain)
    fun _ h => Option.mem_some_iff.mp h ▸ Thread.plain_replyUnder thread none

theorem Complete.new_readable (id thread : String) (parent : Option String) :
    (Message.complete (Complete.new id thread parent)).Readable :=
  Complete.readable rfl fun _ h => Option.mem_some_iff.mp h ▸ Thread.plain_replyUnder thread parent

variable [suite : Suite]

/-- The agent afterwards has drawn so many ids and stored these DIDs beside its own, and these are
its connections. -/
structure Agent.Moves (a a' : Agent) (ids : Nat) (dids : List DidRecord)
    (connections : List Connection) : Prop where
  settings : a'.settings = a.settings
  wallet : a'.wallet = a.wallet
  ids : a'.draws.ids = a.draws.ids + ids
  seeds : a'.draws.seeds = a.draws.seeds
  dids : a'.dids.records = a.dids.records ++ dids
  connections : a'.connections.records = connections

namespace Agent

theorem Gains.then {a b c : Agent} {n m : Nat} {ds es : List DidRecord} {cs : List Connection}
    (hab : Gains a b n ds) (hbc : Moves b c m es cs) : Moves a c (n + m) (ds ++ es) cs where
  settings := hbc.settings.trans hab.settings
  wallet := hbc.wallet.trans hab.wallet
  ids := by rw [hbc.ids, hab.ids, Nat.add_assoc]
  seeds := hbc.seeds.trans hab.seeds
  dids := by rw [hbc.dids, hab.dids, List.append_assoc]
  connections := hbc.connections

theorem Moves.then {a b c : Agent} {n m : Nat} {ds es : List DidRecord} {cs cs' : List Connection}
    (hab : Moves a b n ds cs) (hbc : Moves b c m es cs') : Moves a c (n + m) (ds ++ es) cs' where
  settings := hbc.settings.trans hab.settings
  wallet := hbc.wallet.trans hab.wallet
  ids := by rw [hbc.ids, hab.ids, Nat.add_assoc]
  seeds := hbc.seeds.trans hab.seeds
  dids := by rw [hbc.dids, hab.dids, List.append_assoc]
  connections := hbc.connections

variable {a : Agent} {c : Connection} {front : List Connection}

/-! ## Storing connections -/

theorem saveConnection_run (c : Connection) (new : a.connections.find? c.id = none) :
    ∃ a', (saveConnection c).run a = (.ok c, a') ∧
      Moves a a' 0 [] (a.connections.records ++ [c]) := by
  have unsaved : ¬ (a.connections.find? c.id).isSome = true := by rw [new]; exact nofun
  obtain ⟨connections, hsave⟩ : ∃ connections, a.connections.save c = .ok connections := by
    unfold Store.save
    exact ⟨_, dif_neg unsaved⟩
  refine ⟨{ a with connections }, ?_, rfl, rfl, rfl, rfl, (List.append_nil _).symm,
    (Store.save_eq_ok.mp hsave).2⟩
  simp only [Step.run, saveConnection, hsave]

/-- The connection that was stored last takes its next version. -/
theorem updateConnection_run (last : a.connections.records = front ++ [c]) (c' : Connection)
    (id : c'.id = c.id) (version : c'.version = c.version) :
    ∃ a', (updateConnection c').run a = (.ok c'.next, a') ∧ Moves a a' 0 [] (front ++ [c'.next]) := by
  obtain ⟨connections, hupdate, records⟩ := Store.update_last last id version
  refine ⟨{ a with connections }, ?_, rfl, rfl, rfl, rfl, (List.append_nil _).symm, records⟩
  simp only [Step.run, updateConnection, hupdate]
  rfl

/-- A stored connection takes its next version. -/
theorem updateConnection_found (found : a.connections.find? c.id = some c) (c' : Connection)
    (id : c'.id = c.id) (version : c'.version = c.version) :
    ∃ a', (updateConnection c').run a = (.ok c'.next, a') ∧
      a'.connections.find? c'.id = some c'.next := by
  rw [← id] at found
  obtain ⟨connections, hupdate⟩ : ∃ connections,
      a.connections.update c' = .ok (c'.next, connections) :=
    ⟨_, Store.update_eq_ok.mpr ⟨⟨c, found, version.symm⟩, rfl, rfl⟩⟩
  refine ⟨{ a with connections }, ?_, Store.find?_update_self hupdate⟩
  simp only [Step.run, updateConnection, hupdate]

/-! ## The beginning -/

section Exchange

variable [chance : Chance]

/-- The invitation that tells a routing. -/
def invitationOf (r : Routing) (id label : String) : Invitation where
  id := id
  label := label
  recipientKeys := [r.recipientKey.base58]
  endpoint := r.endpoints.head?
  routingKeys := r.routingKeys.map (·.base58)

theorem createInvitation_run (r : Routing) (multiUse : Bool) (label : Option String)
    (new : a.connections.find? (chance.uuid (a.draws.ids + 1)) = none) :
    ∃ i c a', (createInvitation r multiUse label).run a = (.ok (i, c), a') ∧
      i = invitationOf r (chance.uuid a.draws.ids) (label.getD a.settings.label) ∧
      c = {
        id := chance.uuid (a.draws.ids + 1), createdAt := a.now, role := .responder
        state := .invitationSent
        invitation := some i
        multiUse
        verkey := some r.recipientKey.base58
        mediatorId := r.mediatorId } ∧
      Moves a a' 2 [] (a.connections.records ++ [c]) := by
  let a₁ : Agent := { a with draws := { a.draws with ids := a.draws.ids + 1 + 1 } }
  obtain ⟨a', hsave, moves⟩ := saveConnection_run (a := a₁) {
    id := chance.uuid (a.draws.ids + 1), createdAt := a.now, role := .responder
    state := .invitationSent
    invitation := some (invitationOf r (chance.uuid a.draws.ids) (label.getD a.settings.label))
    multiUse
    verkey := some r.recipientKey.base58
    mediatorId := r.mediatorId } new
  refine ⟨_, _, a', ?_, rfl, rfl, ⟨moves.settings, moves.wallet, moves.ids, moves.seeds, moves.dids,
    moves.connections⟩⟩
  have first : drawId.run a = (.ok (chance.uuid a.draws.ids), (drawId.run a).2) := rfl
  have second : (newConnection .responder .invitationSent).run (drawId.run a).2
      = (.ok { id := chance.uuid (a.draws.ids + 1), createdAt := a.now, role := .responder,
               state := .invitationSent }, a₁) := rfl
  rw [createInvitation, Step.bind_view, Step.bind_ok first]
  dsimp only
  rw [Step.bind_ok second]
  exact Step.bind_ok hsave

theorem receiveInvitation_run (i : Invitation) (autoAccept : Option Bool)
    (new : a.connections.find? (chance.uuid a.draws.ids) = none) :
    ∃ c a', (receiveInvitation i autoAccept).run a = (.ok c, a') ∧
      c = {
        id := chance.uuid a.draws.ids, createdAt := a.now, role := .requester
        state := .invitationReceived
        theirLabel := some i.label
        invitation := some i
        autoAccept } ∧
      Moves a a' 1 [] (a.connections.records ++ [c]) := by
  let a₁ : Agent := { a with draws := { a.draws with ids := a.draws.ids + 1 } }
  obtain ⟨a', hsave, moves⟩ := saveConnection_run (a := a₁) {
    id := chance.uuid a.draws.ids, createdAt := a.now, role := .requester
    state := .invitationReceived
    theirLabel := some i.label
    invitation := some i
    autoAccept } new
  refine ⟨_, a', ?_, rfl, ⟨moves.settings, moves.wallet, moves.ids, moves.seeds, moves.dids,
    moves.connections⟩⟩
  have first : (newConnection .requester .invitationReceived).run a
      = (.ok { id := chance.uuid a.draws.ids, createdAt := a.now, role := .requester,
               state := .invitationReceived }, a₁) := rfl
  rw [receiveInvitation, Step.bind_ok first, hsave]

/-! ## The steps of an exchange -/

variable (lawful : suite.Lawful)

/-- What a side needs to tell a routing under a new DID: the DID is not stored yet, and the key that
signs is in the wallet. -/
structure Tells (a : Agent) (r : Routing) (p : PeerDid) (signer : Key) : Prop where
  sound : r.Sound
  form : a.settings.exchangeForm ≠ .inceptionKey
  peer : r.peerDid a.settings.exchangeForm (chance.uuid a.draws.ids)
    (chance.uuid (a.draws.ids + 1)) = .ok p
  new : a.dids.find? p.did = none
  signs : signer.kind = .ed25519
  held : a.wallet.holds signer = true

include lawful in
/-- The DID of a routing is made, a message drawn, and the attachment of the DID. -/
theorem tell_run {r : Routing} {p : PeerDid} {signer : Key} (h : Tells a r p signer) :
    ∃ a₁ a₂ a₃ attachment record,
      (createPeerDid r a.settings.exchangeForm).run a = (.ok p, a₁) ∧
      drawId.run a₁ = (.ok (chance.uuid (a.draws.ids + 2)), a₂) ∧
      (attachmentFor p signer).run a₂ = (.ok (some attachment), a₃) ∧
      record.Of .created p r ∧ Gains a a₃ 4 [record] ∧ attachment.Plain ∧
      ∀ allowed, signer ∈ r.recipientKey :: allowed →
        theirPeerDid p.did (some attachment) allowed = .ok p := by
  obtain ⟨p', a₁, record, hp, made, hcreate, isOf, gains⟩ := createPeerDid_run h.sound h.form
    (fun p' hp' => by
      obtain rfl : p = p' := Except.ok.inj (h.peer.symm.trans hp')
      exact h.new)
  obtain rfl : p = p' := Except.ok.inj (h.peer.symm.trans hp)
  let a₂ : Agent := { a₁ with draws := { a₁.draws with ids := a₁.draws.ids + 1 } }
  have draw : drawId.run a₁ = (.ok (chance.uuid (a.draws.ids + 2)), a₂) := by
    rw [← gains.ids]
    rfl
  have drew : Gains a₁ a₂ 1 [] := ⟨rfl, rfl, rfl, rfl, rfl, (List.append_nil _).symm⟩
  have held : a₂.wallet.holds signer = true := by
    rw [drew.wallet, gains.wallet]
    exact h.held
  obtain ⟨attachment, a₃, hattachment, gains', plain, told⟩ :=
    attachmentFor_run lawful made h.signs held
  exact ⟨a₁, a₂, a₃, attachment, record, hcreate, draw, hattachment, isOf,
    (gains.trans drew).trans gains', plain, told⟩

include lawful in
theorem createRequest_run {r : Routing} {p : PeerDid} (h : Tells a r p r.recipientKey)
    (last : a.connections.records = front ++ [c]) (role : c.role = .requester)
    (state : c.state = .invitationReceived) {i : Invitation} (invitation : c.invitation = some i)
    (options : RequestOptions) :
    ∃ m a' attachment record,
      (createRequest c r options).run a = (.ok (m, (c.requestSent r p.did m.id options).next), a') ∧
      m = .telling m.id (options.label.getD a.settings.label) i.id p.did options attachment ∧
      attachment.Plain ∧ theirPeerDid p.did (some attachment) [] = .ok p ∧
      record.Of .created p r ∧
      Moves a a' 4 [record] (front ++ [(c.requestSent r p.did m.id options).next]) := by
  obtain ⟨a₁, a₂, a₃, attachment, record, hcreate, draw, hattachment, isOf, gains, plain, told⟩ :=
    tell_run lawful h
  have advance : c.advance .create .exchangeRequest = .ok .requestSent := by
    rw [Connection.advance, role, state]
    rfl
  let thread := chance.uuid (a.draws.ids + 2)
  obtain ⟨a', hupdate, moves⟩ := updateConnection_run (c := c) (gains.connections ▸ last)
    (c.requestSent r p.did thread options) rfl rfl
  refine ⟨.telling thread (options.label.getD a.settings.label) i.id p.did options attachment, a',
    attachment, record, ?_, rfl, plain, told [] List.mem_cons_self, isOf, gains.then moves⟩
  rw [createRequest, Step.bind_lift (Connection.requireInvitation_eq_ok.mpr invitation),
    Step.bind_lift advance, Step.bind_view, Step.bind_ok hcreate, Step.bind_ok draw]
  dsimp only
  rw [Step.bind_ok hattachment]
  exact Step.bind_ok hupdate

/-- The request that answers the connection's invitation, and whose DID is taken in. -/
structure Answers (a : Agent) (c : Connection) (m : Request) (p : PeerDid) (r : Routing) : Prop where
  role : c.role = .responder
  state : c.state = .invitationSent
  parent : c.invitationId.isSome ∧ c.invitationId = Thread.parentOf m.thread
  did : m.did = p.did
  made : p.Made r
  told : theirPeerDid p.did m.attachment [] = .ok p
  new : a.dids.find? p.did = none

/-- A request whose DID was taken in moves the connection of an invitation that is answered once. -/
theorem processRequest_accepted {m : Request} {a₁ : Agent} (role : c.role = .responder)
    (state : c.state = .invitationSent)
    (parent : c.invitationId.isSome ∧ c.invitationId = Thread.parentOf m.thread)
    (once : c.multiUse = false)
    (accepted : (acceptTheirDid m.did m.attachment []).run a = (.ok (), a₁))
    (last : a₁.connections.records = front ++ [c]) :
    ∃ a', (processRequest c m none).run a = (.ok (requested c m).next, a') ∧
      Moves a₁ a' 0 [] (front ++ [(requested c m).next]) := by
  have advance : c.advance .process .exchangeRequest = .ok .requestReceived := by
    rw [Connection.advance, role, state]
    rfl
  obtain ⟨a', hupdate, moves⟩ := updateConnection_run last (requested c m) rfl rfl
  refine ⟨a', ?_, moves⟩
  have single : ¬ c.multiUse = true := by rw [once]; exact nofun
  have answer : (answering c none).run a = (.ok c, a) := by
    rw [answering, if_neg single]
    rfl
  rw [processRequest, Step.bind_lift advance, Step.bind_lift (checkReference_eq_ok.mpr parent),
    Step.bind_ok answer, Step.bind_ok accepted, if_neg single]
  exact hupdate

/-- A request for an invitation that is answered once moves the connection of the invitation. -/
theorem processRequest_run {m : Request} {p : PeerDid} {r : Routing} (h : Answers a c m p r)
    (last : a.connections.records = front ++ [c]) (once : c.multiUse = false) :
    ∃ a' record, (processRequest c m none).run a = (.ok (requested c m).next, a') ∧
      record.Of .received p r ∧ Moves a a' 0 [record] (front ++ [(requested c m).next]) := by
  obtain ⟨a₁, record, accepted, isOf, gains⟩ := acceptTheirDid_run h.made h.told h.new
  rw [← h.did] at accepted
  obtain ⟨a', taken, moves⟩ := processRequest_accepted h.role h.state h.parent once accepted
    (gains.connections ▸ last)
  exact ⟨a', record, taken, isOf, gains.then moves⟩

theorem answering_fork (many : c.multiUse = true) (own : Routing) (a : Agent) :
    (answering c (some own)).run a = (.ok (forked c own (chance.uuid a.draws.ids) a.now),
      { a with draws := { a.draws with ids := a.draws.ids + 1 } }) := by
  rw [answering, if_pos many]
  rfl

/-- A request for an invitation for many is answered on a connection of its own. -/
theorem processRequest_fork {m : Request} {p : PeerDid} {r : Routing} (own : Routing)
    (h : Answers a c m p r) (many : c.multiUse = true)
    (new : a.connections.find? (chance.uuid a.draws.ids) = none) :
    ∃ c' a' record, (processRequest c m (some own)).run a = (.ok c', a') ∧
      c' = requested (forked c own (chance.uuid a.draws.ids) a.now) m ∧
      record.Of .received p r ∧
      Moves a a' 1 [record] (a.connections.records ++ [c']) := by
  have advance : c.advance .process .exchangeRequest = .ok .requestReceived := by
    rw [Connection.advance, h.role, h.state]
    rfl
  let a₁ : Agent := { a with draws := { a.draws with ids := a.draws.ids + 1 } }
  have drew : Gains a a₁ 1 [] := ⟨rfl, rfl, rfl, rfl, rfl, (List.append_nil _).symm⟩
  obtain ⟨a₂, record, haccept, isOf, gains⟩ := acceptTheirDid_run (a := a₁) h.made h.told h.new
  have unsaved : a₂.connections.find? (chance.uuid a.draws.ids) = none := by
    rw [gains.connections]
    exact new
  let c' : Connection := requested (forked c own (chance.uuid a.draws.ids) a.now) m
  obtain ⟨a', hsave, moves⟩ := saveConnection_run c' unsaved
  refine ⟨c', a', record, ?_, rfl, isOf, ?_⟩
  · have answer := answering_fork many own a
    rw [processRequest, Step.bind_lift advance, Step.bind_lift (checkReference_eq_ok.mpr h.parent),
      Step.bind_ok answer, h.did, Step.bind_ok haccept, if_pos many, ← h.did]
    exact hsave
  · have all := (drew.trans gains).then moves
    rw [gains.connections] at all
    exact all

include lawful in
theorem createResponse_run {own : Option Routing} {r : Routing} {i : Invitation} {key : Key}
    {p : PeerDid} (h : Tells a r p key) (last : a.connections.records = front ++ [c])
    (role : c.role = .responder) (state : c.state = .requestReceived) {thread : String}
    (threadId : c.threadId = some thread) (invitation : c.invitation = some i)
    (hkey : i.requireKey = .ok key) (routing : responseRouting c i key a.settings own = .ok r) :
    ∃ m a' attachment record,
      (createResponse c own).run a = (.ok (m, (c.responseSent r p.did).next), a') ∧
      m = .telling m.id p.did thread attachment ∧
      attachment.Plain ∧ theirPeerDid p.did (some attachment) [key] = .ok p ∧
      record.Of .created p r ∧
      Moves a a' 4 [record] (front ++ [(c.responseSent r p.did).next]) := by
  obtain ⟨a₁, a₂, a₃, attachment, record, hcreate, draw, hattachment, isOf, gains, plain, told⟩ :=
    tell_run lawful h
  have advance : c.advance .create .exchangeResponse = .ok .responseSent := by
    rw [Connection.advance, role, state]
    rfl
  obtain ⟨a', hupdate, moves⟩ := updateConnection_run (c := c) (gains.connections ▸ last)
    (c.responseSent r p.did) rfl rfl
  have known : key ∈ [r.recipientKey, key] := List.mem_cons_of_mem _ (List.mem_singleton.mpr rfl)
  refine ⟨.telling (chance.uuid (a.draws.ids + 2)) p.did thread attachment, a', attachment, record,
    ?_, rfl, plain, told [key] known, isOf, gains.then moves⟩
  rw [createResponse, Step.bind_lift advance,
    Step.bind_lift (Connection.requireThread_eq_ok.mpr threadId),
    Step.bind_lift (Connection.requireInvitation_eq_ok.mpr invitation), Step.bind_lift hkey,
    Step.bind_view, Step.bind_lift routing, Step.bind_ok hcreate, Step.bind_ok draw]
  dsimp only
  rw [Step.bind_ok hattachment]
  exact Step.bind_ok hupdate

omit chance in
theorem processResponse_run {m : Response} {p : PeerDid} {r : Routing} (made : p.Made r)
    (did : m.did = p.did) {i : Invitation} (invitation : c.invitation = some i) {keys : List Key}
    (hkeys : i.recipients = .ok keys) (told : theirPeerDid p.did m.attachment keys = .ok p)
    (new : a.dids.find? p.did = none) (last : a.connections.records = front ++ [c])
    (role : c.role = .requester) (state : c.state = .requestSent)
    (thread : c.threadId = some (Thread.idOf m.id m.thread)) :
    ∃ a' record, (processResponse c m).run a = (.ok (c.responseReceived p.did).next, a') ∧
      record.Of .received p r ∧
      Moves a a' 0 [record] (front ++ [(c.responseReceived p.did).next]) := by
  have advance : c.advance .process .exchangeResponse = .ok .responseReceived := by
    rw [Connection.advance, role, state]
    rfl
  have reference : checkReference "thread id" c.threadId (some (Thread.idOf m.id m.thread))
      = .ok () := checkReference_eq_ok.mpr ⟨by rw [thread]; rfl, thread⟩
  obtain ⟨a₁, record, haccept, isOf, gains⟩ := acceptTheirDid_run made told new
  obtain ⟨a', hupdate, moves⟩ := updateConnection_run (c := c) (gains.connections ▸ last)
    (c.responseReceived p.did) rfl rfl
  refine ⟨a', record, ?_, isOf, gains.then moves⟩
  rw [processResponse, Step.bind_lift advance, Step.bind_lift reference,
    Step.bind_lift (Connection.requireInvitation_eq_ok.mpr invitation), Step.bind_lift hkeys, did,
    Step.bind_ok haccept]
  exact hupdate

theorem createComplete_run (last : a.connections.records = front ++ [c])
    (role : c.role = .requester) (state : c.state = .responseReceived) {thread : String}
    (threadId : c.threadId = some thread) {i : Invitation} (invitation : c.invitation = some i) :
    ∃ m a', (createComplete c).run a = (.ok (m, c.completed.next), a') ∧
      m = Complete.new m.id thread (some i.id) ∧ Moves a a' 1 [] (front ++ [c.completed.next]) := by
  have advance : c.advance .create .exchangeComplete = .ok .completed := by
    rw [Connection.advance, role, state]
    rfl
  let a₁ : Agent := { a with draws := { a.draws with ids := a.draws.ids + 1 } }
  have draw : drawId.run a = (.ok (chance.uuid a.draws.ids), a₁) := rfl
  have drew : Gains a a₁ 1 [] := ⟨rfl, rfl, rfl, rfl, rfl, (List.append_nil _).symm⟩
  obtain ⟨a', hupdate, moves⟩ := updateConnection_run (a := a₁) last c.completed rfl rfl
  refine ⟨Complete.new (chance.uuid a.draws.ids) thread (some i.id), a', ?_, rfl, drew.then moves⟩
  rw [createComplete, Step.bind_lift advance,
    Step.bind_lift (Connection.requireThread_eq_ok.mpr threadId),
    Step.bind_lift (Connection.requireInvitation_eq_ok.mpr invitation), Step.bind_ok draw]
  exact Step.bind_ok hupdate

omit chance in
theorem processComplete_run {m : Complete} (last : a.connections.records = front ++ [c])
    (role : c.role = .responder) (state : c.state = .responseSent)
    (thread : c.threadId = some (Thread.idOf m.id m.thread))
    (parent : c.invitationId.isSome ∧ c.invitationId = Thread.parentOf m.thread) :
    ∃ a', (processComplete c m).run a = (.ok c.completed.next, a') ∧
      Moves a a' 0 [] (front ++ [c.completed.next]) := by
  have advance : c.advance .process .exchangeComplete = .ok .completed := by
    rw [Connection.advance, role, state]
    rfl
  have reference : checkReference "thread id" c.threadId (some (Thread.idOf m.id m.thread))
      = .ok () := checkReference_eq_ok.mpr ⟨by rw [thread]; rfl, thread⟩
  obtain ⟨a', hupdate, moves⟩ := updateConnection_run last c.completed rfl rfl
  refine ⟨a', ?_, moves⟩
  rw [processComplete, Step.bind_lift advance, Step.bind_lift reference,
    Step.bind_lift (checkReference_eq_ok.mpr parent)]
  exact hupdate

end Exchange

end Agent

end Pairwise
