import Pairwise.Agent.Exchange
import Pairwise.Proofs.Steps
import Pairwise.Proofs.Stores
/-!
# What the steps of an exchange do

Every step of an exchange asks the state first, works quietly, and stores one connection at its end.
For each step there is one lemma that says all that has happened when it succeeds; a step that fails
has been quiet.

Results:
* `Agent.Stores`: an agent has worked quietly, and then stored one connection.
* `createRequest_ok`, `processRequest_ok`, `createResponse_ok`, `processResponse_ok`,
  `createComplete_ok`, `processComplete_ok`, `processExchangeProblem_ok`: what a step that succeeds
  has done.
* `createRequest_failsQuietly` and the others: a step that fails has been quiet.
-/
namespace Pairwise

open Step

/-! ## The state a step asks for -/

/-- A state that follows is the target of the side's transition, and the state before is one of its
sources. -/
theorem Transition.source_of_apply {direction : Direction} {kind : MessageKind} {role : ExchangeRole}
    {state next : ExchangeState} (h : apply direction kind role state = .ok next) :
    ∃ sources, find? direction kind role = some ⟨sources, next⟩ ∧ state ∈ sources := by
  unfold apply at h
  split at h
  · next t ht =>
    split at h
    · next hs =>
      cases h
      exact ⟨t.sources, ht, List.contains_iff_mem.mp hs⟩
    · cases h
  · cases h

/-! The transitions, one by one: who makes or takes in a message, in which state, and the state
after it. -/

namespace Transition

variable {role : ExchangeRole} {state next : ExchangeState}

theorem create_request (h : apply .create .exchangeRequest role state = .ok next) :
    role = .requester ∧ (state = .start ∨ state = .invitationReceived) ∧ next = .requestSent := by
  obtain ⟨sources, ht, hs⟩ := source_of_apply h
  cases role <;> cases ht
  simpa using hs

theorem process_request (h : apply .process .exchangeRequest role state = .ok next) :
    role = .responder ∧ (state = .start ∨ state = .invitationSent) ∧ next = .requestReceived := by
  obtain ⟨sources, ht, hs⟩ := source_of_apply h
  cases role <;> cases ht
  simpa using hs

theorem create_response (h : apply .create .exchangeResponse role state = .ok next) :
    role = .responder ∧ state = .requestReceived ∧ next = .responseSent := by
  obtain ⟨sources, ht, hs⟩ := source_of_apply h
  cases role <;> cases ht
  simpa using hs

theorem process_response (h : apply .process .exchangeResponse role state = .ok next) :
    role = .requester ∧ state = .requestSent ∧ next = .responseReceived := by
  obtain ⟨sources, ht, hs⟩ := source_of_apply h
  cases role <;> cases ht
  simpa using hs

theorem create_complete (h : apply .create .exchangeComplete role state = .ok next) :
    role = .requester ∧ state = .responseReceived ∧ next = .completed := by
  obtain ⟨sources, ht, hs⟩ := source_of_apply h
  cases role <;> cases ht
  simpa using hs

theorem process_complete (h : apply .process .exchangeComplete role state = .ok next) :
    role = .responder ∧ state = .responseSent ∧ next = .completed := by
  obtain ⟨sources, ht, hs⟩ := source_of_apply h
  cases role <;> cases ht
  simpa using hs

theorem process_problem (h : apply .process .exchangeProblem role state = .ok next) :
    state.isTerminal = false ∧ next = .abandoned := by
  obtain ⟨sources, ht, hs⟩ := source_of_apply h
  cases ht
  simpa [openStates] using (List.mem_filter.mp hs).2

end Transition

theorem checkReference_eq_ok {what : String} {expected received : Option String} :
    checkReference what expected received = .ok () ↔ expected.isSome ∧ expected = received := by
  unfold checkReference
  split
  · next h => exact ⟨fun _ => h, fun _ => rfl⟩
  · next h => exact ⟨fun e => (nomatch e), fun e => absurd e h⟩

namespace Connection

theorem requireInvitation_eq_ok {c : Connection} {i : Invitation} :
    c.requireInvitation = .ok i ↔ c.invitation = some i := by
  unfold requireInvitation
  split
  · next j h => rw [h]; simp
  · next h => rw [h]; simp

theorem requireThread_eq_ok {c : Connection} {thread : String} :
    c.requireThread = .ok thread ↔ c.threadId = some thread := by
  unfold requireThread
  split
  · next j h => rw [h]; simp
  · next h => rw [h]; simp

end Connection

variable [Suite]

/-! ## Storing a connection -/

/-- The agent afterwards is a later one, in which the connection `next` has taken the place of the
one that was stored under its id, in the version `stored`. -/
structure Agent.Stores (a : Agent) (next stored : Connection) (a' : Agent) : Prop
    extends Agent.Later a a' where
  update : a.connections.update next = .ok (stored, a'.connections)

namespace Agent

theorem updateConnection_ok {a a₁ a' : Agent} {next stored : Connection} (quiet : Quiet a a₁)
    (h : (updateConnection next).run a₁ = (.ok stored, a')) : Stores a next stored a' := by
  obtain ⟨connections, updated, rfl⟩ := updateConnection_run_ok.mp h
  rw [quiet.connections] at updated
  exact ⟨⟨quiet.settings, quiet.wallet, quiet.dids, quiet.ids, quiet.seeds, quiet.now⟩, updated⟩

/-- The connection that was stored is the new one in its next version. -/
theorem Stores.stored_eq {a a' : Agent} {next stored : Connection} (h : Stores a next stored a') :
    stored = { next with version := next.version + 1 } := (Store.update_eq_ok.mp h.update).2.1

theorem Stores.find?_self {a a' : Agent} {next stored : Connection} (h : Stores a next stored a') :
    a'.connections.find? next.id = some stored := Store.find?_update_self h.update

theorem Stores.find?_of_ne {a a' : Agent} {next stored : Connection} (h : Stores a next stored a')
    {id : String} (hne : id ≠ next.id) : a'.connections.find? id = a.connections.find? id :=
  Store.find?_update_of_ne h.update hne

variable [Chance] {a a' : Agent} {c stored : Connection}

/-! ## The requester's and the responder's messages -/

theorem createRequest_ok {r : Routing} {options : RequestOptions} {m : Request}
    (h : (createRequest c r options).run a = (.ok (m, stored), a')) :
    ∃ (invitation : Invitation) (peer : PeerDid) (id : String) (attachment : Option Attachment),
      c.invitation = some invitation ∧ c.role = .requester ∧
      (c.state = .start ∨ c.state = .invitationReceived) ∧
      m = { Request.new id (options.label.getD a.settings.label) invitation.id peer.did with
        goalCode := options.goalCode, goal := options.goal, attachment } ∧
      Stores a { c with
        did := some peer.did
        verkey := some r.recipientKey.base58
        threadId := some id
        mediatorId := r.mediatorId
        autoAccept := options.autoAccept.or c.autoAccept
        state := .requestSent } stored a' := by
  simp only [createRequest, bind_run_ok, lift_run_ok, view_run_ok, pure_run_ok, Prod.mk.injEq] at h
  obtain ⟨invitation, _, ⟨hinvitation, rfl⟩, state, _, ⟨hstate, rfl⟩, _, _, ⟨rfl, rfl⟩, peer, a₁,
    hpeer, id, a₂, hid, attachment, a₃, hattachment, _, _, hupdate, ⟨rfl, rfl⟩, rfl⟩ := h
  obtain ⟨hrole, hsource, rfl⟩ := Transition.create_request hstate
  have quiet : Quiet a a₃ := IsTrans.trans _ _ _ ((createPeerDid_quiet _ _).of_run hpeer)
    (IsTrans.trans _ _ _ (drawId_quiet.of_run hid) ((attachmentFor_quiet _ _).of_run hattachment))
  exact ⟨invitation, peer, id, attachment, Connection.requireInvitation_eq_ok.mp hinvitation, hrole,
    hsource, rfl, updateConnection_ok quiet hupdate⟩

theorem createRequest_failsQuietly (r : Routing) (options : RequestOptions) :
    (createRequest c r options).FailsQuietly := by
  unfold createRequest
  refine .bind (.lift _) fun _ => .bind (.lift _) fun _ => .bind (.view _) fun _ => ?_
  refine .bind (createPeerDid_quiet _ _) fun _ => .bind drawId_quiet fun _ => ?_
  exact .bind (attachmentFor_quiet _ _) fun _ => .bind_pure (updateConnection_failsQuietly _) _

/-- The connection of its own on which a request for an invitation for many is answered. -/
def forked (c : Connection) (own : Routing) (id : String) (now : Timestamp) : Connection where
  id := id
  createdAt := now
  role := c.role
  state := c.state
  invitation := c.invitation
  autoAccept := c.autoAccept
  customTags := c.customTags
  verkey := some own.recipientKey.base58
  mediatorId := own.mediatorId

/-- The connection that a request is answered on is the one that waits, or a new one. -/
theorem answering_ok {r : Option Routing} {answer : Connection}
    (h : (answering c r).run a = (.ok answer, a')) :
    c.multiUse = false ∧ answer = c ∧ a' = a ∨
      c.multiUse = true ∧ ∃ own id, r = some own ∧ Quiet a a' ∧ answer = forked c own id a.now := by
  unfold answering at h
  split at h
  · next hm =>
    refine .inr ⟨hm, ?_⟩
    split at h
    · cases h
    · next r' =>
      simp only [newConnection, bind_run_ok, view_run_ok, pure_run_ok] at h
      obtain ⟨_, a₁, ⟨id, _, hid, _, _, ⟨rfl, rfl⟩, rfl, rfl⟩, rfl, rfl⟩ := h
      have quiet := drawId_quiet.of_run hid
      refine ⟨r', id, rfl, quiet, ?_⟩
      rw [forked, quiet.now]
  · next hm =>
    obtain ⟨rfl, rfl⟩ := pure_run_ok.mp h
    exact .inl ⟨Bool.eq_false_iff.mpr hm, rfl, rfl⟩

theorem answering_quiet (c : Connection) (r : Option Routing) : Keeps Quiet (answering c r) := by
  unfold answering
  split
  · split
    · exact .fail _
    · exact .bind (newConnection_quiet _ _) fun _ => .pure _
  · exact .pure _

/-- The answer to a request, once its sender's DID is stored. -/
def requested (answer : Connection) (m : Request) : Connection :=
  { answer with
    theirDid := some m.did
    theirLabel := some m.label
    threadId := some m.id
    state := .requestReceived }

theorem processRequest_ok {m : Request} {r : Option Routing}
    (h : (processRequest c m r).run a = (.ok stored, a')) :
    c.role = .responder ∧ (c.state = .start ∨ c.state = .invitationSent) ∧
      (c.invitationId.isSome ∧ c.invitationId = Thread.parentOf m.thread) ∧
      (c.multiUse = false ∧ Stores a (requested c m) stored a' ∨
        c.multiUse = true ∧ Later a a' ∧ ∃ a₁ answer, (answering c r).run a = (.ok answer, a₁) ∧
          stored = requested answer m ∧ a.connections.save stored = .ok a'.connections) := by
  simp only [processRequest, bind_run_ok, lift_run_ok] at h
  obtain ⟨state, _, ⟨hstate, rfl⟩, ⟨⟩, _, ⟨href, rfl⟩, answer, a₁, hanswer, ⟨⟩, a₂, haccept, h⟩ := h
  obtain ⟨hrole, hsource, rfl⟩ := Transition.process_request hstate
  refine ⟨hrole, hsource, checkReference_eq_ok.mp href, ?_⟩
  have quiet : Quiet a a₂ := IsTrans.trans _ _ _ ((answering_quiet _ _).of_run hanswer)
    ((acceptTheirDid_quiet _ _ _).of_run haccept)
  split at h
  · next hm =>
    refine .inr ⟨hm, ?_⟩
    obtain ⟨rfl, connections, saved, rfl⟩ := saveConnection_run_ok.mp h
    rw [quiet.connections] at saved
    exact ⟨⟨quiet.settings, quiet.wallet, quiet.dids, quiet.ids, quiet.seeds, quiet.now⟩, a₁,
      answer, hanswer, rfl, saved⟩
  · next hm =>
    refine .inl ⟨Bool.eq_false_iff.mpr hm, ?_⟩
    rcases answering_ok hanswer with ⟨-, rfl, -⟩ | ⟨hm', -⟩
    · exact updateConnection_ok quiet h
    · exact absurd hm' hm

theorem processRequest_failsQuietly (m : Request) (r : Option Routing) :
    (processRequest c m r).FailsQuietly := by
  unfold processRequest
  refine .bind (.lift _) fun _ => .bind (.lift _) fun _ => .bind (answering_quiet _ _) fun _ => ?_
  refine .bind (acceptTheirDid_quiet _ _ _) fun _ => ?_
  dsimp only
  split
  · exact saveConnection_failsQuietly _
  · exact updateConnection_failsQuietly _

theorem createResponse_ok {r : Option Routing} {m : Response}
    (h : (createResponse c r).run a = (.ok (m, stored), a')) :
    ∃ (thread : String) (invitation : Invitation) (key : Key) (r' : Routing) (peer : PeerDid)
        (id : String) (attachment : Option Attachment),
      c.role = .responder ∧ c.state = .requestReceived ∧
      c.threadId = some thread ∧ c.invitation = some invitation ∧ invitation.requireKey = .ok key ∧
      responseRouting c invitation key a.settings r = .ok r' ∧
      m = { Response.new id peer.did thread with attachment } ∧
      Stores a { c with did := some peer.did, mediatorId := r'.mediatorId, state := .responseSent }
        stored a' := by
  simp only [createResponse, bind_run_ok, lift_run_ok, view_run_ok, pure_run_ok, Prod.mk.injEq] at h
  obtain ⟨state, _, ⟨hstate, rfl⟩, thread, _, ⟨hthread, rfl⟩, invitation, _, ⟨hinvitation, rfl⟩, key,
    _, ⟨hkey, rfl⟩, _, _, ⟨rfl, rfl⟩, r', _, ⟨hr, rfl⟩, peer, a₁, hpeer, id, a₂, hid, attachment, a₃,
    hattachment, _, _, hupdate, ⟨rfl, rfl⟩, rfl⟩ := h
  obtain ⟨hrole, hsource, rfl⟩ := Transition.create_response hstate
  have quiet : Quiet a a₃ := IsTrans.trans _ _ _ ((createPeerDid_quiet _ _).of_run hpeer)
    (IsTrans.trans _ _ _ (drawId_quiet.of_run hid) ((attachmentFor_quiet _ _).of_run hattachment))
  exact ⟨thread, invitation, key, r', peer, id, attachment, hrole, hsource,
    Connection.requireThread_eq_ok.mp hthread, Connection.requireInvitation_eq_ok.mp hinvitation, hkey,
    hr, rfl, updateConnection_ok quiet hupdate⟩

theorem createResponse_failsQuietly (r : Option Routing) : (createResponse c r).FailsQuietly := by
  unfold createResponse
  refine .bind (.lift _) fun _ => .bind (.lift _) fun _ => .bind (.lift _) fun _ => ?_
  refine .bind (.lift _) fun _ => .bind (.view _) fun _ => .bind (.lift _) fun _ => ?_
  refine .bind (createPeerDid_quiet _ _) fun _ => .bind drawId_quiet fun _ => ?_
  exact .bind (attachmentFor_quiet _ _) fun _ => .bind_pure (updateConnection_failsQuietly _) _

omit [Chance] in
theorem processResponse_ok {m : Response}
    (h : (processResponse c m).run a = (.ok stored, a')) :
    c.role = .requester ∧ c.state = .requestSent ∧
      (c.threadId.isSome ∧ c.threadId = some (Thread.idOf m.id m.thread)) ∧
      (∃ invitation, c.invitation = some invitation) ∧
      Stores a { c with theirDid := some m.did, state := .responseReceived } stored a' := by
  simp only [processResponse, bind_run_ok, lift_run_ok] at h
  obtain ⟨state, _, ⟨hstate, rfl⟩, ⟨⟩, _, ⟨href, rfl⟩, invitation, _, ⟨hinvitation, rfl⟩, keys, _,
    ⟨hkeys, rfl⟩, ⟨⟩, a₁, haccept, hupdate⟩ := h
  obtain ⟨hrole, hsource, rfl⟩ := Transition.process_response hstate
  have quiet : Quiet a a₁ := (acceptTheirDid_quiet _ _ _).of_run haccept
  exact ⟨hrole, hsource, checkReference_eq_ok.mp href,
    ⟨invitation, Connection.requireInvitation_eq_ok.mp hinvitation⟩, updateConnection_ok quiet hupdate⟩

omit [Chance] in
theorem processResponse_failsQuietly (m : Response) : (processResponse c m).FailsQuietly := by
  unfold processResponse
  refine .bind (.lift _) fun _ => .bind (.lift _) fun _ => .bind (.lift _) fun _ => ?_
  refine .bind (.lift _) fun _ => .bind (acceptTheirDid_quiet _ _ _) fun _ => ?_
  exact updateConnection_failsQuietly _

theorem createComplete_ok {m : Complete}
    (h : (createComplete c).run a = (.ok (m, stored), a')) :
    ∃ thread invitation id, c.role = .requester ∧ c.state = .responseReceived ∧
      c.threadId = some thread ∧ c.invitation = some invitation ∧
      m = Complete.new id thread (some invitation.id) ∧
      Stores a { c with state := .completed } stored a' := by
  simp only [createComplete, bind_run_ok, lift_run_ok, pure_run_ok, Prod.mk.injEq] at h
  obtain ⟨state, _, ⟨hstate, rfl⟩, thread, _, ⟨hthread, rfl⟩, invitation, _, ⟨hinvitation, rfl⟩, id, a₁,
    hid, _, _, hupdate, ⟨rfl, rfl⟩, rfl⟩ := h
  obtain ⟨hrole, hsource, rfl⟩ := Transition.create_complete hstate
  exact ⟨thread, invitation, id, hrole, hsource, Connection.requireThread_eq_ok.mp hthread,
    Connection.requireInvitation_eq_ok.mp hinvitation, rfl,
    updateConnection_ok (drawId_quiet.of_run hid) hupdate⟩

theorem createComplete_failsQuietly : (createComplete c).FailsQuietly := by
  unfold createComplete
  refine .bind (.lift _) fun _ => .bind (.lift _) fun _ => .bind (.lift _) fun _ => ?_
  exact .bind drawId_quiet fun _ => .bind_pure (updateConnection_failsQuietly _) _

omit [Chance] in
theorem processComplete_ok {m : Complete}
    (h : (processComplete c m).run a = (.ok stored, a')) :
    c.role = .responder ∧ c.state = .responseSent ∧
      (c.threadId.isSome ∧ c.threadId = some (Thread.idOf m.id m.thread)) ∧
      (c.invitationId.isSome ∧ c.invitationId = Thread.parentOf m.thread) ∧
      Stores a { c with state := .completed } stored a' := by
  simp only [processComplete, bind_run_ok, lift_run_ok] at h
  obtain ⟨state, _, ⟨hstate, rfl⟩, ⟨⟩, _, ⟨hthread, rfl⟩, ⟨⟩, _, ⟨hparent, rfl⟩, hupdate⟩ := h
  obtain ⟨hrole, hsource, rfl⟩ := Transition.process_complete hstate
  exact ⟨hrole, hsource, checkReference_eq_ok.mp hthread, checkReference_eq_ok.mp hparent,
    updateConnection_ok (refl a) hupdate⟩

omit [Chance] in
theorem processComplete_failsQuietly (m : Complete) : (processComplete c m).FailsQuietly := by
  unfold processComplete
  refine .bind (.lift _) fun _ => .bind (.lift _) fun _ => .bind (.lift _) fun _ => ?_
  exact updateConnection_failsQuietly _

omit [Chance] in
theorem processExchangeProblem_ok {m : ProblemReport}
    (h : (processExchangeProblem c m).run a = (.ok stored, a')) :
    c.state.isTerminal = false ∧ Stores a { c with state := .abandoned } stored a' := by
  simp only [processExchangeProblem, bind_run_ok, lift_run_ok] at h
  obtain ⟨state, _, ⟨hstate, rfl⟩, hupdate⟩ := h
  obtain ⟨hsource, rfl⟩ := Transition.process_problem hstate
  exact ⟨hsource, updateConnection_ok (refl a) hupdate⟩

omit [Chance] in
theorem processExchangeProblem_failsQuietly (m : ProblemReport) :
    (processExchangeProblem c m).FailsQuietly := by
  unfold processExchangeProblem
  exact .bind (.lift _) fun _ => updateConnection_failsQuietly _

end Agent

end Pairwise
