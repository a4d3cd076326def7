import Pairwise.Proofs.FailedSteps
import Pairwise.Proofs.ForeignMessages
import Pairwise.Proofs.MadeDids
import Pairwise.Proofs.PeerDidCodec
/-!
# Reports of problems

An agent tells its counterparty of some of the problems that it has with a message. A message that was
taken in may be answered at once, and the answer may fail as well; but what goes wrong with it is nothing
that the counterparty is told of. So a report always says that nothing has happened.

Results:
* `Outcome.Unreported`, `Step.Unreported`: whatever went wrong, it is not reported.
* `createResponse_unreported`: the answer to a request that was taken in fails without a report.
* `Agent.receive_reports`: a report leaves the connections as they are, and is addressed with the stored
  one.
-/
namespace Pairwise

open Step

variable {α β : Type}

/-- The message is a report of a problem, in the exchange or in a rotation. -/
def Message.IsReport : Message → Prop
  | .exchangeProblem _ | .rotateProblem _ => True
  | _ => False

/-! ## Results that are not reported -/

namespace Outcome

/-- Whatever went wrong, the counterparty is not told of it. -/
abbrev Unreported (x : Except Error α) : Prop := Fails (fun e => e.isReportable = false) x

end Outcome

open Outcome (Unreported)

/-! ## Keys and documents -/

/-- What is wrong with a key is not the counterparty's to know. -/
theorem Outcome.Fails.unreported {x : Except Error α} (h : Fails Error.OfKey x) : Unreported x := by
  refine h.imp fun e wrong => ?_
  cases e <;> first | rfl | cases wrong

namespace Key

theorem ofBase58_unreported (text : String) (kind : KeyKind) : Unreported (ofBase58 text kind) :=
  (ofBase58_fails text kind).unreported

theorem allOfBase58_unreported (texts : List String) : Unreported (allOfBase58 texts) :=
  .mapM fun _ _ => ofBase58_unreported _ _

variable [Suite]

theorem toX25519_unreported (k : Key) : Unreported k.toX25519 := k.toX25519_fails.unreported

theorem document_unreported (k : Key) (did : String) : Unreported (k.document did) :=
  (k.document_fails did).unreported

end Key

/-- What a connection's invitation names can be wrong, and is not the counterparty's fault. -/
theorem Invitation.requireKey_unreported (i : Invitation) : Unreported i.requireKey := by
  refine .bind (Key.allOfBase58_unreported _) fun keys _ => ?_
  split
  · exact .error rfl
  · exact .ok _

namespace Routing

variable [Suite]

theorem services_unreported (r : Routing) : Unreported r.services :=
  .bind (.mapM fun k _ => .bind k.toX25519_unreported fun _ _ => .ok _) fun _ _ => .ok _

theorem document_unreported (r : Routing) (agreement : Key) (authenticationId agreementId : String) :
    Unreported (r.document agreement authenticationId agreementId) :=
  .bind r.services_unreported fun _ _ => .ok _

end Routing

section Documents

variable [suite : Suite]

omit suite in
/-- The method of a key holds the bare text of the key. -/
theorem VerificationMethod.toKey_ofKey_eq (id controller : String) (k : Key) :
    (ofKey id controller k).toKey = Key.ofBase58 k.base58 k.kind := by
  obtain ⟨bytes, kind⟩ := k
  cases kind <;> rfl

/-- The document tells a routing: its key for signatures, and its services. -/
structure Document.IsFor (d : Document) (r : Routing) : Prop where
  authentication : ∃ id controller,
    d.authentication = [.embedded (.ofKey id controller r.recipientKey)]
  service : r.services = .ok d.service

namespace Document.IsFor

variable {d told : Document} {r : Routing} {form : PeerForm} {p : PeerDid}

theorem of_document {agreement : Key} {authenticationId agreementId : String}
    (h : r.document agreement authenticationId agreementId = .ok told) : told.IsFor r := by
  obtain ⟨services, made, h⟩ := Outcome.bind_eq_ok.mp h
  cases h
  exact ⟨⟨_, _, rfl⟩, made⟩

/-- The only key for signatures is read from the text of the key of the routing. -/
theorem authenticationKeys_eq (h : told.IsFor r) : told.authenticationKeys = (do
    let k ← Key.ofBase58 r.recipientKey.base58 r.recipientKey.kind
    return [k]) := by
  obtain ⟨id, controller, entries⟩ := h.authentication
  rw [Document.authenticationKeys, entries, List.mapM_cons, Document.entryKey,
    VerificationMethod.toKey_ofKey_eq]
  rfl

/-- A document with these services has recipient keys that are read from texts without a scheme. -/
theorem recipientFingerprints_unreported (h : told.IsFor r) (same : d.service = told.service) :
    Unreported d.recipientFingerprints := by
  obtain ⟨-, shape⟩ := Routing.services_shape h.service
  have sorted := Routing.mem_didcommServices (fun s hs => (shape s hs).1) same
  refine .bind (.bind (.mapM fun s hs => ?_) fun _ _ => .ok _) fun _ _ => .ok _
  rw [Document.serviceRecipientKeys, (shape s ((sorted s).mp hs)).2.2]
  refine .mapM fun text mem => ?_
  rw [List.mem_singleton.mp mem, Document.dereference_bare]
  exact Key.ofBase58_unreported _ _

theorem ofDocument_unreported (h : told.IsFor r) (form : PeerForm) :
    Unreported (PeerDid.ofDocument told form) := by
  cases form with
  | genesisHash => exact .ok _
  | hashAndDocument => exact .ok _
  | inceptionKey =>
    refine .bind ?_ fun keys _ => ?_
    · rw [h.authenticationKeys_eq]
      exact .bind (Key.ofBase58_unreported _ _) fun _ _ => .ok _
    · split
      · exact .bind (Key.document_unreported _ _) fun _ _ => .ok _
      · exact .error rfl

/-- A DID that is made for a routing is well formed. -/
theorem form_of_ofDocument (h : told.IsFor r) (made : PeerDid.ofDocument told form = .ok p) :
    PeerDid.form p.did = .ok form := by
  cases form with
  | genesisHash =>
    cases made
    exact PeerDid.form_ofGenesis told
  | hashAndDocument =>
    cases made
    exact PeerDid.form_ofHashAndDocument told
  | inceptionKey =>
    obtain ⟨keys, read, made⟩ := Outcome.bind_eq_ok.mp made
    rw [h.authenticationKeys_eq] at read
    obtain ⟨k, hk, read⟩ := Outcome.bind_eq_ok.mp read
    cases read
    obtain ⟨_, -, made⟩ := Outcome.bind_eq_ok.mp made
    cases made
    exact PeerDid.form_of_parts? (PeerDid.parts?_key (Key.sized_of_ofBase58 hk))

end Document.IsFor

end Documents

/-! ## Steps -/

section Steps

variable [suite : Suite]

namespace Step

/-- Whatever goes wrong with the step, the counterparty is not told of it. -/
def Unreported (x : Step α) : Prop := ∀ a, Outcome.Unreported (x.run a).1

namespace Unreported

theorem lift {x : Except Error α} (h : Outcome.Unreported x) : Unreported (liftM x : Step α) :=
  fun _ => h

theorem pure (r : α) : Unreported (Pure.pure r : Step α) := fun _ => .ok r

theorem view (f : Agent → α) : Unreported (Step.view f) := fun a => .ok (f a)

/-- The rest of a sequence may use what is known of the result of its first part. -/
theorem bind_of {x : Step α} {f : α → Step β} {P : α → Prop} (hx : Unreported x)
    (gives : ∀ a a' r, x.run a = (.ok r, a') → P r) (hf : ∀ r, P r → Unreported (f r)) :
    Unreported (x >>= f) := by
  intro a
  have first := hx a
  rw [run_bind]
  rcases run : x.run a with ⟨error | r, a'⟩
  · rw [run] at first
    exact .error (first error rfl)
  · exact hf r (gives a a' r run) a'

theorem bind {x : Step α} {f : α → Step β} (hx : Unreported x) (hf : ∀ r, Unreported (f r)) :
    Unreported (x >>= f) :=
  .bind_of (P := fun _ => True) hx (fun _ _ _ _ => trivial) fun r _ => hf r

theorem bind_lift {x : Except Error α} {f : α → Step β} (hx : Outcome.Unreported x)
    (hf : ∀ r, x = .ok r → Unreported (f r)) : Unreported ((liftM x : Step α) >>= f) :=
  .bind_of (.lift hx) (fun _ _ _ h => (lift_run_ok.mp h).1) hf

end Unreported

end Step

namespace Agent

theorem updateConnection_unreported (c : Connection) : Step.Unreported (updateConnection c) := by
  intro a
  have update : Outcome.Unreported (a.connections.update c) := by
    refine .bind ?_ fun stored _ => ?_
    · unfold Store.get
      split
      · exact .ok _
      · exact .error rfl
    · split
      · exact .error rfl
      · exact .ok _
  simp only [Step.run, updateConnection]
  split
  · exact .ok _
  · next h => exact .error (update _ h)

theorem saveNewDid_unreported (r : DidRecord) : Step.Unreported (saveNewDid r) := by
  refine .bind (.view _) fun known => ?_
  split
  · exact .pure _
  · intro a
    simp only [Step.run, saveDid, Store.save]
    split
    · exact .ok _
    · next h =>
      split at h
      · cases h
        exact .error rfl
      · cases h

variable [chance : Chance]

theorem drawId_unreported : Step.Unreported drawId := fun _ => .ok _

theorem routingDocument_unreported (r : Routing) : Step.Unreported (routingDocument r) := by
  refine .bind (.lift r.recipientKey.toX25519_unreported) fun _ => ?_
  refine .bind drawId_unreported fun _ => .bind drawId_unreported fun _ => ?_
  exact .lift (r.document_unreported _ _ _)

theorem routingDocument_isFor {r : Routing} {told : Document} {a a' : Agent}
    (h : (routingDocument r).run a = (.ok told, a')) : told.IsFor r := by
  simp only [routingDocument, bind_run_ok, lift_run_ok] at h
  obtain ⟨agreement, _, -, _, _, -, _, _, -, made, -⟩ := h
  exact .of_document made

theorem createPeerDid_unreported (r : Routing) (form : PeerForm) :
    Step.Unreported (createPeerDid r form) := by
  refine .bind_of (routingDocument_unreported r) (fun _ _ _ h => routingDocument_isFor h)
    fun told isFor => ?_
  refine .bind_lift (isFor.ofDocument_unreported form) fun p made => ?_
  split
  · exact fun _ => .error rfl
  · next derived known =>
    refine .bind (.view _) fun now => .bind (.lift ?_) fun record =>
      .bind (saveNewDid_unreported record) fun _ => .pure _
    refine .bind ?_ fun _ _ => .ok _
    exact isFor.recipientFingerprints_unreported (service_ownDocument made known)

/-- A DID that the agent makes is of the form that it asked for. -/
theorem createPeerDid_form {r : Routing} {form : PeerForm} {p : PeerDid} {a a' : Agent}
    (h : (createPeerDid r form).run a = (.ok p, a')) : PeerDid.form p.did = .ok form := by
  simp only [createPeerDid, bind_run_ok, lift_run_ok] at h
  obtain ⟨told, a₁, hdocument, q, _, ⟨made, rfl⟩, h⟩ := h
  obtain rfl : q = p := by
    split at h
    · cases h
    · simp only [bind_run_ok, pure_run_ok] at h
      obtain ⟨_, _, -, _, _, -, _, _, -, same, -⟩ := h
      exact same
  exact (routingDocument_isFor hdocument).form_of_ofDocument made

theorem attachmentFor_unreported {p : PeerDid} {form : PeerForm} (formed : PeerDid.form p.did = .ok form)
    (signer : Key) : Step.Unreported (attachmentFor p signer) := by
  have signs (w : Wallet) (d : Document) : Outcome.Unreported (SignedDocument.sign w d signer) := by
    refine .bind (.ok _) fun blank _ => .bind (.bind ?_ fun _ _ => .ok _) fun value _ => .ok _
    unfold Wallet.seedOf
    split
    · exact .ok _
    · exact .error rfl
  refine .bind (.lift (formed ▸ .ok form)) fun form => ?_
  split
  · exact .pure _
  · exact .pure _
  · exact .bind (fun a => signs a.wallet _) fun _ => .bind drawId_unreported fun _ => .pure _

/-- The answer to a request may be made in vain, but not for a reason that is reported: the connection is
where an answer is made, and all that it tells is the agent's own. -/
theorem createResponse_unreported {c : Connection} (role : c.role = .responder)
    (state : c.state = .requestReceived) (r : Option Routing) :
    Step.Unreported (createResponse c r) := by
  have advance : c.advance .create .exchangeResponse = .ok .responseSent := by
    rw [Connection.advance, role, state]
    rfl
  have thread : Outcome.Unreported c.requireThread := by
    unfold Connection.requireThread
    split
    · exact .ok _
    · exact .error rfl
  have invitation : Outcome.Unreported c.requireInvitation := by
    unfold Connection.requireInvitation
    split
    · exact .ok _
    · exact .error rfl
  have routing (i : Invitation) (key : Key) (settings : Settings) :
      Outcome.Unreported (responseRouting c i key settings r) := by
    unfold responseRouting
    split
    · exact .ok _
    · exact .bind (Key.allOfBase58_unreported _) fun _ _ => .ok _
  refine .bind (.lift (advance ▸ .ok _)) fun _ => .bind (.lift thread) fun _ => ?_
  refine .bind (.lift invitation) fun i => .bind (.lift i.requireKey_unreported) fun key => ?_
  refine .bind (.view _) fun settings => .bind (.lift (routing i key settings)) fun told => ?_
  refine .bind_of (createPeerDid_unreported told _) (fun _ _ _ h => createPeerDid_form h)
    fun p formed => ?_
  refine .bind drawId_unreported fun _ => .bind (attachmentFor_unreported formed key) fun _ => ?_
  exact .bind (updateConnection_unreported _) fun _ => .pure _

/-! ## What is reported -/

variable {a a' : Agent} {c c' : Connection} {m : Message} {e : Error} {o : Outbound}

/-- A request that is taken in is answered next. -/
theorem processRequest_state {q : Request} {r : Option Routing}
    (h : (processRequest c q r).run a = (.ok c', a')) :
    c'.role = .responder ∧ c'.state = .requestReceived := by
  obtain ⟨role, -, -, ⟨-, stores⟩ | ⟨-, -, a₁, answer, hanswer, rfl, -⟩⟩ := processRequest_ok h
  · rw [stores.stored_eq]
    exact ⟨role, rfl⟩
  · refine ⟨?_, rfl⟩
    rcases answering_ok hanswer with ⟨-, rfl, -⟩ | ⟨-, r', id, -, -, rfl⟩
    · exact role
    · exact role

/-- What is to be reported is reported, with the connection that the message came to. -/
theorem handle_reported {problem : KnownProblem} (failed : (dispatch m c).run a = (.error e, a'))
    (told : e.problem? m.kind = some problem) :
    ∃ o a'', (handle m c).run a = (.ok (some o), a'') ∧ o.message.IsReport ∧ o.connection = c := by
  have run : (handle m c).run a = (do return some (← problemReport m c problem e)).run a' := by
    rw [handle, bind_ok (attempt_run _ _), failed]
    dsimp only
    rw [told]
  exact ⟨_, _, run, trivial, rfl⟩

section Dispatch

variable (before : a.connections.find? c.id = some c)

include before

/-- What goes wrong with a message has changed no connection, unless it is the answer to a request that
went wrong. That is not reported. -/
theorem dispatch_failed (h : (dispatch m c).run a = (.error e, a')) :
    a'.connections = a.connections ∨ e.isReportable = false := by
  rw [dispatch, bind_view] at h
  cases m with
  | request q =>
    obtain ⟨r, a₀, hrouting, same⟩ := answerRouting_run c a
    dsimp only at h
    rw [bind_ok hrouting] at h
    rcases bind_run_error.mp h with hprocess | ⟨c₁, a₁, hprocess, h⟩
    · exact .inl ((processRequest_failsQuietly q r _ _ _ hprocess).connections.trans same)
    obtain ⟨role, state⟩ := processRequest_state hprocess
    split at h
    · rcases bind_run_error.mp h with hcreate | ⟨_, _, -, h⟩
      · exact .inr (createResponse_unreported role state r a₁ e (congrArg Prod.fst hcreate))
      · cases h
    · cases h
  | response q =>
    rcases bind_run_error.mp h with hprocess | ⟨c₁, a₁, hprocess, h⟩
    · exact .inl (processResponse_failsQuietly q _ _ _ hprocess).connections
    obtain ⟨⟨i, invitation⟩, first⟩ := processResponse_turn before hprocess
    obtain ⟨n, c₂, a₂, hcreate⟩ := createComplete_afterResponse first invitation
    split at h
    · rw [bind_ok hcreate] at h
      cases h
    · cases h
  | complete q => exact .inl ((processComplete_failsQuietly q).bind_pure _ _ _ _ h).connections
  | exchangeProblem q =>
    exact .inl ((processExchangeProblem_failsQuietly q).bind_pure _ _ _ _ h).connections
  | rotate q => exact .inl (processRotate_failsQuietly.bind_pure _ _ _ _ h).connections
  | rotateAck q => exact .inl ((processRotateAck_failsQuietly q).bind_pure _ _ _ _ h).connections
  | hangup q => exact .inl ((processHangup_failsQuietly q).bind_pure _ _ _ _ h).connections
  | rotateProblem q =>
    exact .inl ((processRotateProblem_failsQuietly q).bind_pure _ _ _ _ h).connections
  | forward q =>
    cases h
    exact .inl rfl

omit before in
/-- The only answer that is itself a report refuses an announced DID, and comes before anything is
stored. -/
theorem dispatch_refused (h : (dispatch m c).run a = (.ok (some o), a')) (report : o.message.IsReport) :
    a'.connections = a.connections ∧ o.connection = c := by
  rw [dispatch, bind_view] at h
  cases m with
  | request q =>
    obtain ⟨r, a₀, -, h⟩ := bind_run_ok.mp h
    obtain ⟨c₁, a₁, -, h⟩ := bind_run_ok.mp h
    split at h
    · obtain ⟨_, _, -, h⟩ := bind_run_ok.mp h
      cases h
      exact report.elim
    · cases h
  | response q =>
    obtain ⟨c₁, a₁, -, h⟩ := bind_run_ok.mp h
    split at h
    · obtain ⟨_, _, -, h⟩ := bind_run_ok.mp h
      cases h
      exact report.elim
    · cases h
  | rotate q =>
    obtain ⟨o', a₁, hprocess, h⟩ := bind_run_ok.mp h
    cases h
    cases processRotate_heeds hprocess with
    | refuses quiet => exact ⟨quiet.connections, rfl⟩
    | acknowledges => exact report.elim
  | forward q => cases h
  | _ =>
    obtain ⟨_, _, -, h⟩ := bind_run_ok.mp h
    cases h

/-- When a report is sent, no connection has changed, and it goes to the counterparty of the connection
as it was before. -/
theorem handle_reports (h : (handle m c).run a = (.ok (some o), a')) (report : o.message.IsReport) :
    a'.connections = a.connections ∧ o.connection = c := by
  rw [handle, bind_ok (attempt_run _ _)] at h
  rcases hdispatch : (dispatch m c).run a with ⟨error | answer, a₁⟩
  · rw [hdispatch] at h
    dsimp only at h
    split at h
    · next problem told =>
      cases h
      refine ⟨(dispatch_failed before hdispatch).resolve_right fun own => ?_, rfl⟩
      rw [Error.problem?, own] at told
      cases told
    · cases h
  · rw [hdispatch] at h
    cases h
    exact dispatch_refused hdispatch report

end Dispatch

/-- Where a received envelope is answered with a report, of either protocol, nothing has happened: the
connections are those of before, and the report is addressed with one of them just as it is stored, the
one that the message of the envelope belongs to. -/
theorem receive_reports {e : Envelope} (h : (receive e).run a = (.ok (some o), a'))
    (report : o.message.IsReport) :
    a'.connections = a.connections ∧ a'.connections.find? o.connection.id = some o.connection ∧
      ∃ m, a.Brings e m o.connection := by
  rcases receive_cases h with ⟨⟨error, failed⟩, -⟩ | ⟨opened, m, c, hopen, hm, hc, -, hhandle⟩
  · cases failed
  have found := connectionFor_eq_ok.mp hc
  have before := connectionOfKey_stored found
  obtain ⟨same, rfl⟩ := handle_reports before hhandle report
  exact ⟨same, same ▸ before, m, opened, hopen, hm, found⟩

end Agent

end Steps

/-! ## A report -/

section Plain

attribute [local instance] Suite.plain Chance.counting

namespace Agent

/-- A request for another invitation is refused by an agent that would have answered it at once. -/
theorem receive_reports_plain : ∃ (a a' : Agent) (e : Envelope) (o : Outbound),
    (receive e).run a = (.ok (some o), a') ∧ o.message.IsReport ∧
      accepts o.connection a.settings = true ∧ a'.connections = a.connections ∧
        a'.connections.find? o.connection.id = some o.connection := by
  let q : Request := { id := "request", label := "a stranger", did := "did:example:stranger" }
  have readable : (Message.request q).Readable := Request.readable rfl
    (fun t mem => absurd mem (Option.not_mem_none t)) fun t mem => absurd mem (Option.not_mem_none t)
  obtain ⟨r, i, c, a, e, -, stage, accepting, brings⟩ := plain_invited readable
  have advance : c.advance .process .exchangeRequest = .ok .requestReceived := by
    rw [Connection.advance, stage.role, stage.state]
    rfl
  -- the request names no invitation
  obtain ⟨what, refused⟩ : ∃ what, checkReference "parent thread id" c.invitationId
      (Thread.parentOf q.thread) = .error (.referenceMismatch what) := by
    rw [Connection.invitationId, stage.invitation, checkReference, if_neg]
    · exact ⟨_, rfl⟩
    · rintro ⟨-, same⟩
      cases same
  obtain ⟨s, a₁, hrouting, -⟩ := answerRouting_run c a
  have failed : (dispatch (.request q) c).run a = (.error (.referenceMismatch what), a₁) := by
    have process : (processRequest c q s).run a₁ = (.error (.referenceMismatch what), a₁) := by
      rw [processRequest, bind_lift advance]
      exact bind_error (by rw [run_lift, refused])
    rw [dispatch, bind_view]
    dsimp only
    rw [bind_ok hrouting]
    exact bind_error process
  obtain ⟨o, a', reported, report, same⟩ := handle_reported failed rfl
  rw [← brings.receive_early stage.theirDid rfl] at reported
  obtain ⟨kept, stored, -⟩ := receive_reports reported report
  exact ⟨a, a', e, o, reported, report, same ▸ accepting, kept, stored⟩

end Agent

end Plain

end Pairwise
