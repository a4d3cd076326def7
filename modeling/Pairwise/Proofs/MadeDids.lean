import Pairwise.Proofs.DidStore
import Pairwise.Proofs.OwnDids
import Pairwise.Proofs.Revisions
/-!
# Which DIDs an action stores

An action stores the DIDs that its counterparty tells, or one DID that the agent makes. That is found by
the key that its document tells, which is the key of the routing, wherever the routing has an endpoint.

Results:
* `Action.Tells.dids`, `Action.gathers`: which DIDs the agent has after an action.
* `DidRecord.IsFor`, `createPeerDid_isFor`: how a DID that the agent has made is stored.
-/
namespace Pairwise

open Step

variable [suite : Suite]

namespace Agent

/-! ## DIDs of others -/

/-- The agent afterwards has stored DIDs of others beside those that it had. -/
def Gathers (a a' : Agent) : Prop :=
  ∃ more, a'.dids.records = a.dids.records ++ more ∧ ∀ r ∈ more, r.role = .received

instance : IsPreorder Agent Gathers :=
  inferInstanceAs (IsPreorder Agent (AddsDids fun r => r.role = .received))

/-- The agent afterwards has the DIDs that it had. -/
def SameDids (a a' : Agent) : Prop := a'.dids = a.dids

instance : IsPreorder Agent SameDids where
  refl _ := rfl
  trans _ _ _ hab hbc := Eq.trans hbc hab

theorem SameDids.gathers {a a' : Agent} (h : SameDids a a') : Gathers a a' := AddsDids.of_same h

theorem updateConnection_sameDids (c : Connection) : Keeps SameDids (updateConnection c) :=
  fun _ => updateConnection_dids rfl

theorem saveConnection_sameDids (c : Connection) : Keeps SameDids (saveConnection c) :=
  saveConnection_keeps fun _ _ _ => rfl

theorem saveReceivedDid_gathers (did : String) (d : Document) :
    Keeps Gathers (saveReceivedDid did d) := by
  unfold saveReceivedDid
  refine .bind (.lift _) fun names => .bind (.view _) fun now => .bind_lift fun record made => ?_
  exact saveNewDid_addsDids (DidRecord.new_ok made).2.1

theorem acceptTheirDid_gathers (did : String) (attachment : Option Attachment)
    (allowed : List Key) : Keeps Gathers (acceptTheirDid did attachment allowed) := by
  unfold acceptTheirDid
  refine .bind (.lift _) fun p => ?_
  split
  · exact .fail _
  · exact saveReceivedDid_gathers _ _

variable [chance : Chance]

theorem drawId_sameDids : Keeps SameDids drawId := fun _ => rfl

theorem attachmentFor_sameDids (p : PeerDid) (signer : Key) :
    Keeps SameDids (attachmentFor p signer) := by
  unfold attachmentFor
  refine .bind (.lift _) fun form => ?_
  split
  · exact .pure _
  · exact .pure _
  · exact .bind (.ask _) fun _ => .bind drawId_sameDids fun _ => .pure _

theorem newConnection_sameDids (role : ExchangeRole) (state : ExchangeState) :
    Keeps SameDids (newConnection role state) := by
  unfold newConnection
  exact .bind drawId_sameDids fun _ => .bind (.view _) fun _ => .pure _

theorem processRequest_gathers (c : Connection) (m : Request) (r : Option Routing) :
    Keeps Gathers (processRequest c m r) := by
  have answers : Keeps Gathers (answering c r) := by
    unfold answering
    split
    · split
      · exact .fail _
      · refine .bind (fun a => (newConnection_sameDids _ _ a).gathers) fun _ => .pure _
    · exact .pure _
  unfold processRequest
  refine .bind (.lift _) fun _ => .bind (.lift _) fun _ => .bind answers fun _ => ?_
  refine .bind (acceptTheirDid_gathers _ _ _) fun _ => ?_
  dsimp only
  split
  · exact fun a => (saveConnection_sameDids _ a).gathers
  · exact fun a => (updateConnection_sameDids _ a).gathers

omit chance in
theorem processResponse_gathers (c : Connection) (m : Response) :
    Keeps Gathers (processResponse c m) := by
  unfold processResponse
  refine .bind (.lift _) fun _ => .bind (.lift _) fun _ => .bind (.lift _) fun _ => ?_
  refine .bind (.lift _) fun _ => .bind (acceptTheirDid_gathers _ _ _) fun _ => ?_
  exact fun a => (updateConnection_sameDids _ a).gathers

theorem processRotate_gathers (c : Connection) (m : Rotate) :
    Keeps Gathers (processRotate c m) := by
  intro a
  obtain ⟨more, records, new⟩ := processRotate_hears c m a
  exact ⟨more, records, fun r mem => (new r mem).1⟩

/-! ## DIDs of the agent's own -/

end Agent

/-- The stored DID is one of the agent's own. Its document tells one key, and it is found by that. -/
structure DidRecord.IsFor (record : DidRecord) (key : Key) : Prop where
  role : record.role = .created
  document : ∃ d, record.document = some d ∧ d.recipientKeys = .ok [key]
  fingerprints : record.fingerprints = [key.fingerprint]

namespace Agent

variable [chance : Chance] {a a' : Agent} {p : PeerDid} {r : Routing} {form : PeerForm}

/-- A new DID for a routing with an endpoint is stored for the key of the routing. -/
theorem createPeerDid_isFor (h : (createPeerDid r form).run a = (.ok p, a'))
    (endpoints : r.endpoints ≠ []) (new : a.dids.find? p.did = none) :
    ∃ record, a'.dids.records = a.dids.records ++ [record] ∧ record.did = p.did ∧
      record.IsFor r.toldKey := by
  rcases createPeerDid_saves h with
    ⟨-, known⟩ | ⟨q, record, told, derived, a₁, hq, records, hdocument, hpeer, hderived, hrecord⟩
  · exact absurd new (known p rfl)
  cases hq
  obtain ⟨did, role, read⟩ := DidRecord.new_ok hrecord
  obtain ⟨keys, hkeys, texts⟩ := Outcome.bind_eq_ok.mp read
  simp only [routingDocument, bind_run_ok, lift_run_ok] at hdocument
  obtain ⟨agreement, _, -, _, _, -, _, _, -, hdocument, -⟩ := hdocument
  obtain ⟨services, hservices, made⟩ := Outcome.bind_eq_ok.mp hdocument
  cases made
  obtain rfl := Routing.recipientKeys_eq_told hservices endpoints
    (service_ownDocument hpeer hderived) hkeys
  exact ⟨record, records, did, role, ⟨_, (DidRecord.new_keeps hrecord).2.1, hkeys⟩,
    (Except.ok.inj texts).symm⟩

theorem createPeerDid_fails {e : Error} (h : (createPeerDid r form).run a = (.error e, a')) :
    a'.dids = a.dids := by
  rcases createPeerDid_saves h with ⟨same, -⟩ | ⟨p, record, told, derived, a₁, made, -⟩
  · exact same
  · cases made

end Agent

/-! ## Actions -/

variable [chance : Chance]

namespace Action

open Agent

variable {a : Agent} {c : Connection} {y : Action}

/-- Where an action comes to make a DID, the agent has afterwards the DIDs that it had then. -/
theorem Tells.dids {r : Routing} {form : PeerForm} (tells : y.Tells a c r form) :
    ((y.step c).run a).2.dids = ((createPeerDid r form).run a).2.dids := by
  have made {β : Type} {f : PeerDid → Step β} (rest : ∀ p, Keeps SameDids (f p)) :
      ((createPeerDid r form >>= f).run a).2.dids = ((createPeerDid r form).run a).2.dids := by
    rw [run_bind]
    split
    · next p a₁ h => rw [h]; exact rest p a₁
    · next e a₁ h => rw [h]
  cases tells with
  | @request _ options _ _ invitation advance =>
    change ((Agent.createRequest c r options).done.run a).2.dids = _
    rw [done_run, Agent.createRequest, bind_lift invitation, bind_lift advance, bind_view]
    refine made fun p => .bind drawId_sameDids fun _ => .bind (attachmentFor_sameDids _ _) fun _ => ?_
    exact .bind (updateConnection_sameDids _) fun _ => .pure _
  | @response given _ _ _ _ _ advance threadId invitation answered routing =>
    change ((Agent.createResponse c given).done.run a).2.dids = _
    rw [done_run, Agent.createResponse, bind_lift advance, bind_lift threadId, bind_lift invitation,
      bind_lift answered, bind_view, bind_lift routing]
    refine made fun p => .bind drawId_sameDids fun _ => .bind (attachmentFor_sameDids _ _) fun _ => ?_
    exact .bind (updateConnection_sameDids _) fun _ => .pure _
  | rotation completed allowed =>
    change ((Agent.createRotate c (.routing r)).done.run a).2.dids = _
    rw [done_run, Agent.createRotate, bind_lift completed, bind_view, bind_lift allowed, rotationDid,
      bind_assoc, bind_view, bind_assoc]
    refine made fun p => ?_
    rw [pure_bind]
    exact .bind drawId_sameDids fun _ => .bind (updateConnection_sameDids _) fun _ => .pure _

omit chance in
/-- What is looked at first may end the action. -/
theorem gathers_lift {α β : Type} {x : Except Error α} {f : α → Step β}
    (rest : ∀ r, x = .ok r → Gathers a ((f r).run a).2) :
    Gathers a ((liftM x >>= f : Step β).run a).2 := by
  cases x with
  | error e => exact refl a
  | ok r => exact rest r rfl

/-- An action that does not come to make a DID stores DIDs of others only. -/
theorem gathers (untold : ∀ r form, ¬ y.Tells a c r form) : Gathers a ((y.step c).run a).2 := by
  have updates (c : Connection) : Keeps SameDids (updateConnection c) := updateConnection_sameDids c
  cases y with
  | createRequest r options =>
    change Gathers a ((Agent.createRequest c r options).done.run a).2
    rw [done_run, Agent.createRequest]
    refine gathers_lift fun i invitation => gathers_lift fun state advance => ?_
    exact absurd (.request invitation advance) (untold _ _)
  | createResponse given =>
    change Gathers a ((Agent.createResponse c given).done.run a).2
    rw [done_run, Agent.createResponse]
    refine gathers_lift fun state advance => gathers_lift fun thread threadId => ?_
    refine gathers_lift fun i invitation => gathers_lift fun key answered => ?_
    rw [bind_view]
    refine gathers_lift fun r routing => ?_
    exact absurd (.response advance threadId invitation answered routing) (untold _ _)
  | createRotate target =>
    change Gathers a ((Agent.createRotate c target).done.run a).2
    rw [done_run, Agent.createRotate]
    refine gathers_lift fun _ completed => ?_
    rw [bind_view]
    refine gathers_lift fun _ allowed => ?_
    cases target with
    | routing r => exact absurd (.rotation completed allowed) (untold _ _)
    | existing did mediators =>
      refine SameDids.gathers (Keeps.bind (rotationDid_existing_keeps did mediators) (fun _ => ?_) a)
      exact .bind drawId_sameDids fun _ => .bind (updates _) fun _ => .pure _
  | processRequest m r => exact (processRequest_gathers c m r).done a
  | processResponse m => exact (processResponse_gathers c m).done a
  | processRotate m => exact (processRotate_gathers c m).done a
  | createComplete =>
    refine SameDids.gathers (Keeps.done ?_ a)
    exact .bind (.lift _) fun _ => .bind (.lift _) fun _ => .bind (.lift _) fun _ =>
      .bind drawId_sameDids fun _ => .bind (updates _) fun _ => .pure _
  | processComplete m =>
    refine SameDids.gathers (Keeps.done ?_ a)
    exact .bind (.lift _) fun _ => .bind (.lift _) fun _ => .bind (.lift _) fun _ => updates _
  | processExchangeProblem m =>
    exact SameDids.gathers (Keeps.done (.bind (.lift _) fun _ => updates _) a)
  | processRotateAck m =>
    refine SameDids.gathers (Keeps.done ?_ a)
    refine .bind (.lift _) fun _ => .bind (.lift _) fun _ => ?_
    split
    · exact .fail _
    · exact updates _
  | processRotateProblem m =>
    refine SameDids.gathers (Keeps.done ?_ a)
    exact .bind (.lift _) fun _ => .bind (.lift _) fun _ => updates _
  | createHangup =>
    refine SameDids.gathers (Keeps.done ?_ a)
    exact .bind (.lift _) fun _ => .bind (updates _) fun _ => .bind drawId_sameDids fun _ => .pure _
  | processHangup m => exact SameDids.gathers (Keeps.done (.bind (.lift _) fun _ => updates _) a)

end Action

end Pairwise
