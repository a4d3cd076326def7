import Pairwise.Proofs.ExchangeSteps
import Pairwise.Proofs.Finding
import Pairwise.Proofs.Operations
import Pairwise.Proofs.Sealing
/-!
# Whose connection a message can change

An envelope is received on the connection that its recipient key leads to. No other connection is
touched, and that one only by its counterparty, once it has one.

Results:
* `dispatch_only`: processing a message on a connection leaves all others alone.
* `receive_attributed`: a stored connection stays as it is unless it is the one that the envelope's
  recipient key leads to, and, if it has a counterparty, the envelope comes from a key of theirs.
-/
namespace Pairwise

open Step

variable [Suite]

namespace Agent

/-- Every connection stored under another id is stored afterwards as it was before. -/
def Only (id : String) (a a' : Agent) : Prop :=
  ∀ other c, other ≠ id → a.connections.find? other = some c → a'.connections.find? other = some c

instance (id : String) : IsPreorder Agent (Only id) where
  refl _ := fun _ _ _ h => h
  trans _ _ _ hab hbc := fun other c hne h => hbc other c hne (hab other c hne h)

theorem Quiet.only {a a' : Agent} (h : Quiet a a') (id : String) : Only id a a' := by
  intro other c _ hc
  rwa [h.connections]

theorem Stores.only {a a' : Agent} {next stored : Connection} (h : Stores a next stored a') :
    Only next.id a a' := by
  intro other c hne hc
  rwa [h.find?_of_ne hne]

end Agent

/-- A quiet step leaves all connections alone. -/
theorem Step.Keeps.only {α : Type} {x : Step α} (hx : Keeps Agent.Quiet x) (id : String) :
    Keeps (Agent.Only id) x := fun a => (hx a).only id

namespace Agent

theorem updateConnection_only {id : String} {c : Connection} (hid : c.id = id) :
    Keeps (Only id) (updateConnection c) := by
  subst hid
  refine updateConnection_keeps fun a stored connections updated => ?_
  exact (updateConnection_ok (refl a) (updateConnection_run_ok.mpr ⟨connections, updated, rfl⟩)).only

/-- A new connection is stored beside the others. -/
theorem saveConnection_only (c : Connection) (id : String) : Keeps (Only id) (saveConnection c) :=
  saveConnection_keeps fun _ _ saved _ _ _ found => Store.find?_save_of_some saved found

/-! ## The steps of the rotation -/

theorem processRotateAck_only (c : Connection) (m : RotateAck) :
    Keeps (Only c.id) (processRotateAck c m) := by
  unfold processRotateAck
  refine .bind (.lift _) fun _ => .bind (.lift _) fun rotation => ?_
  split
  · exact .fail _
  · exact updateConnection_only rfl

theorem processRotateProblem_only (c : Connection) (m : ProblemReport) :
    Keeps (Only c.id) (processRotateProblem c m) := by
  unfold processRotateProblem
  exact .bind (.lift _) fun _ => .bind (.lift _) fun _ => updateConnection_only rfl

theorem processHangup_only (c : Connection) (m : Hangup) :
    Keeps (Only c.id) (processHangup c m) := by
  unfold processHangup
  exact .bind (.lift _) fun _ => updateConnection_only rfl

theorem processRotate_only [Chance] (c : Connection) (m : Rotate) :
    Keeps (Only c.id) (processRotate c m) := by
  unfold processRotate
  refine .bind (.lift _) fun _ => .bind (.view _) fun checked => ?_
  split
  · exact .bind (drawId_quiet.only _) fun _ => .pure _
  · refine .bind (drawId_quiet.only _) fun _ => .bind ((saveReceivedDid_quiet _ _).only _) fun _ => ?_
    exact .bind (updateConnection_only rfl) fun _ => .pure _

/-! ## The steps of the exchange -/

theorem processResponse_only (c : Connection) (m : Response) :
    Keeps (Only c.id) (processResponse c m) := by
  unfold processResponse
  refine .bind (.lift _) fun _ => .bind (.lift _) fun _ => .bind (.lift _) fun _ => ?_
  refine .bind (.lift _) fun _ => .bind ((acceptTheirDid_quiet _ _ _).only _) fun _ => ?_
  exact updateConnection_only rfl

theorem processComplete_only (c : Connection) (m : Complete) :
    Keeps (Only c.id) (processComplete c m) := by
  unfold processComplete
  refine .bind (.lift _) fun _ => .bind (.lift _) fun _ => .bind (.lift _) fun _ => ?_
  exact updateConnection_only rfl

theorem processExchangeProblem_only (c : Connection) (m : ProblemReport) :
    Keeps (Only c.id) (processExchangeProblem c m) := by
  unfold processExchangeProblem
  exact .bind (.lift _) fun _ => updateConnection_only rfl

variable [Chance]

theorem createComplete_only (c : Connection) : Keeps (Only c.id) (createComplete c) := by
  unfold createComplete
  refine .bind (.lift _) fun _ => .bind (.lift _) fun _ => .bind (.lift _) fun _ => ?_
  exact .bind (drawId_quiet.only _) fun _ => .bind (updateConnection_only rfl) fun _ => .pure _

theorem createResponse_only (c : Connection) (r : Option Routing) :
    Keeps (Only c.id) (createResponse c r) := by
  unfold createResponse
  refine .bind (.lift _) fun _ => .bind (.lift _) fun _ => .bind (.lift _) fun _ => ?_
  refine .bind (.lift _) fun _ => .bind (.view _) fun _ => .bind (.lift _) fun _ => ?_
  refine .bind ((createPeerDid_quiet _ _).only _) fun _ => .bind (drawId_quiet.only _) fun _ => ?_
  refine .bind ((attachmentFor_quiet _ _).only _) fun _ => ?_
  exact .bind (updateConnection_only rfl) fun _ => .pure _

theorem processRequest_only (c : Connection) (m : Request) (r : Option Routing) :
    Keeps (Only c.id) (processRequest c m r) := by
  unfold processRequest
  refine .bind (.lift _) fun _ => .bind (.lift _) fun _ => ?_
  intro a
  cases hanswer : (answering c r).run a with
  | mk result a₁ =>
    rw [run_bind, hanswer]
    have quiet := ((answering_quiet c r).of_run hanswer).only c.id
    cases result with
    | error e => exact quiet
    | ok answer =>
      refine IsTrans.trans _ _ _ quiet ?_
      refine Keeps.bind ((acceptTheirDid_quiet _ _ _).only _) (fun _ => ?_) a₁
      dsimp only
      split
      · exact saveConnection_only _ _
      · next hm =>
        rcases answering_ok hanswer with ⟨-, rfl, -⟩ | ⟨hm', -⟩
        · exact updateConnection_only rfl
        · exact absurd hm' hm

/-- A request is answered on its own connection, or on one that was not stored before. -/
theorem processRequest_answer {c stored : Connection} {m : Request} {r : Option Routing}
    {a a' : Agent} (h : (processRequest c m r).run a = (.ok stored, a')) :
    stored.id = c.id ∨ a.connections.find? stored.id = none := by
  obtain ⟨-, -, -, ⟨-, stores⟩ | ⟨-, -, _, _, -, -, hsave⟩⟩ := processRequest_ok h
  · left
    rw [stores.stored_eq]
    rfl
  · exact .inr (Store.save_eq_ok.mp hsave).1

/-! ## The whole message -/

/-- Making a key changes the wallet alone. -/
theorem answerRouting_only (c : Connection) (id : String) : Keeps (Only id) (answerRouting c) := by
  have fresh : Keeps (Only id) freshKey := fun _ _ _ _ h => h
  unfold answerRouting
  split
  · refine .bind ?_ fun _ => .pure _
    unfold freshRouting
    refine .bind fresh fun _ => ?_
    exact .bind (.view _) fun _ => .pure _
  · exact .pure _

/-- What follows a request that is taken in is done on the connection it is answered on. -/
theorem answerRequest_only {α : Type} (c : Connection) (m : Request) (r : Option Routing)
    {f : Connection → Step α} (hf : ∀ answer, Keeps (Only answer.id) (f answer)) :
    Keeps (Only c.id) (processRequest c m r >>= f) := by
  intro a other stored hne hstored
  cases h : (processRequest c m r).run a with
  | mk result a₁ =>
    rw [run_bind, h]
    have kept := (processRequest_only c m r).of_run h other stored hne hstored
    cases result with
    | error e => exact kept
    | ok answer =>
      refine hf answer a₁ other stored ?_ kept
      rintro rfl
      rcases processRequest_answer h with hid | hnone
      · exact hne hid
      · rw [hnone] at hstored
        cases hstored

theorem dispatch_only (m : Message) (c : Connection) : Keeps (Only c.id) (dispatch m c) := by
  unfold dispatch
  refine .bind (.view _) fun settings => ?_
  cases m with
  | request m =>
    refine .bind (answerRouting_only c _) fun r => answerRequest_only c m r fun answer => ?_
    split
    · exact .bind (createResponse_only answer r) fun _ => .pure _
    · exact .pure _
  | response m =>
    -- the connection that follows the response has the id of the one before it
    have follows : ∀ a a₁ next, (processResponse c m).run a = (.ok next, a₁) → next.id = c.id := by
      intro a a₁ next h
      obtain ⟨-, -, -, -, stores⟩ := processResponse_ok h
      rw [stores.stored_eq]
    intro a
    cases h : (processResponse c m).run a with
    | mk result a₁ =>
      rw [run_bind, h]
      have kept := (processResponse_only c m).of_run h
      cases result with
      | error e => exact kept
      | ok next =>
        refine IsTrans.trans _ _ _ kept ?_
        rw [← follows a a₁ next h]
        dsimp only
        split
        · exact Keeps.bind (createComplete_only next) (fun _ => .pure _) a₁
        · exact refl a₁
  | complete m => exact .bind (processComplete_only c m) fun _ => .pure _
  | exchangeProblem m => exact .bind (processExchangeProblem_only c m) fun _ => .pure _
  | rotate m => exact .bind (processRotate_only c m) fun _ => .pure _
  | rotateAck m => exact .bind (processRotateAck_only c m) fun _ => .pure _
  | hangup m => exact .bind (processHangup_only c m) fun _ => .pure _
  | rotateProblem m => exact .bind (processRotateProblem_only c m) fun _ => .pure _
  | forward m => exact .fail _

/-! ## The whole envelope -/

theorem handle_only (m : Message) (c : Connection) : Keeps (Only c.id) (handle m c) :=
  handle_keeps (drawId_quiet.only c.id) (dispatch_only m c)

/-- Either the envelope is dropped, or its message is handled on the connection that it leads to. -/
theorem receive_cases {e : Envelope} {a a' : Agent} {result : Except Error (Option Outbound)}
    (h : (receive e).run a = (result, a')) :
    (∃ error, result = .error error) ∧ a' = a ∨
      ∃ opened m c, a.unpack e = .ok opened ∧ Message.ofJson opened.plaintext = .ok m ∧
        connectionFor m opened.recipient a = .ok c ∧ checkSender m c opened.sender a = .ok () ∧
        (handle m c).run a = (result, a') := by
  simp only [receive, run_bind, run_ask, run_lift] at h
  rcases hopen : a.unpack e with error | opened
  · rw [hopen] at h
    cases h
    exact .inl ⟨⟨error, rfl⟩, rfl⟩
  rcases hm : Message.ofJson opened.plaintext with error | m
  · rw [hopen] at h
    simp only [hm] at h
    cases h
    exact .inl ⟨⟨error, rfl⟩, rfl⟩
  rcases hc : connectionFor m opened.recipient a with error | c
  · rw [hopen] at h
    simp only [hm, hc] at h
    cases h
    exact .inl ⟨⟨error, rfl⟩, rfl⟩
  rcases hsender : checkSender m c opened.sender a with error | ⟨⟩
  · rw [hopen] at h
    simp only [hm, hc, hsender] at h
    cases h
    exact .inl ⟨⟨error, rfl⟩, rfl⟩
  rw [hopen] at h
  simp only [hm, hc, hsender] at h
  exact .inr ⟨opened, m, c, rfl, hm, hc, hsender, h⟩

/-- The envelope leads to the connection by its recipient key. If the connection has a counterparty,
the envelope was sealed in the name of a sender, whose key stands in a document of the counterparty:
under the DID that it has, or one that it had before. -/
def Reaches (a : Agent) (e : Envelope) (c : Connection) : Prop :=
  ∃ opened, a.unpack e = .ok opened ∧ a.connectionOfKey opened.recipient = .ok (some c) ∧
    ∀ did, c.theirDid = some did →
      ∃ key, opened.sender = some key ∧ e.HasAlgorithm Envelope.authenticated ∧
        e.WrappedFor a.wallet.seed? opened.recipient (some key) ∧
        ∃ name ∈ did :: c.previousTheirDids, ∃ document, a.resolve name = .ok document ∧
          document.HasKey key

/-- Every stored connection is stored afterwards just as it was, or is one of which the condition
holds. -/
def ChangesOnly (P : Connection → Prop) (a a' : Agent) : Prop :=
  ∀ id c, a.connections.find? id = some c → a'.connections.find? id = some c ∨ P c

theorem receive_attributed (e : Envelope) (a : Agent) :
    ChangesOnly (a.Reaches e) a ((receive e).run a).2 := by
  intro id stored hstored
  rcases receive_cases (Prod.eta ((receive e).run a)).symm with
    ⟨-, same⟩ | ⟨opened, m, c, hopen, -, hc, hsender, hhandle⟩
  · rw [same]
    exact .inl hstored
  -- from here on the connection that was found is the only one that can change
  have found := connectionFor_eq_ok.mp hc
  by_cases hid : id = c.id
  · right
    obtain rfl : stored = c := by
      rw [hid, connectionOfKey_stored found] at hstored
      exact (Option.some.inj hstored).symm
    obtain ⟨wrapped, algorithm⟩ := Envelope.openWith_ok (Outcome.mapError_eq_ok.mp hopen)
    refine ⟨opened, hopen, found, fun did hdid => ?_⟩
    obtain ⟨key, hkey, their⟩ := checkSender_ok hsender hdid
    rw [hkey] at algorithm wrapped
    exact ⟨key, hkey, algorithm, wrapped, their⟩
  · have kept := handle_only m c a id stored hid hstored
    rw [hhandle] at kept
    exact .inl kept

end Agent

end Pairwise
