import Pairwise.Agent.Inbound
import Pairwise.Proofs.Steps
/-!
# The operations of an agent

All that an agent is asked to do: to begin an exchange, to do something with a copy of one of its
connections, to receive an envelope. A run is one operation after another, and goes on when one of them
fails.

Results:
* `Action`, `Operation`: what can be asked of an agent.
* `Agent.Parts`: what operations are put together from; `Operation.keeps` says that a preorder which all
  of it keeps is kept by every operation.
* `Agent.after`: the agent after a run; `Agent.after_keeps` says the same of a run.
-/
namespace Pairwise

open Step

variable [suite : Suite]

/-! ## Steps for what they do -/

namespace Step

variable {α : Type} {x : Step α} {a a' : Agent}

/-- Takes a step, and forgets its result. -/
def done (x : Step α) : Step Unit := do
  let _ ← x
  return ()

/-- An agent is left as it is by what is only made of the result of a step. -/
theorem run_bind_of_still {β : Type} (x : Step α) {f : α → Step β}
    (still : ∀ r b, ((f r).run b).2 = b) (a : Agent) : ((x >>= f).run a).2 = (x.run a).2 := by
  rw [run_bind]
  split
  · next h =>
    rw [h]
    exact still _ _
  · next h => rw [h]

theorem done_run (x : Step α) (a : Agent) : (x.done.run a).2 = (x.run a).2 :=
  run_bind_of_still x (fun _ _ => rfl) a

/-- The agent is left as the step leaves it, whatever the result. -/
theorem done_state {result : Except Error α} (h : x.run a = (result, a')) : (x.done.run a).2 = a' := by
  rw [done_run, h]

theorem done_ok : x.done.run a = (.ok (), a') ↔ ∃ r, x.run a = (.ok r, a') := by
  constructor
  · intro h
    obtain ⟨r, a₁, hx, h⟩ := bind_run_ok.mp h
    obtain ⟨-, rfl⟩ := pure_run_ok.mp h
    exact ⟨r, hx⟩
  · rintro ⟨r, hx⟩
    exact bind_run_ok.mpr ⟨r, a', hx, rfl⟩

/-- A step whose result is forgotten ends as the step does. -/
theorem done_cases {result : Except Error Unit} (h : x.done.run a = (result, a')) :
    (∃ e, result = .error e ∧ x.run a = (.error e, a')) ∨
      ∃ r, result = .ok () ∧ x.run a = (.ok r, a') := by
  rcases hx : x.run a with ⟨e | r, a₁⟩
  all_goals
    rw [done, run_bind, hx] at h
    cases h
  · exact .inl ⟨e, rfl, rfl⟩
  · exact .inr ⟨r, rfl, rfl⟩

theorem Keeps.done {R : Agent → Agent → Prop} (h : Keeps R x) : Keeps R x.done := by
  intro a
  rw [done_run]
  exact h a

end Step

variable [chance : Chance]

/-! ## Operations -/

/-- What an agent is asked to do with a copy of one of its connections. -/
inductive Action where
  | createRequest (r : Routing) (options : RequestOptions)
  | processRequest (m : Request) (r : Option Routing)
  | createResponse (r : Option Routing)
  | processResponse (m : Response)
  | createComplete
  | processComplete (m : Complete)
  | processExchangeProblem (m : ProblemReport)
  | createRotate (t : RotationTarget)
  | processRotate (m : Rotate)
  | processRotateAck (m : RotateAck)
  | processRotateProblem (m : ProblemReport)
  | createHangup
  | processHangup (m : Hangup)

/-- Does it. -/
def Action.step (c : Connection) : Action → Step Unit
  | .createRequest r options => (Agent.createRequest c r options).done
  | .processRequest m r => (Agent.processRequest c m r).done
  | .createResponse r => (Agent.createResponse c r).done
  | .processResponse m => (Agent.processResponse c m).done
  | .createComplete => (Agent.createComplete c).done
  | .processComplete m => (Agent.processComplete c m).done
  | .processExchangeProblem m => (Agent.processExchangeProblem c m).done
  | .createRotate t => (Agent.createRotate c t).done
  | .processRotate m => (Agent.processRotate c m).done
  | .processRotateAck m => (Agent.processRotateAck c m).done
  | .processRotateProblem m => (Agent.processRotateProblem c m).done
  | .createHangup => (Agent.createHangup c).done
  | .processHangup m => (Agent.processHangup c m).done

/-- What an agent is asked to do: to make an invitation, to take one in, to do something with a copy of a
connection, to receive an envelope, to make a routing, or to seal a message. -/
inductive Operation where
  | invite (r : Routing) (multiUse : Bool) (label : Option String)
  | accept (i : Invitation) (autoAccept : Option Bool)
  | on (c : Connection) (y : Action)
  | receive (e : Envelope)
  | route (mediator : Option Mediator)
  | package (o : Outbound)

/-- Does it. -/
def Operation.step : Operation → Step Unit
  | .invite r multiUse label => (Agent.createInvitation r multiUse label).done
  | .accept i autoAccept => (Agent.receiveInvitation i autoAccept).done
  | .on c y => y.step c
  | .receive e => (Agent.receive e).done
  | .route mediator => (Agent.freshRouting mediator).done
  | .package o => (Agent.package o).done

/-! ## What operations are put together from -/

namespace Agent

variable {R : Agent → Agent → Prop} [IsPreorder Agent R]

section Sealing

variable (ids : Keeps R drawId) (noise : ∀ length, Keeps R (drawNoise length))
include noise

theorem wrapFor_keeps (contentKey : Bytes) (sender : Option Sender) (keys : List Key) :
    Keeps R (wrapFor contentKey sender keys) := by
  induction keys with
  | nil => exact .pure _
  | cons k keys ih =>
    unfold wrapFor
    refine .bind (noise _) fun secret => .bind (noise _) fun nonce => ?_
    exact .bind (.lift _) fun _ => .bind ih fun _ => .pure _

/-- The part of sealing that is the same with and without a sender. -/
theorem sealContent_keeps (message : Json) (keys : List Key) (sender : Option Sender)
    (cipher : Cipher) : Keeps R (do
      let contentKey ← drawNoise Cipher.keyLength
      let recipients ← wrapFor contentKey sender keys
      let nonce ← drawNoise cipher.nonceLength
      Envelope.sealContent cipher sender.isSome contentKey nonce recipients message) :=
  .bind (noise _) fun _ => .bind (wrapFor_keeps noise _ _ _) fun _ =>
    .bind (noise _) fun _ => .lift _

theorem sealFor_keeps (message : Json) (keys : List Key) (sender : Option Key) :
    Keeps R (sealFor message keys sender) := by
  unfold sealFor
  split
  · exact .fail _
  refine .bind (.view _) fun wallet => ?_
  cases sender with
  | none => exact .bind (.pure _) fun _ => sealContent_keeps noise message keys _ wallet.cipher
  | some key =>
    refine .bind (.lift _) fun s => .bind (.pure _) fun _ => ?_
    exact sealContent_keeps noise message keys _ wallet.cipher

include ids

theorem forward_keeps (target : String) (e : Envelope) (routing : List Key) :
    Keeps R (forward target e routing) := by
  induction routing generalizing target e with
  | nil => exact .pure _
  | cons k routing ih =>
    unfold forward
    exact .bind ids fun _ => .bind (sealFor_keeps noise _ _ _) fun outer => ih _ outer

theorem pack_keeps (message : Json) (d : Delivery) : Keeps R (pack message d) := by
  unfold pack
  split
  · exact .fail _
  · exact .fail _
  · exact .bind (sealFor_keeps noise _ _ _) fun e => forward_keeps ids noise _ e _

theorem package_keeps (o : Outbound) : Keeps R (package o) := by
  unfold package
  exact .bind (.ask _) fun _ => .bind (.ask _) fun _ => .bind (pack_keeps ids noise _ _) fun _ =>
    .pure _

end Sealing

/-- What comes of a message is what its processing does, and after that an id is drawn at most. -/
theorem handle_keeps (ids : Keeps R drawId) {m : Message} {c : Connection}
    (processed : Keeps R (dispatch m c)) : Keeps R (handle m c) := by
  unfold handle
  refine .bind (fun a => processed a) fun result => ?_
  cases result with
  | ok answer => exact .pure _
  | error e =>
    dsimp only
    split
    · refine .bind ?_ fun _ => .pure _
      unfold problemReport
      exact .bind ids fun _ => .pure _
    · exact .fail _

omit [IsPreorder Agent R] in
/-- The relation is kept by all that operations are put together from. -/
structure Parts (R : Agent → Agent → Prop) : Prop where
  ids : Keeps R drawId
  noise : ∀ length, Keeps R (drawNoise length)
  keys : Keeps R freshKey
  makes : ∀ r form, Keeps R (createPeerDid r form)
  accepts : ∀ did attachment allowed, Keeps R (acceptTheirDid did attachment allowed)
  follows : ∀ a did d, checkRotationDid did a = .ok d → Keeps R (saveReceivedDid d.id d)
  saves : ∀ c, Keeps R (saveConnection c)
  updates : ∀ c, Keeps R (updateConnection c)

namespace Parts

variable (parts : Parts R)
include parts

theorem newConnection (role : ExchangeRole) (state : ExchangeState) :
    Keeps R (newConnection role state) := by
  unfold Agent.newConnection
  exact .bind parts.ids fun _ => .bind (.view _) fun _ => .pure _

theorem freshRouting (mediator : Option Mediator) : Keeps R (freshRouting mediator) := by
  unfold Agent.freshRouting
  refine .bind parts.keys fun key => ?_
  cases mediator with
  | none => exact .bind (.view _) fun _ => .pure _
  | some mediator => exact .pure _

theorem attachmentFor (peer : PeerDid) (signer : Key) : Keeps R (attachmentFor peer signer) := by
  unfold Agent.attachmentFor
  refine .bind (.lift _) fun form => ?_
  split
  · exact .pure _
  · exact .pure _
  · exact .bind (.ask _) fun _ => .bind parts.ids fun _ => .pure _

/-! ## The exchange -/

theorem createInvitation (r : Routing) (multiUse : Bool) (label : Option String) :
    Keeps R (createInvitation r multiUse label) := by
  unfold Agent.createInvitation
  refine .bind (.view _) fun _ => .bind parts.ids fun _ => .bind (parts.newConnection _ _) fun _ => ?_
  exact .bind (parts.saves _) fun _ => .pure _

theorem receiveInvitation (i : Invitation) (autoAccept : Option Bool) :
    Keeps R (receiveInvitation i autoAccept) := by
  unfold Agent.receiveInvitation
  exact .bind (parts.newConnection _ _) fun _ => parts.saves _

theorem createRequest (c : Connection) (r : Routing) (options : RequestOptions) :
    Keeps R (createRequest c r options) := by
  unfold Agent.createRequest
  refine .bind (.lift _) fun _ => .bind (.lift _) fun _ => .bind (.view _) fun _ => ?_
  refine .bind (parts.makes _ _) fun _ => .bind parts.ids fun _ => ?_
  exact .bind (parts.attachmentFor _ _) fun _ => .bind (parts.updates _) fun _ => .pure _

theorem answering (c : Connection) (r : Option Routing) : Keeps R (answering c r) := by
  unfold Agent.answering
  split
  · split
    · exact .fail _
    · exact .bind (parts.newConnection _ _) fun _ => .pure _
  · exact .pure _

theorem processRequest (c : Connection) (m : Request) (r : Option Routing) :
    Keeps R (processRequest c m r) := by
  unfold Agent.processRequest
  refine .bind (.lift _) fun _ => .bind (.lift _) fun _ => .bind (parts.answering _ _) fun _ => ?_
  refine .bind (parts.accepts _ _ _) fun _ => ?_
  split
  · exact parts.saves _
  · exact parts.updates _

theorem createResponse (c : Connection) (r : Option Routing) : Keeps R (createResponse c r) := by
  unfold Agent.createResponse
  refine .bind (.lift _) fun _ => .bind (.lift _) fun _ => .bind (.lift _) fun _ => ?_
  refine .bind (.lift _) fun _ => .bind (.view _) fun _ => .bind (.lift _) fun _ => ?_
  refine .bind (parts.makes _ _) fun _ => .bind parts.ids fun _ => ?_
  exact .bind (parts.attachmentFor _ _) fun _ => .bind (parts.updates _) fun _ => .pure _

theorem processResponse (c : Connection) (m : Response) : Keeps R (processResponse c m) := by
  unfold Agent.processResponse
  refine .bind (.lift _) fun _ => .bind (.lift _) fun _ => .bind (.lift _) fun _ => ?_
  exact .bind (.lift _) fun _ => .bind (parts.accepts _ _ _) fun _ => parts.updates _

theorem createComplete (c : Connection) : Keeps R (createComplete c) := by
  unfold Agent.createComplete updateState
  refine .bind (.lift _) fun _ => .bind (.lift _) fun _ => .bind (.lift _) fun _ => ?_
  exact .bind parts.ids fun _ => .bind (parts.updates _) fun _ => .pure _

theorem processComplete (c : Connection) (m : Complete) : Keeps R (processComplete c m) := by
  unfold Agent.processComplete updateState
  exact .bind (.lift _) fun _ => .bind (.lift _) fun _ => .bind (.lift _) fun _ => parts.updates _

theorem processExchangeProblem (c : Connection) (m : ProblemReport) :
    Keeps R (processExchangeProblem c m) := by
  unfold Agent.processExchangeProblem updateState
  exact .bind (.lift _) fun _ => parts.updates _

/-! ## The rotation -/

theorem createRotate (c : Connection) (t : RotationTarget) : Keeps R (createRotate c t) := by
  unfold Agent.createRotate
  refine .bind (.lift _) fun _ => .bind (.view _) fun _ => .bind (.lift _) fun _ => ?_
  refine .bind (rotationDid_keeps parts.makes t) fun _ => ?_
  exact .bind parts.ids fun _ => .bind (parts.updates _) fun _ => .pure _

theorem processRotate (c : Connection) (m : Rotate) : Keeps R (processRotate c m) := by
  unfold Agent.processRotate
  refine .bind (.lift _) fun _ => .bind_view fun a => ?_
  rcases checked : checkRotationDid m.did a with ⟨problem, en⟩ | d
  · exact .bind parts.ids fun _ => .pure _
  · refine .bind parts.ids fun _ => .bind (parts.follows a m.did d checked) fun _ => ?_
    exact .bind (parts.updates _) fun _ => .pure _

theorem processRotateAck (c : Connection) (m : RotateAck) : Keeps R (processRotateAck c m) := by
  unfold Agent.processRotateAck
  refine .bind (.lift _) fun _ => .bind (.lift _) fun rotation => ?_
  split
  · exact .fail _
  · exact parts.updates _

theorem processRotateProblem (c : Connection) (m : ProblemReport) :
    Keeps R (processRotateProblem c m) := by
  unfold Agent.processRotateProblem
  exact .bind (.lift _) fun _ => .bind (.lift _) fun _ => parts.updates _

theorem createHangup (c : Connection) : Keeps R (createHangup c) := by
  unfold Agent.createHangup
  exact .bind (.lift _) fun _ => .bind (parts.updates _) fun _ => .bind parts.ids fun _ => .pure _

theorem processHangup (c : Connection) (m : Hangup) : Keeps R (processHangup c m) := by
  unfold Agent.processHangup
  exact .bind (.lift _) fun _ => parts.updates _

/-! ## Envelopes -/

theorem dispatch (m : Message) (c : Connection) : Keeps R (dispatch m c) := by
  unfold Agent.dispatch
  refine .bind (.view _) fun settings => ?_
  cases m with
  | request m =>
    have routing : Keeps R (answerRouting c) := by
      unfold answerRouting
      split
      · exact .bind (parts.freshRouting _) fun _ => .pure _
      · exact .pure _
    refine .bind routing fun r => .bind (parts.processRequest c m r) fun c' => ?_
    split
    · exact .bind (parts.createResponse c' r) fun _ => .pure _
    · exact .pure _
  | response m =>
    refine .bind (parts.processResponse c m) fun c' => ?_
    split
    · exact .bind (parts.createComplete c') fun _ => .pure _
    · exact .pure _
  | complete m => exact .bind (parts.processComplete c m) fun _ => .pure _
  | exchangeProblem m => exact .bind (parts.processExchangeProblem c m) fun _ => .pure _
  | rotate m => exact .bind (parts.processRotate c m) fun _ => .pure _
  | rotateAck m => exact .bind (parts.processRotateAck c m) fun _ => .pure _
  | hangup m => exact .bind (parts.processHangup c m) fun _ => .pure _
  | rotateProblem m => exact .bind (parts.processRotateProblem c m) fun _ => .pure _
  | forward m => exact .fail _

theorem receive (e : Envelope) : Keeps R (receive e) := by
  unfold Agent.receive
  refine .bind (.ask _) fun opened => .bind (.lift _) fun m => .bind (.ask _) fun c => ?_
  exact .bind (.ask _) fun _ => handle_keeps parts.ids (parts.dispatch m c)

end Parts

end Agent

/-- What the parts keep, every action keeps. -/
theorem Action.keeps {R : Agent → Agent → Prop} [IsPreorder Agent R] (parts : Agent.Parts R)
    (c : Connection) (y : Action) : Keeps R (y.step c) := by
  cases y with
  | createRequest r options => exact (parts.createRequest c r options).done
  | processRequest m r => exact (parts.processRequest c m r).done
  | createResponse r => exact (parts.createResponse c r).done
  | processResponse m => exact (parts.processResponse c m).done
  | createComplete => exact (parts.createComplete c).done
  | processComplete m => exact (parts.processComplete c m).done
  | processExchangeProblem m => exact (parts.processExchangeProblem c m).done
  | createRotate t => exact (parts.createRotate c t).done
  | processRotate m => exact (parts.processRotate c m).done
  | processRotateAck m => exact (parts.processRotateAck c m).done
  | processRotateProblem m => exact (parts.processRotateProblem c m).done
  | createHangup => exact (parts.createHangup c).done
  | processHangup m => exact (parts.processHangup c m).done

/-- What the parts keep, every operation keeps. -/
theorem Operation.keeps {R : Agent → Agent → Prop} [IsPreorder Agent R] (parts : Agent.Parts R)
    (x : Operation) : Keeps R x.step := by
  cases x with
  | invite r multiUse label => exact (parts.createInvitation r multiUse label).done
  | accept i autoAccept => exact (parts.receiveInvitation i autoAccept).done
  | on c y => exact y.keeps parts c
  | receive e => exact (parts.receive e).done
  | route mediator => exact (parts.freshRouting mediator).done
  | package o => exact (Agent.package_keeps parts.ids parts.noise o).done

/-! ## Runs -/

namespace Agent

/-- The agent after one operation and the next. -/
def after (a : Agent) (xs : List Operation) : Agent := xs.foldl (fun a x => (x.step.run a).2) a

theorem after_append (a : Agent) (xs ys : List Operation) :
    a.after (xs ++ ys) = (a.after xs).after ys := List.foldl_append

/-- A run to one operation more. -/
theorem after_take_succ (a : Agent) {xs : List Operation} {n : Nat} (h : n < xs.length) :
    a.after (xs.take (n + 1)) = ((xs[n]).step.run (a.after (xs.take n))).2 := by
  rw [List.take_succ_eq_append_getElem h, after_append]
  rfl

/-- What the parts keep, a run keeps. -/
theorem after_keeps {R : Agent → Agent → Prop} [IsPreorder Agent R] (parts : Parts R) (a : Agent)
    (xs : List Operation) : R a (a.after xs) := by
  induction xs generalizing a with
  | nil => exact refl a
  | cons x xs ih => exact IsTrans.trans _ _ _ (x.keeps parts a) (ih _)

end Agent

end Pairwise
