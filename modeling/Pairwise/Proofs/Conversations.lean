import Pairwise.Agent.Inbound
import Pairwise.Proofs.DidRuns
import Pairwise.Proofs.Finding
import Pairwise.Proofs.Packing
import Pairwise.Proofs.Tags
/-!
# Conversations

A message is sealed for the other side, comes through the mediators, and is received; the answer goes
back in the same way, until there is none.

Results:
* `Invitation.Tells.recipients_read`, `Invitation.Tells.routing_read`: the keys of a routing are
  read from its invitation.
* `Agent.converse`: what becomes of two agents when one has a message for the other.
* `post_run`: a message that has somewhere to go arrives.
* `receive_run`: a message that arrives is handled on its connection.
-/
namespace Pairwise

variable [suite : Suite]

/-! ## What an invitation tells -/

/-- The invitation names the key of a routing, its first endpoint, and its mediators. -/
structure Invitation.Tells (i : Invitation) (r : Routing) : Prop where
  recipients : i.recipientKeys = [r.recipientKey.base58]
  endpoint : i.endpoint = r.endpoints.head?
  routing : i.routingKeys = r.routingKeys.map (·.base58)

theorem Key.allOfBase58_map {keys : List Key} (usable : ∀ k ∈ keys, k.Usable) :
    allOfBase58 (keys.map (·.base58)) = .ok keys := by
  induction keys with
  | nil => rfl
  | cons k keys ih =>
    obtain ⟨hk, hkeys⟩ := List.forall_mem_cons.mp usable
    have one : ofBase58 k.base58 .ed25519 = .ok k := by
      rw [← hk.signs, ofBase58_base58 hk.sized]
    have rest := ih hkeys
    rw [allOfBase58] at rest ⊢
    rw [List.map_cons, List.mapM_cons, one, rest]
    rfl

namespace Invitation.Tells

variable {i : Invitation} {r : Routing} (tells : i.Tells r) (sound : r.Sound)

include tells sound

/-- The invitation is answered to the key of the routing. -/
theorem recipients_read : i.recipients = .ok [r.recipientKey] := by
  rw [Invitation.recipients, tells.recipients]
  exact Key.allOfBase58_map (List.forall_mem_singleton.mpr sound.recipient)

theorem routing_read : i.routing = .ok r.routingKeys := by
  rw [Invitation.routing, tells.routing, Key.allOfBase58_map sound.mediators]

theorem requireKey : i.requireKey = .ok r.recipientKey := by
  rw [Invitation.requireKey, tells.recipients_read sound]
  rfl

end Invitation.Tells

/-! ## Conversations -/

/-- The result of a step and the agent afterwards, if the step succeeds. -/
def Step.outcome {α : Type} (x : Step α) (a : Agent) : Except Error (α × Agent) :=
  match x.run a with
  | (.ok r, a') => .ok (r, a')
  | (.error e, _) => .error e

theorem Step.outcome_eq {α : Type} {x : Step α} {a a' : Agent} {r : α}
    (h : x.run a = (.ok r, a')) : x.outcome a = .ok (r, a') := by
  rw [outcome, h]

theorem Step.outcome_eq_ok {α : Type} {x : Step α} {a a' : Agent} {r : α} :
    x.outcome a = .ok (r, a') ↔ x.run a = (.ok r, a') := by
  refine ⟨fun h => ?_, outcome_eq⟩
  rcases run : x.run a with ⟨e | r', a₁⟩
  · rw [outcome, run] at h
    cases h
  · rw [outcome, run] at h
    cases h
    rfl

namespace Agent

section Definitions

variable [chance : Chance]

/-- Seals a message and hands it to the mediators on the way, who open a layer each. -/
def post (mediators : Wallet) (o : Outbound) : Step Envelope := do
  let (_, d) ← Step.ask (delivery o.connection)
  let p ← package o
  mediators.peel p.payload d.routing.length

/-- Delivers a message from one agent to the other, the answer back, and so on, as long as there are
answers. Gives the kinds of all messages, and both agents. -/
def converse (mediators : Wallet) : (limit : Nat) → (sender receiver : Agent) → Outbound →
    Except Error (List MessageKind × Agent × Agent)
  | 0, _, _, _ => .error (.transport "too many messages")
  | limit + 1, sender, receiver, o => do
    let (e, sender) ← (post mediators o).outcome sender
    let (answer, receiver) ← (receive e).outcome receiver
    match answer with
    | none => return ([o.message.kind], sender, receiver)
    | some answer => do
      let (kinds, receiver, sender) ← converse mediators limit receiver sender answer
      return (o.message.kind :: kinds, sender, receiver)

end Definitions

/-! ## Sending -/

/-- Messages on the connection go where the routing says. -/
def SendsTo (a : Agent) (c : Connection) (r : Routing) : Prop :=
  ∃ endpoint, a.delivery c
    = .ok (endpoint, { recipients := [r.recipientKey], routing := r.routingKeys })

variable {a : Agent} {c : Connection} {r : Routing}

/-- As long as no DID of the counterparty is known, messages go where the invitation says. -/
theorem sendsTo_invitation (h : r.Sound) {i : Invitation} (tells : i.Tells r)
    (role : c.role = .requester) (did : c.theirDid = none) (invitation : c.invitation = some i) :
    SendsTo a c r := by
  obtain ⟨first, rest, endpoints⟩ := List.exists_cons_of_ne_nil h.endpoints
  refine ⟨first, ?_⟩
  rw [delivery, did, invitation]
  dsimp only
  rw [Connection.isRequester, role, decide_eq_true rfl, if_pos rfl, invitationDelivery,
    tells.endpoint, endpoints]
  dsimp only [List.head?_cons]
  rw [tells.recipients_read h, Outcome.ok_bind, tells.routing_read h]
  rfl

/-- Messages go where the document of the counterparty's DID says. -/
theorem sendsTo_did {p : PeerDid} (made : p.Made r) (resolves : a.dids.Resolves p)
    (did : c.theirDid = some p.did) : SendsTo a c r := by
  obtain ⟨d, hd, tells, -⟩ := made.resolve resolves
  obtain ⟨s, rest, services⟩ := List.exists_cons_of_ne_nil tells.services
  have there : s ∈ d.didcommServices := by
    rw [services]
    exact List.mem_cons_self
  refine ⟨s.endpoint, ?_⟩
  rw [delivery, did]
  dsimp only
  rw [serviceDelivery, resolve, hd, Outcome.ok_bind, services]
  dsimp only
  rw [tells.recipients s there, Outcome.ok_bind, tells.routing s there]
  rfl

/-- Messages are sealed in the name of the agent's own DID. -/
theorem senderKey_did {p : PeerDid} (made : p.Made r) (resolves : a.dids.Resolves p)
    (did : c.did = some p.did) : a.senderKey c = .ok (some r.recipientKey) := by
  obtain ⟨d, hd, tells, -⟩ := made.resolve resolves
  rw [senderKey, did]
  dsimp only
  rw [resolve, hd, Outcome.ok_bind, tells.recipientKeys]
  rfl

variable [chance : Chance]

/-- A message that has somewhere to go arrives as an envelope for the key of the routing. -/
theorem post_run (lawful : suite.Lawful) (drawn : chance.Lawful) (h : r.Sound)
    (way : SendsTo a c r) {k : Key} (sender : a.senderKey c = .ok (some k))
    (signs : k.kind = .ed25519) (held : a.wallet.holds k = true) {m : Message} (readable : m.Readable)
    {mediators : Wallet} (open_ : ∀ k ∈ r.routingKeys, mediators.holds k = true) :
    ∃ e a', (post mediators ⟨m, c⟩).run a = (.ok e, a') ∧ Drawn a a' ∧
      e.Holds m.toJson [r.recipientKey] (some k) := by
  obtain ⟨endpoint, hdelivery⟩ := way
  obtain ⟨outer, e, a', hpack, drew, holds, peeled⟩ := pack_run lawful drawn readable.fits
    (d := { recipients := [r.recipientKey], routing := r.routingKeys, sender := some k }) rfl
    (List.cons_ne_nil _ _) (List.forall_mem_singleton.mpr h.recipient) h.mediators
    (a := a) (fun k' hk' => by
      obtain rfl := Option.mem_some_iff.mp hk'
      exact ⟨signs, held⟩)
  have packaged : (package ⟨m, c⟩).run a = (.ok ⟨outer, endpoint⟩, a') := by
    rw [package, Step.bind_ask hdelivery]
    dsimp only
    rw [Step.bind_ask sender, Step.bind_ok hpack]
    rfl
  refine ⟨e, a', ?_, drew, holds⟩
  rw [post, Step.bind_ask hdelivery]
  dsimp only
  rw [Step.bind_ok packaged]
  exact congrArg (·, a') (peeled mediators open_)

/-! ## Receiving -/

omit chance in
/-- Whoever has the key that a message is sealed for opens the message. -/
theorem unpack_run {e : Envelope} {message : Json} {k : Key} {sender : Option Key}
    (holds : e.Holds message [k] sender) (held : a.wallet.holds k = true) :
    unpack e a = .ok ⟨message.sorted, sender, k⟩ := by
  have opened := holds a.wallet
  rw [List.find?_cons, held] at opened
  rw [unpack, opened]
  rfl

/-- A message that arrives is handled on its connection. -/
theorem receive_run {e : Envelope} {m : Message} {k : Key} {sender : Option Key}
    (holds : e.Holds m.toJson [k] sender) (readable : m.Readable) (held : a.wallet.holds k = true)
    (connection : a.connectionOfKey k = .ok (some c)) (checked : checkSender m c sender a = .ok ()) :
    (receive e).run a = (handle m c).run a := by
  rw [receive, Step.bind_ask (unpack_run holds held), Step.bind_lift readable.read,
    Step.bind_ask (connectionFor_eq_ok.mpr connection), Step.bind_ask checked]

/-- What a step makes of a message is the answer. -/
theorem handle_run {m : Message} {answer : Option Outbound} {a' : Agent}
    (h : (dispatch m c).run a = (.ok answer, a')) : (handle m c).run a = (.ok answer, a') := by
  rw [handle, Step.bind_ok (Step.attempt_run _ _), h]
  rfl

end Agent

end Pairwise
