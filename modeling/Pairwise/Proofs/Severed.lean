import Pairwise.Proofs.ForeignMessages
import Pairwise.Proofs.Lifecycle
import Pairwise.Proofs.RotationAgreement
/-!
# Connections that the counterparty hung up

Whoever takes in a hangup does not know a DID of the counterparty any more. Nearly all messages to the
connection are dropped from then on, whoever they come from. Those that may come before a DID is known are
handled again; but these belong to the exchange, which is completed, and are refused.

Results:
* `Connection.Severed`: a completed connection without a DID of the counterparty.
* `Agent.receive_severed`: no envelope changes such a connection.
* `Agent.hungUp_inert`: it stays as the hangup left it until the agent does something with it.
-/
namespace Pairwise

open Step

namespace Connection

/-- The exchange is completed, and no DID of the counterparty is known any more. -/
structure Severed (c : Connection) : Prop where
  completed : c.state = .completed
  unknown : c.theirDid = none

/-- No message that may come before a DID is known belongs to a completed connection. -/
theorem Severed.unmoved {c : Connection} (h : c.Severed) {m : Message}
    (early : Agent.comesBeforeDid m = true) : c.Unmoved m := by
  cases m with
  | request q => exact .inr (h.completed ▸ ⟨nofun, nofun⟩)
  | response q => exact fun waits => nomatch h.completed.symm.trans waits
  | exchangeProblem q => exact congrArg ExchangeState.isTerminal h.completed
  | _ => cases early

end Connection

section Hangups

variable [suite : Suite] [chance : Chance]

/-! ## What touches no other connection -/

/-- An action changes no stored connection but the one that it is done on. -/
theorem Action.step_only (y : Action) (c : Connection) : Keeps (Agent.Only c.id) (y.step c) := by
  intro a
  rcases run : (y.step c).run a with ⟨result, a'⟩
  cases y.does run with
  | fails quiet => exact quiet.only c.id
  | refuses quiet => exact quiet.only c.id
  | forks adds => exact fun id d _ found => adds id d found
  | makes stores same _ =>
    intro id d other found
    rw [← same.1] at other
    rwa [stores.find?_of_ne other]

namespace Agent

variable {a a' : Agent} {c c' : Connection} {m : Hangup}

/-- Whatever comes in, a connection that was hung up stays as it is. A message for it that comes too late
for a stranger is dropped with the sender check, and one that comes in time is refused. -/
theorem receive_severed (stored : a.connections.find? c.id = some c) (severed : c.Severed)
    (e : Envelope) : ((receive e).run a).2.connections.find? c.id = some c := by
  by_cases late : ∃ m, a.Brings e m c ∧ comesBeforeDid m = false
  · obtain ⟨m, brings, late⟩ := late
    rwa [brings.receive_late severed.unknown late]
  · refine receive_keeps stored fun m brings => severed.unmoved ?_
    exact Bool.of_not_eq_false fun dropped => late ⟨m, brings, dropped⟩

/-- So it does whatever the agent is asked for, if it is not to do something with this connection. -/
theorem step_severed (stored : a.connections.find? c.id = some c) (severed : c.Severed) (x : Operation)
    (silent : ∀ d y, x = .on d y → d.id ≠ c.id) :
    (x.step.run a).2.connections.find? c.id = some c := by
  cases x with
  | invite r multiUse label => exact (createInvitation_adds r multiUse label).done a _ _ stored
  | accept i autoAccept => exact (receiveInvitation_adds i autoAccept).done a _ _ stored
  | on d y => exact y.step_only d a _ _ (Ne.symm (silent d y rfl)) stored
  | receive e =>
    change ((receive e).done.run a).2.connections.find? c.id = some c
    rw [done_run]
    exact receive_severed stored severed e
  | route mediator =>
    change ((freshRouting mediator).done.run a).2.connections.find? c.id = some c
    rwa [done_run, freshRouting_connections]
  | package o => exact ((package_quiet o).done a).adds _ _ stored

theorem after_severed {xs : List Operation} (stored : a.connections.find? c.id = some c)
    (severed : c.Severed) (silent : ∀ d y, .on d y ∈ xs → d.id ≠ c.id) :
    (a.after xs).connections.find? c.id = some c := by
  induction xs generalizing a with
  | nil => exact stored
  | cons x xs ih =>
    have kept := step_severed stored severed x fun d y same => silent d y (same ▸ List.mem_cons_self)
    exact ih kept fun d y mem => silent d y (List.mem_cons_of_mem x mem)

omit chance in
/-- The hangup leaves a connection without a DID of the counterparty. -/
theorem processHangup_severed (h : (processHangup c m).run a = (.ok c', a')) :
    c'.Severed ∧ a'.connections.find? c'.id = some c' := by
  obtain ⟨completed, stores⟩ := processHangup_ok h
  obtain rfl := stores.stored_eq
  exact ⟨⟨completed, rfl⟩, stores.find?_next⟩

/-- A connection that the counterparty hung up is inert. Whatever envelopes the agent receives from then
on, and whatever else it does, the connection is stored just as the hangup left it, until the agent does
something with this connection itself. -/
theorem hungUp_inert (h : (processHangup c m).run a = (.ok c', a')) {xs : List Operation}
    (silent : ∀ d y, .on d y ∈ xs → d.id ≠ c'.id) :
    (a'.after xs).connections.find? c'.id = some c' := by
  obtain ⟨severed, stored⟩ := processHangup_severed h
  exact after_severed stored severed silent

end Agent

end Hangups

/-! ## A connection that was hung up -/

section Plain

attribute [local instance] Suite.plain Chance.counting

namespace Agent

/-- The former counterparty writes to a connection that it has hung up, under the DID that it had. -/
theorem hungUp_inert_plain : ∃ (a a' : Agent) (c c' : Connection) (m : Hangup) (e : Envelope)
    (q : ProblemReport), (processHangup c m).run a = (.ok c', a') ∧
      a'.Brings e (.exchangeProblem q) c' ∧
      (a'.after [.receive e]).connections.find? c'.id = some c' := by
  obtain ⟨p, hp, form⟩ := PeerDid.plain [1]
  obtain ⟨q, hq, form'⟩ := PeerDid.plain [2]
  let a : Agent := between [1] p q.did
  let c : Connection := .between p.did q.did
  have owns : a.Owns c.id p (.plain [1] []) := between_owns q.did hp form
  have standing : a.Standing c := between_standing q.did
  obtain ⟨a', updated, stored⟩ :=
    updateConnection_found standing.stored (c.withTheirDid none) rfl rfl
  have hung : (processHangup c (.new "hangup")).run a = (.ok (c.withTheirDid none).next, a') := by
    rw [processHangup, bind_lift (requireCompleted_eq_ok.mpr rfl)]
    exact updated
  -- the key of the agent's DID still leads to the connection
  obtain ⟨-, stores⟩ := processHangup_ok hung
  have owns' : a'.Owns c.id p (.plain [1] []) := owns.continues <| stores.continues fun k _ => by
    rw [didsOfKey, updateConnection_dids updated]
    rfl
  let c' : Connection := (c.withTheirDid none).next
  have found : a'.connectionOfKey (Routing.plain [1] []).recipientKey = .ok (some c') :=
    Owns.connectionOfKey (c := c') owns' stored rfl List.mem_cons_self
  let report : ProblemReport := {
    kind := .exchangeProblem, id := "report", description := .ofKnown .requestNotAccepted }
  have readable : (Message.exchangeProblem report).Readable :=
    ProblemReport.readable rfl fun t mem => absurd mem (Option.not_mem_none t)
  obtain ⟨e, -, -, -, holds⟩ := sealFor_run (a := between [2] q p.did) Suite.plain_lawful
    Chance.counting_lawful readable.fits (List.forall_mem_singleton.mpr owns.sound.recipient)
    (List.cons_ne_nil _ _) (some (Wallet.keyOf [2]))
    fun k mem => Option.mem_some_iff.mp mem ▸ ⟨rfl, Wallet.holds_add_self _ _⟩
  refine ⟨a, a', c, _, _, e, report, hung, .of_holds holds readable owns'.held found,
    hungUp_inert hung ?_⟩
  intro d y mem
  cases List.mem_singleton.mp mem

end Agent

end Plain

end Pairwise
