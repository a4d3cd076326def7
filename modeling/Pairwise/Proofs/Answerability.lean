import Pairwise.Proofs.Acceptance
import Pairwise.Proofs.ExchangeRuns
import Pairwise.Proofs.PeerDidCodec
import Pairwise.Proofs.Unroutable
/-!
# Whether a counterparty can be answered

A counterparty's DID is accepted in a request, in a response, or in an announcement. It then stays the DID
of one document, and it depends on this document alone whether the counterparty can be written to. An
announced DID has a service; a DID that is a key has none, and one that was told in an exchange may have
none either. Nobody looks at whom a service names.

Results:
* `Agent.Accepts`, `Accepts.resolves`: an accepted DID resolves to one document from then on.
* `answerable_iff`: in a run from empty stores, a message to an accepted DID has no way exactly if that
  document gives none.
-/
namespace Pairwise

section Runs

variable [suite : Suite]

/-- The document of a DID that is a key has no services. -/
theorem PeerDid.services_of_key {did : String} {p : PeerDid} {d : Document} (read : ofDid did = .ok p)
    (hd : p.document = some d) (key : form did = .ok .inceptionKey) : d.didcommServices = [] := by
  by_contra services
  cases key.symm.trans (announced_of_ofDid read hd services).form

namespace Agent

variable [chance : Chance]

variable {a a' : Agent} {c' : Connection} {did : String} {xs : List Operation}

/-- The agent has accepted a counterparty's DID, by which a connection goes from then on. -/
inductive Accepts (a : Agent) : String → Connection → Agent → Prop
  | told {did : String} {attachment : Option Attachment} {allowed : List Key} {c' : Connection}
      {a' : Agent} (exchanged : a.Exchanges did attachment allowed c' a') : Accepts a did c' a'
  | announced {c c' : Connection} {m : Rotate} {q : RotateAck} {o : Outbound} {a' : Agent}
      (taken : (processRotate c m).run a = (.ok o, a')) (acknowledged : o.message = .rotateAck q)
      (stored : a'.connections.find? c.id = some c') : Accepts a m.did c' a'

/-- What is acknowledged is the announcement of a DID that tells its document with a service. -/
theorem announced_of_ack {c : Connection} {m : Rotate} {q : RotateAck} {o : Outbound}
    (taken : (processRotate c m).run a = (.ok o, a')) (acknowledged : o.message = .rotateAck q) :
    ∃ d stored, Announced m.did d ∧ Stores a (c.withTheirDid (some m.did)) stored a' := by
  cases processRotate_heeds taken with
  | refuses => cases acknowledged
  | acknowledges completed announced readable stores => exact ⟨_, _, announced, stores⟩

/-- From then on the DID resolves to one document, and if it tells a document, to that. -/
theorem Accepts.resolves (h : a.Accepts did c' a') (bound : ∀ r ∈ a.dids.records, r.Bound) :
    c'.theirDid = some did ∧ ∃ d,
      (PeerDid.isDerivable did = true → PeerDid.ofDid did = .ok ⟨did, some d⟩) ∧
      ∀ dids : Store DidRecord, a'.dids.records <+: dids.records → Did.resolve dids did = .ok d := by
  cases h with
  | told exchanged =>
    obtain ⟨goes, d, learns⟩ := exchanged.learns
    exact ⟨goes, learns.resolves bound⟩
  | announced taken acknowledged stored =>
    obtain ⟨d, next, announced, stores⟩ := announced_of_ack taken acknowledged
    refine ⟨?_, d, fun _ => announced.read, fun dids _ => announced.resolve dids⟩
    obtain rfl := Option.some.inj (stored.symm.trans stores.find?_self)
    rw [stores.stored_eq]
    rfl

/-- In a run from empty stores, all stored DIDs are bound. -/
theorem after_bound (empty : a.dids.records = []) (xs : List Operation) :
    ∀ r ∈ (a.after xs).dids.records, r.Bound := by
  obtain ⟨more, records, bound⟩ := after_keeps binds_parts a xs
  rw [empty, List.nil_append] at records
  exact records ▸ bound

/-- A DID that an agent without DIDs has accepted in a run resolves to one document from then on, and a
message to it has no way exactly if that document gives none. The document of a DID that is a key has no
service, that of an announced DID has one. -/
theorem answerable_iff (empty : a.dids.records = []) (accepted : (a.after xs).Accepts did c' a') :
    c'.theirDid = some did ∧ ∃ d, (∀ ys, (a'.after ys).resolve did = .ok d) ∧
      (∀ ys (o : Outbound), o.connection.theirDid = some did →
        ((∃ what, ((package o).run (a'.after ys)).1 = .error (.missingRouting what)) ↔
          (a'.after ys).Unroutable o.connection d)) ∧
      (PeerDid.form did = .ok .inceptionKey → d.didcommServices = []) ∧
      ∀ c (m : Rotate) o q, m.did = did → (processRotate c m).run (a.after xs) = (.ok o, a') →
        o.message = .rotateAck q → d.didcommServices ≠ [] := by
  obtain ⟨goes, d, tells, resolves⟩ := accepted.resolves (after_bound empty xs)
  have resolved (ys : List Operation) : (a'.after ys).resolve did = .ok d := by
    obtain ⟨more, records, -⟩ := after_keeps binds_parts a' ys
    exact resolves _ ⟨more, records.symm⟩
  refine ⟨goes, d, resolved, fun ys o theirs => package_unroutable_iff theirs (resolved ys), ?_, ?_⟩
  · intro key
    have derivable : PeerDid.isDerivable did = true := by rw [PeerDid.isDerivable, key]
    exact PeerDid.services_of_key (tells derivable) rfl key
  · rintro c m o q rfl taken acknowledged
    obtain ⟨d', -, announced, -⟩ := announced_of_ack taken acknowledged
    obtain rfl : d = d' := Except.ok.inj ((resolved []).symm.trans (announced.resolve _))
    exact announced.services

/-! ## DIDs that tell their document -/

omit chance in
/-- A DID that tells its document is accepted without a document beside it, if the recipient keys of the
document can be read. -/
theorem acceptTheirDid_telling {p : PeerDid} {d : Document} {texts : List String}
    (read : PeerDid.ofDid p.did = .ok p) (hd : p.document = some d)
    (readable : d.recipientFingerprints = .ok texts) (new : a.dids.find? p.did = none)
    (allowed : List Key) :
    ∃ a' record, (acceptTheirDid p.did none allowed).run a = (.ok (), a') ∧ Gains a a' 0 [record] := by
  obtain ⟨form, hform⟩ := PeerDid.form_of_ofDid read
  have derivable : PeerDid.isDerivable p.did = true := by
    rw [← PeerDid.document_isSome_of_ofDid read, hd]
    rfl
  have told := theirPeerDid_derivable derivable read allowed
  obtain ⟨names, hnames⟩ : ∃ names, otherNames p.did d = .ok names := by
    rw [otherNames, ((PeerDid.whole_of_ofDid read).2 d hd).id, if_pos (PeerDid.isValid_of_form hform),
      read]
    exact ⟨_, rfl⟩
  obtain ⟨record, hrecord⟩ : ∃ record, DidRecord.new p.did .received d names a.now = .ok record := by
    rw [DidRecord.new, readable]
    exact ⟨_, rfl⟩
  have did : record.did = p.did := (DidRecord.new_keeps hrecord).1
  obtain ⟨a', accepted, gains⟩ := acceptTheirDid_told told hd hnames hrecord (did ▸ new)
  exact ⟨a', record, accepted, gains⟩

omit chance in
/-- The DID of a key is accepted so. -/
theorem acceptTheirDid_key {k : Key} (sized : k.Sized) {p : PeerDid} (made : PeerDid.ofKey k = .ok p)
    (new : a.dids.find? p.did = none) (allowed : List Key) :
    ∃ a' record, (acceptTheirDid p.did none allowed).run a = (.ok (), a') ∧ Gains a a' 0 [record] := by
  obtain ⟨d, document, e⟩ := Outcome.bind_eq_ok.mp made
  cases e
  have readable : d.recipientFingerprints = .ok [] := by
    rw [Document.recipientFingerprints, Document.recipientKeys, (Key.document_ok document).2]
    rfl
  exact acceptTheirDid_telling (PeerDid.ofDid_ofKey sized made) rfl readable new allowed

/-- An agent without connections invites, and takes in a request that tells an acceptable DID. -/
theorem invites_requested (alone : a.connections.records = []) (r : Routing)
    (new : a.dids.find? did = none) (acceptable : ∀ a₁ : Agent, a₁.dids.find? did = none →
      ∃ a₂ record, (acceptTheirDid did none []).run a₁ = (.ok (), a₂) ∧ Gains a₁ a₂ 0 [record]) :
    ∃ a₁ c m a', a.after [.invite r false none] = a₁ ∧ a₁.dids.records = a.dids.records ∧
      a₁.connections.records = [c] ∧ m.did = did ∧
      (processRequest c m none).run a₁ = (.ok (requested c m).next, a') ∧
      a'.connections.records = [(requested c m).next] ∧
      a.after ([.invite r false none] ++ [.on c (.processRequest m none)]) = a' := by
  have unsaved : a.connections.find? (chance.uuid (a.draws.ids + 1)) = none :=
    Store.find?_eq_none.mpr (alone ▸ List.forall_mem_nil _)
  obtain ⟨i, c, a₁, invites, -, hc, moves⟩ := createInvitation_run r false none unsaved
  rw [alone] at moves
  let m := Request.new "request" "Bob" i.id did
  obtain ⟨a₂, _, accepted, gains⟩ :=
    acceptable a₁ (Store.find?_eq_none_append moves.dids new (List.forall_mem_nil _))
  have waits : c.role = .responder ∧ c.state = .invitationSent ∧ c.multiUse = false ∧
      c.invitationId = some i.id := by
    rw [hc]
    exact ⟨rfl, rfl, rfl, rfl⟩
  have last : a₂.connections.records = [] ++ [c] := gains.connections ▸ moves.connections
  obtain ⟨a', taken, moves'⟩ := processRequest_accepted (m := m) waits.1 waits.2.1
    ⟨by rw [waits.2.2.2]; rfl, waits.2.2.2⟩ waits.2.2.1 accepted last
  have invited : a.after [.invite r false none] = a₁ := Step.done_state invites
  refine ⟨a₁, c, m, a', invited, ?_, moves.connections, rfl, taken, moves'.connections, ?_⟩
  · rw [moves.dids, List.append_nil]
  · rw [after_append, invited]
    exact Step.done_state taken

end Agent

end Runs

/-! ## A counterparty that cannot be answered -/

section Plain

attribute [local instance] Suite.plain Chance.counting

namespace Agent

/-- An agent without DIDs takes in a request that tells the DID of a key. -/
theorem plain_key_accepted : ∃ (a a' : Agent) (c' : Connection) (did : String),
    a.dids.records = [] ∧ PeerDid.form did = .ok .inceptionKey ∧ (a.after []).Accepts did c' a' := by
  let k := Wallet.keyOf [1]
  have usable : k.Usable := Key.usable_keyOf Suite.plain_lawful [1]
  obtain ⟨d, made⟩ := PeerDid.ofKey_made usable.sized fun _ => rfl
  let did := PeerDid.scheme ++ "0" ++ k.fingerprint
  let c : Connection := {
    id := "connection", createdAt := .epoch, role := .responder, state := .invitationSent
    invitation := some (invitationOf (.plain [2] []) "invitation" "Alice") }
  let a : Agent := { plain .genesisHash [2] with connections := ⟨[c], List.nodup_singleton _⟩ }
  let m := Request.new "request" "Bob" "invitation" did
  obtain ⟨a₁, record, accepted, gains⟩ :=
    acceptTheirDid_key (a := a) usable.sized made rfl []
  have last : a₁.connections.records = [] ++ [c] := by rw [gains.connections]; rfl
  obtain ⟨a', taken, -⟩ := processRequest_accepted (m := m) rfl rfl ⟨rfl, rfl⟩ rfl accepted last
  exact ⟨a, a', _, did, rfl, PeerDid.form_of_parts? (PeerDid.parts?_key usable.sized),
    .told (.request taken)⟩

/-- The agent goes on with that connection, and has no message for it that finds a way. -/
theorem answerable_iff_plain : ∃ (a a' : Agent) (c' : Connection) (did : String),
    a.dids.records = [] ∧ (a.after []).Accepts did c' a' ∧ c'.theirDid = some did ∧
      ∀ ys m, ∃ what, ((package ⟨m, c'⟩).run (a'.after ys)).1 = .error (.missingRouting what) := by
  obtain ⟨a, a', c', did, empty, key, accepted⟩ := plain_key_accepted
  obtain ⟨goes, d, -, unroutable, none, -⟩ := answerable_iff empty accepted
  exact ⟨a, a', c', did, empty, accepted, goes, fun ys m =>
    (unroutable ys ⟨m, c'⟩ goes).mpr (.noService (none key))⟩

/-- It is not so that a message to a DID that was accepted always finds a way. -/
theorem not_always_answerable :
    ¬ ∀ (a a' : Agent) (xs : List Operation) (c' : Connection) (did : String) (m : Message) (what : String),
      a.dids.records = [] → (a.after xs).Accepts did c' a' →
      ((package ⟨m, c'⟩).run a').1 ≠ .error (.missingRouting what) := by
  intro always
  obtain ⟨a, a', c', did, empty, key, accepted⟩ := plain_key_accepted
  obtain ⟨goes, d, tells, resolves⟩ := accepted.resolves (after_bound empty [])
  have derivable : PeerDid.isDerivable did = true := by rw [PeerDid.isDerivable, key]
  have none := PeerDid.services_of_key (tells derivable) rfl key
  let o : Outbound := ⟨.hangup (.new "hangup"), c'⟩
  obtain ⟨what, missing⟩ :=
    (package_unroutable_iff (o := o) goes (resolves _ List.prefix_rfl)).mpr (.noService none)
  exact always a a' [] c' did o.message what empty accepted missing

end Agent

end Plain

end Pairwise
