import Pairwise.Proofs.DidStore
import Pairwise.Proofs.OwnDids
/-!
# Taking in a counterparty's DID

A request and a response both tell a DID, and an agent that takes one in has stored the DID by then. It
is stored with the document that the agent was told, unless it was stored before.

Results:
* `Agent.Learns`: how a counterparty's DID was taken in.
* `acceptTheirDid_ok`, `saveReceivedDid_stored`: it is stored when it was accepted.
* `Agent.Exchanges`, `Exchanges.learns`: every request and every response that is taken in has its DID
  taken in, and the connection goes by it.
-/
namespace Pairwise

open Step

/-- A stored DID is found among more DIDs, too. -/
theorem Store.find?_of_prefix {dids dids' : Store DidRecord} (kept : dids.records <+: dids'.records)
    {did : String} {record : DidRecord} (found : dids.find? did = some record) :
    dids'.find? did = some record := by
  obtain ⟨mem, named⟩ := find?_eq_some.mp found
  exact find?_eq_some.mpr ⟨kept.subset mem, named⟩

variable [Suite]

namespace Agent

variable {a a₁ a' : Agent} {did : String} {d : Document} {attachment : Option Attachment}
  {allowed : List Key}

/-- Whatever comes with a DID, the DID itself can be read, and a document that it tells is the one that it
is known with. -/
theorem theirPeerDid_read {p : PeerDid} (h : theirPeerDid did attachment allowed = .ok p) :
    ∃ q, PeerDid.ofDid did = .ok q ∧ (PeerDid.isDerivable did = true → q = p) := by
  unfold theirPeerDid at h
  split at h
  · obtain ⟨e, -, joined⟩ := Outcome.bind_eq_ok.mp h
    obtain ⟨q, read, joined⟩ := Outcome.bind_eq_ok.mp joined
    refine ⟨q, read, fun derivable => ?_⟩
    rw [PeerDid.document_isSome_of_ofDid read, (PeerDid.whole_of_ofDid read).1, if_pos derivable] at joined
    exact Except.ok.inj joined
  · split at h
    · exact ⟨p, h, fun _ => rfl⟩
    · cases h

/-- The agent was told a document with a counterparty's DID, the recipient keys of which can be read.
The DID is stored with it, or as it was stored before. -/
structure Learns (a : Agent) (did : String) (attachment : Option Attachment) (allowed : List Key)
    (d : Document) (a' : Agent) : Prop where
  told : ∃ p, theirPeerDid did attachment allowed = .ok p ∧ p.document = some d
  readable : ∃ texts, d.recipientFingerprints = .ok texts
  stored : ∃ record, a'.dids.find? did = some record ∧
    (record.document = some d ∨ a.dids.find? did = some record)
  binds : Binds a a'

theorem Learns.of_same (h : a.Learns did attachment allowed d a₁) (same : a'.dids = a₁.dids) :
    a.Learns did attachment allowed d a' where
  told := h.told
  readable := h.readable
  stored := same ▸ h.stored
  binds := IsTrans.trans _ _ _ h.binds (.of_same same)

theorem Learns.of_before (h : a₁.Learns did attachment allowed d a') (same : a₁.dids = a.dids) :
    a.Learns did attachment allowed d a' where
  told := h.told
  readable := h.readable
  stored := same ▸ h.stored
  binds := IsTrans.trans _ _ _ (.of_same same) h.binds

/-- A document that was saved for a DID is stored for it, or what was stored for it before is. -/
theorem saveReceivedDid_stored (h : (saveReceivedDid did d).run a = (.ok (), a')) :
    ∃ record, a'.dids.find? did = some record ∧
      (record.document = some d ∨ a.dids.find? did = some record) := by
  simp only [saveReceivedDid, bind_run_ok, lift_run_ok, view_run_ok] at h
  obtain ⟨names, _, ⟨-, rfl⟩, _, _, ⟨rfl, rfl⟩, record, _, ⟨made, rfl⟩, saved⟩ := h
  obtain ⟨rfl, document, -⟩ := DidRecord.new_keeps made
  rcases saveNewDid_cases saved with ⟨same, known⟩ | ⟨-, records⟩
  · obtain ⟨before, found⟩ := Option.ne_none_iff_exists'.mp (known rfl)
    exact ⟨before, same ▸ found, .inr found⟩
  · have mem : record ∈ a'.dids.records := records ▸ List.mem_append_right _ List.mem_cons_self
    exact ⟨record, Store.find?_eq_some.mpr ⟨mem, rfl⟩, .inl document⟩

theorem acceptTheirDid_ok (h : (acceptTheirDid did attachment allowed).run a = (.ok (), a')) :
    ∃ d, a.Learns did attachment allowed d a' := by
  have binds := (acceptTheirDid_binds did attachment allowed).of_run h
  simp only [acceptTheirDid, bind_run_ok, lift_run_ok] at h
  obtain ⟨p, _, ⟨told, rfl⟩, saved⟩ := h
  split at saved
  · cases saved
  · next d hd =>
    exact ⟨d, ⟨p, told, hd⟩, saveReceivedDid_ok saved, saveReceivedDid_stored saved, binds⟩

/-- However more DIDs come to be stored, the DID resolves to one document: the one that it tells, or the
one that it is stored with. -/
theorem Learns.resolves (h : a.Learns did attachment allowed d a')
    (bound : ∀ r ∈ a.dids.records, r.Bound) :
    ∃ d', (PeerDid.isDerivable did = true → PeerDid.ofDid did = .ok ⟨did, some d'⟩) ∧
      ∀ dids : Store DidRecord, a'.dids.records <+: dids.records → Did.resolve dids did = .ok d' := by
  obtain ⟨p, told, hd⟩ := h.told
  obtain ⟨q, read, same⟩ := theirPeerDid_read told
  cases derivable : PeerDid.isDerivable did with
  | true =>
    obtain rfl := same derivable
    obtain ⟨rfl, -⟩ := PeerDid.whole_of_ofDid read
    have tells : PeerDid.ofDid q.did = .ok ⟨q.did, some d⟩ := read.trans (by rw [← hd])
    exact ⟨d, fun _ => tells, fun dids _ => Did.resolve_told tells dids⟩
  | false =>
    obtain ⟨record, found, stored⟩ := h.stored
    have document : ∃ d', record.document = some d' := by
      rcases stored with document | before
      · exact ⟨d, document⟩
      · obtain ⟨mem, rfl⟩ := Store.find?_eq_some.mp before
        obtain ⟨form, hform⟩ := PeerDid.form_of_ofDid read
        obtain ⟨d', document, -⟩ := (bound record mem).commits List.mem_cons_self hform
          (PeerDid.notKey_of_needed hform derivable)
        exact ⟨d', document⟩
    obtain ⟨d', document⟩ := document
    exact ⟨d', nofun, fun dids kept =>
      Did.resolve_stored read derivable (Store.find?_of_prefix kept found) document⟩

variable [Chance]

theorem answering_dids {c : Connection} {r : Option Routing} {result : Except Error Connection}
    (h : (answering c r).run a = (result, a')) : a'.dids = a.dids := by
  unfold answering at h
  split at h
  · split at h
    · cases h
      rfl
    · cases h
      rfl
  · cases h
    rfl

/-- The agent has taken in a message of an exchange in which the counterparty tells its DID. Keys of the
invitation may sign the document that comes with a response. -/
inductive Exchanges (a : Agent) : String → Option Attachment → List Key → Connection → Agent → Prop
  | request {c c' : Connection} {m : Request} {r : Option Routing} {a' : Agent}
      (taken : (processRequest c m r).run a = (.ok c', a')) :
      Exchanges a m.did m.attachment [] c' a'
  | response {c c' : Connection} {m : Response} {i : Invitation} {keys : List Key} {a' : Agent}
      (taken : (processResponse c m).run a = (.ok c', a')) (invited : c.invitation = some i)
      (recipients : i.recipients = .ok keys) :
      Exchanges a m.did m.attachment keys c' a'

/-- The connection goes by the DID, which was taken in. -/
theorem Exchanges.learns {c' : Connection} (h : a.Exchanges did attachment allowed c' a') :
    c'.theirDid = some did ∧ ∃ d, a.Learns did attachment allowed d a' := by
  cases h with
  | request taken =>
    simp only [processRequest, bind_run_ok, lift_run_ok] at taken
    obtain ⟨state, _, ⟨-, rfl⟩, ⟨⟩, _, ⟨-, rfl⟩, answer, a₁, answered, ⟨⟩, a₂, accepted, taken⟩ := taken
    obtain ⟨d, learns⟩ := acceptTheirDid_ok accepted
    have before := answering_dids answered
    have now : a.Learns _ _ _ d a₂ := learns.of_before before
    split at taken
    · obtain ⟨rfl, connections, saved, rfl⟩ := saveConnection_run_ok.mp taken
      exact ⟨rfl, d, now.of_same rfl⟩
    · refine ⟨?_, d, now.of_same (updateConnection_dids taken)⟩
      rw [(updateConnection_ok (refl a₂) taken).stored_eq]
  | response taken invited recipients =>
    simp only [processResponse, bind_run_ok, lift_run_ok] at taken
    obtain ⟨state, _, ⟨-, rfl⟩, ⟨⟩, _, ⟨-, rfl⟩, i', _, ⟨invited', rfl⟩, keys', _, ⟨recipients', rfl⟩,
      ⟨⟩, a₁, accepted, taken⟩ := taken
    cases invited.symm.trans (Connection.requireInvitation_eq_ok.mp invited')
    cases recipients.symm.trans recipients'
    obtain ⟨d, learns⟩ := acceptTheirDid_ok accepted
    refine ⟨?_, d, learns.of_same (updateConnection_dids taken)⟩
    rw [(updateConnection_ok (refl a₁) taken).stored_eq]

end Agent

end Pairwise
