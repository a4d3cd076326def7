import Pairwise.Proofs.Commitments
import Pairwise.Proofs.Completion
import Pairwise.Proofs.Operations
import Pairwise.Proofs.ReadDocuments
import Pairwise.Proofs.RotationSteps
/-!
# Stored DIDs are bound to their documents

An agent stores DIDs beside those that it has, and never changes one. Each comes with the document that
it commits to, however it came: made for a routing, told in an exchange with or without an attachment,
or announced in a rotation. So whoever the agent hears from, a DID resolves to the one document that it
commits to.

Results:
* `DidRecord.Bound`: the names of a stored DID all commit to its document.
* `Agent.Binds`, `binds_parts`: every operation stores such DIDs only.
* `Agent.keeps_commitments`: so in every run from empty stores, what a DID resolves to it commits to.
-/
namespace Pairwise

open Step

section Storing

variable [suite : Suite]

/-! ## Stored DIDs -/

/-- The stored DID is one that is known with its document, under names of the document. With a DID that
is a key other services may be stored; it resolves without a look at them. -/
def DidRecord.Bound (r : DidRecord) : Prop :=
  ∃ p d, PeerDid.Whole p d ∧ (∀ name ∈ r.did :: r.alternatives, name ∈ p.names) ∧
    (r.document = some d ∨ ∃ rest, p.did.toList = PeerDid.scheme.toList ++ '0' :: rest)

/-- A stored DID that is no key is stored with a document that it commits to, under every name. -/
theorem DidRecord.Bound.commits {r : DidRecord} (bound : r.Bound) {name : String}
    (named : name ∈ r.did :: r.alternatives) {f : PeerForm} (form : PeerDid.form name = .ok f)
    (notKey : f ≠ .inceptionKey) : ∃ d, r.document = some d ∧ PeerDid.Commits name d := by
  obtain ⟨p, d, whole, names, document | ⟨rest, text⟩⟩ := bound
  · exact ⟨d, document, whole.commits (names name named)⟩
  · have own := names name named
    rw [PeerDid.names_of_key text, List.mem_singleton] at own
    rw [own] at form
    exact absurd (PeerDid.form_of_digit (g := .inceptionKey) form text) notKey

omit suite in
/-- The record of a DID holds its document and its other names. -/
theorem DidRecord.new_keeps {did : String} {role : DidRole} {d : Document} {names : List String}
    {now : Timestamp} {record : DidRecord} (h : new did role d names now = .ok record) :
    record.did = did ∧ record.document = some d ∧ record.alternatives = names := by
  obtain ⟨texts, -, h⟩ := Outcome.bind_eq_ok.mp h
  cases h
  exact ⟨rfl, rfl, rfl⟩

namespace Agent

/-- The agent afterwards has stored DIDs that are bound to their documents, and has all that it had as
they were. -/
def Binds (a a' : Agent) : Prop :=
  ∃ more, a'.dids.records = a.dids.records ++ more ∧ ∀ r ∈ more, r.Bound

instance : IsPreorder Agent Binds :=
  inferInstanceAs (IsPreorder Agent (AddsDids DidRecord.Bound))

theorem Binds.of_same {a a' : Agent} (same : a'.dids = a.dids) : Binds a a' := AddsDids.of_same same

/-! ## Storing -/

theorem saveNewDid_binds {r : DidRecord} (bound : r.Bound) : Keeps Binds (saveNewDid r) :=
  saveNewDid_addsDids bound

/-- The other names that a document is stored under are names of its DID. -/
theorem otherNames_subset {p : PeerDid} {d : Document} (whole : p.Whole d) {did : String}
    {names : List String} (h : otherNames did d = .ok names) : ∀ name ∈ names, name ∈ p.names := by
  unfold otherNames at h
  split at h
  · obtain ⟨q, read, h⟩ := Outcome.bind_eq_ok.mp h
    cases h
    have same : q.names = p.names := by
      have did : q.did = p.did := (PeerDid.whole_of_ofDid read).1.trans whole.id
      rw [PeerDid.names, PeerDid.names, PeerDid.alternatives, PeerDid.alternatives, did]
    intro name mem
    rw [← same]
    exact (List.mem_filter.mp mem).1
  · cases h
    exact List.forall_mem_nil _

theorem saveReceivedDid_binds {p : PeerDid} {d : Document} (whole : p.Whole d) {did : String}
    (named : did ∈ p.names) : Keeps Binds (saveReceivedDid did d) := by
  unfold saveReceivedDid
  refine .bind_lift fun names others => .bind (.view _) fun now => .bind_lift fun record made => ?_
  obtain ⟨rfl, document, rfl⟩ := DidRecord.new_keeps made
  refine saveNewDid_binds ⟨p, d, whole, ?_, .inl document⟩
  exact List.forall_mem_cons.mpr ⟨named, otherNames_subset whole others⟩

/-! ## What counterparties tell -/

/-- Whatever comes with a DID, it is taken in as a name of its own document. -/
theorem theirPeerDid_whole {did : String} {attachment : Option Attachment} {allowed : List Key}
    {p : PeerDid} {d : Document} (h : theirPeerDid did attachment allowed = .ok p)
    (hd : p.document = some d) : p.Whole d ∧ did ∈ p.names := by
  unfold theirPeerDid at h
  split at h
  · obtain ⟨e, verified, h⟩ := Outcome.bind_eq_ok.mp h
    exact PeerDid.whole_of_ofDidWithDocument (SignedDocument.ordered_of_verify verified) h hd
  · split at h
    · obtain ⟨rfl, whole⟩ := PeerDid.whole_of_ofDid h
      exact ⟨whole d hd, List.mem_cons_self⟩
    · cases h

theorem acceptTheirDid_binds (did : String) (attachment : Option Attachment) (allowed : List Key) :
    Keeps Binds (acceptTheirDid did attachment allowed) := by
  unfold acceptTheirDid
  refine .bind_lift fun p told => ?_
  split
  · exact .fail _
  · next d hd =>
    obtain ⟨whole, named⟩ := theirPeerDid_whole told hd
    exact saveReceivedDid_binds whole named

/-- An announced DID tells its own document. -/
theorem announced_whole {did : String} {d : Document} (h : Announced did d) :
    PeerDid.Whole ⟨did, some d⟩ d := by
  refine ⟨rfl, h.id, .long ?_ h.read⟩
  have derivable := h.derivable
  rw [PeerDid.isDerivable, h.form] at derivable
  exact derivable

variable [chance : Chance]

/-! ## What the agent makes -/

theorem routingDocument_ordered {r : Routing} {a a' : Agent} {d : Document}
    (h : (routingDocument r).run a = (.ok d, a')) : d.Ordered := by
  simp only [routingDocument, bind_run_ok, lift_run_ok] at h
  obtain ⟨agreement, _, -, _, _, -, _, _, -, made, -⟩ := h
  obtain ⟨services, hservices, e⟩ := Outcome.bind_eq_ok.mp made
  cases e
  exact fun s mem => ((Routing.services_shape hservices).2 s mem).2.1

theorem createPeerDid_binds (r : Routing) (form : PeerForm) : Keeps Binds (createPeerDid r form) := by
  have quiet : Keeps Binds (routingDocument r) := by
    unfold routingDocument
    have draws : Keeps Binds drawId := fun _ => .of_same rfl
    exact .bind (.lift _) fun _ => .bind draws fun _ => .bind draws fun _ => .lift _
  unfold createPeerDid
  refine .bind_of quiet (fun _ _ _ => routingDocument_ordered) fun told ordered => ?_
  refine .bind_lift fun p made => ?_
  split
  · exact .fail _
  next derived hd =>
  refine .bind (.view _) fun now => .bind_lift fun record hrecord => ?_
  obtain ⟨did, document, alternatives⟩ := DidRecord.new_keeps hrecord
  refine .bind (saveNewDid_binds ⟨p, derived, PeerDid.whole_of_ofDocument ordered made hd, ?_, ?_⟩)
    fun _ => .pure _
  · rw [did, alternatives]
    exact fun _ mem => mem
  · by_cases key : form = .inceptionKey
    · right
      subst key
      obtain ⟨keys, -, made⟩ := Outcome.bind_eq_ok.mp made
      cases keys with
      | nil => cases made
      | cons key keys => exact ⟨_, PeerDid.toList_ofKey made⟩
    · left
      rw [document, ownDocument, if_neg key]

/-- Whatever an operation is put together from, it stores only DIDs that are bound. -/
theorem binds_parts : Parts Binds where
  ids _ := .of_same rfl
  noise _ _ := .of_same rfl
  keys _ := .of_same rfl
  makes := createPeerDid_binds
  accepts := acceptTheirDid_binds
  follows a did d checked := by
    have announced := checkRotationDid_eq_ok.mp checked
    exact saveReceivedDid_binds (announced_whole announced) (announced.id ▸ List.mem_cons_self)
  saves _ := saveConnection_keeps fun _ _ _ => .of_same rfl
  updates _ := updateConnection_keeps fun _ _ _ _ => .of_same rfl

end Agent

/-! ## Resolving -/

namespace Did

omit suite in
/-- A document is found under the DID that it is stored with, or under another name of it. -/
theorem stored?_eq_some {dids : Store DidRecord} {did : String} {d : Document}
    (h : stored? dids did = some d) :
    ∃ r ∈ dids.records, did ∈ r.did :: r.alternatives ∧ r.document = some d := by
  obtain ⟨r, found, document⟩ := Option.bind_eq_some_iff.mp h
  split at found
  · next found' =>
    cases found
    obtain ⟨mem, rfl⟩ := Store.find?_eq_some.mp found'
    exact ⟨r, mem, List.mem_cons_self, document⟩
  · obtain ⟨mem, accepted⟩ := Store.mem_query.mp (List.mem_of_mem_head? found)
    obtain ⟨tag, hlookup, answers⟩ := Query.accepts_on.mp accepted
    cases hlookup
    exact ⟨r, mem, List.mem_cons_of_mem _ (List.contains_iff_mem.mp answers), document⟩

/-- What a peer DID resolves to it commits to, if all stored DIDs are bound. -/
theorem commits_of_resolve {dids : Store DidRecord} (bound : ∀ r ∈ dids.records, r.Bound)
    {did : String} (peer : Text.startsWith PeerDid.scheme did = true) {d : Document}
    (h : resolve dids did = .ok d) : PeerDid.Commits did d := by
  rw [resolve, PeerDid.startsWith_keyScheme peer, peer] at h
  obtain ⟨p, read, h⟩ := Outcome.bind_eq_ok.mp h
  obtain ⟨rfl, whole⟩ := PeerDid.whole_of_ofDid read
  dsimp only at h
  split at h
  · next told =>
    cases h
    split at told
    · exact (whole d told).commits List.mem_cons_self
    next needed =>
    obtain ⟨r, mem, name, document⟩ := stored?_eq_some told
    obtain ⟨form, hform⟩ := PeerDid.form_of_ofDid read
    have notKey := PeerDid.notKey_of_needed hform (Bool.eq_false_iff.mpr needed)
    obtain ⟨e, stored, commits⟩ := (bound r mem).commits name hform notKey
    obtain rfl : d = e := Option.some.inj (document.symm.trans stored)
    exact commits
  · cases h

end Did

namespace Agent

variable [chance : Chance] {a : Agent}

/-- Whatever an agent without DIDs is asked to do, and whatever envelopes it receives: the DIDs that it
has stored stay stored as they are, and what a peer DID resolves to it commits to. -/
theorem keeps_commitments (empty : a.dids.records = []) (xs ys : List Operation) :
    (a.after xs).dids.records <+: (a.after (xs ++ ys)).dids.records ∧
      ∀ did d, Text.startsWith PeerDid.scheme did = true → (a.after xs).resolve did = .ok d →
        PeerDid.Commits did d := by
  constructor
  · obtain ⟨more, records, -⟩ := after_keeps binds_parts (a.after xs) ys
    rw [after_append, records]
    exact List.prefix_append _ _
  · intro did d peer resolved
    obtain ⟨more, records, bound⟩ := after_keeps binds_parts a xs
    rw [empty, List.nil_append] at records
    exact Did.commits_of_resolve (records ▸ bound) peer resolved

end Agent

end Storing

/-! ## A run -/

section Plain

attribute [local instance] Suite.plain Chance.counting

namespace Agent

/-- An agent that tells no documents with its DIDs has taken an invitation in, and can tell a DID in
answer to it. -/
theorem plain_tells (i : Invitation) : ∃ c a p,
    (receiveInvitation i none).run (plain .genesisHash [1]) = (.ok c, a) ∧
      c.At i .requester .invitationReceived none none none ∧
      Moves (plain .genesisHash [1]) a 1 [] ([] ++ [c]) ∧ p.Made (.plain [1] []) ∧
      PeerDid.form p.did = .ok .genesisHash ∧
      Tells a (.plain [1] []) p (Routing.plain [1] []).recipientKey := by
  have form : PeerForm.genesisHash ≠ .inceptionKey := nofun
  have host : Host (plain .genesisHash [1]) (.plain [1] []) := plain_host form [1] []
  obtain ⟨c, a, p, taken, -, stage, moves, hp, tells⟩ :=
    receiveInvitation_tells rfl rfl i none host.sound form host.held
  exact ⟨c, a, p, taken, stage, moves, Routing.made_of_peerDid host.sound form hp,
    Routing.form_peerDid form hp, tells⟩

/-- An agent answers an invitation with a DID that does not tell its document, and finds that again. -/
theorem keeps_commitments_plain : ∃ (a : Agent) (xs : List Operation) (did : String) (d : Document),
    a.dids.records = [] ∧ PeerDid.form did = .ok .genesisHash ∧ (a.after xs).resolve did = .ok d ∧
    (a.after xs).dids.records <+: (a.after (xs ++ xs)).dids.records ∧ PeerDid.Commits did d := by
  let a := plain .genesisHash [1]
  let r := Routing.plain [1] []
  let i := invitationOf (.plain [2] []) "invitation" "Alice"
  obtain ⟨c, a₁, p, taken, stage, moves, made, hform, tells⟩ := plain_tells i
  obtain ⟨m, a₂, attachment, record, asked, -, -, -, isOf, moves'⟩ :=
    createRequest_run Suite.plain_lawful tells moves.connections stage.role stage.state
      stage.invitation {}
  let xs : List Operation := [.accept i none, .on c (.createRequest r {})]
  have run : a.after xs = a₂ := by
    change ((Agent.createRequest c r {}).done.run ((receiveInvitation i none).done.run a).2).2 = a₂
    rw [done_run, done_run, taken, asked]
  have known : a₂.dids.Knows p :=
    .of_mem (moves'.dids ▸ List.mem_append_right _ (List.mem_singleton.mpr rfl)) isOf
  obtain ⟨d, resolved, -, -⟩ := made.resolve (.inr known)
  obtain ⟨kept, commits⟩ := keeps_commitments (a := a) rfl xs xs
  have resolved' : (a.after xs).resolve p.did = .ok d := run ▸ resolved
  exact ⟨a, xs, p.did, d, rfl, hform, resolved', kept,
    commits p.did d (PeerDid.startsWith_of_form hform) resolved'⟩

end Agent

end Plain

end Pairwise
