import Pairwise.Proofs.Acceptance
import Pairwise.Proofs.Courses
/-!
# What is known of a counterparty's documents

An agent looks at a document before it stores it, but not at all of it: the keys of its services are read,
those for signatures are not. So the recipient keys of every document that a counterparty of the agent
told can be read, whoever the counterparty is; nothing more is known of its keys.

Results:
* `Document.Addressable`: the recipient keys of a document can be read.
* `Agent.theirDids_of_step`: every DID that an action puts in the counterparty's place tells such a
  document, if it tells one.
* `Agent.resolves_addressable`: in a run from empty stores, every DID of a counterparty resolves to such a
  document, if it resolves.
-/
namespace Pairwise

open Step

/-- The recipient keys of the document can be read. -/
def Document.Addressable (d : Document) : Prop := ∃ keys, d.recipientKeys = .ok keys

theorem Document.Addressable.of_fingerprints {d : Document} {texts : List String}
    (h : d.recipientFingerprints = .ok texts) : d.Addressable := by
  obtain ⟨keys, read, -⟩ := Outcome.bind_eq_ok.mp h
  exact ⟨keys, read⟩

/-- A document without services has no recipient keys. -/
theorem Document.Addressable.of_none {d : Document} (none : d.didcommServices = []) : d.Addressable :=
  ⟨[], by rw [recipientKeys, none]; rfl⟩

/-- The document that the record holds has recipient keys that can be read. -/
def DidRecord.Addressable (r : DidRecord) : Prop := ∀ d, r.document = some d → d.Addressable

theorem DidRecord.Addressable.of_new {did : String} {role : DidRole} {d : Document}
    {names : List String} {now : Timestamp} {record : DidRecord}
    (h : new did role d names now = .ok record) : record.Addressable := by
  intro e document
  rw [(new_keeps h).2.1] at document
  cases document
  obtain ⟨texts, read, -⟩ := Outcome.bind_eq_ok.mp h
  exact .of_fingerprints read

variable [suite : Suite]

/-- A document that the DID itself tells has recipient keys that can be read. -/
def PeerDid.Addressable (did : String) : Prop :=
  ∀ p d, ofDid did = .ok p → p.document = some d → d.Addressable

/-- A DID resolves to a document with recipient keys that can be read, if that is so of what it tells
itself, and of all that is stored. -/
theorem Did.addressable_of_resolve {dids : Store DidRecord} {did : String} {d : Document}
    (stored : ∀ r ∈ dids.records, r.Addressable) (told : PeerDid.Addressable did)
    (h : resolve dids did = .ok d) : d.Addressable := by
  unfold resolve at h
  split at h
  · obtain ⟨key, -, document⟩ := Outcome.bind_eq_ok.mp h
    exact .of_none (Key.document_ok document).2
  split at h
  · cases h
  obtain ⟨p, read, h⟩ := Outcome.bind_eq_ok.mp h
  dsimp only at h
  split at h
  · next found =>
    cases h
    split at found
    · exact told p d read found
    · obtain ⟨r, mem, -, document⟩ := stored?_eq_some found
      exact stored r mem d document
  · cases h

namespace Agent

/-! ## Stored DIDs -/

/-- If all stored documents have recipient keys that can be read, they still do afterwards. -/
def StaysAddressable (a a' : Agent) : Prop :=
  (∀ r ∈ a.dids.records, r.Addressable) → ∀ r ∈ a'.dids.records, r.Addressable

instance : IsPreorder Agent StaysAddressable where
  refl _ := id
  trans _ _ _ hab hbc := hbc ∘ hab

theorem StaysAddressable.of_same {a a' : Agent} (same : a'.dids = a.dids) : StaysAddressable a a' :=
  fun all => same ▸ all

theorem saveNewDid_addressable {r : DidRecord} (new : r.Addressable) :
    Keeps StaysAddressable (saveNewDid r) := by
  refine saveNewDid_keeps fun a dids saved all => ?_
  change ∀ r ∈ dids.records, r.Addressable
  rw [(Store.save_eq_ok.mp saved).2]
  exact List.forall_mem_append.mpr ⟨all, List.forall_mem_singleton.mpr new⟩

theorem saveReceivedDid_addressable (did : String) (d : Document) :
    Keeps StaysAddressable (saveReceivedDid did d) :=
  .bind_lift fun _ _ => .bind (.view _) fun _ => .bind_lift fun _ made =>
    saveNewDid_addressable (.of_new made)

theorem acceptTheirDid_addressable (did : String) (attachment : Option Attachment) (allowed : List Key) :
    Keeps StaysAddressable (acceptTheirDid did attachment allowed) := by
  unfold acceptTheirDid
  refine .bind (.lift _) fun p => ?_
  split
  · exact .fail _
  · exact saveReceivedDid_addressable _ _

variable [chance : Chance]

theorem createPeerDid_addressable (r : Routing) (form : PeerForm) :
    Keeps StaysAddressable (createPeerDid r form) := by
  have quiet : Keeps StaysAddressable (routingDocument r) := by
    have draws : Keeps StaysAddressable drawId := fun _ => .of_same rfl
    exact .bind (.lift _) fun _ => .bind draws fun _ => .bind draws fun _ => .lift _
  refine .bind quiet fun told => .bind (.lift _) fun p => ?_
  split
  · exact .fail _
  · exact .bind (.view _) fun _ => .bind_lift fun _ made =>
      .bind (saveNewDid_addressable (.of_new made)) fun _ => .pure _

theorem addressable_parts : Parts StaysAddressable where
  ids _ := .of_same rfl
  noise _ _ := .of_same rfl
  keys _ := .of_same rfl
  makes := createPeerDid_addressable
  accepts := acceptTheirDid_addressable
  follows _ _ _ _ := saveReceivedDid_addressable _ _
  saves _ := saveConnection_keeps fun _ _ _ => .of_same rfl
  updates _ := updateConnection_keeps fun _ _ _ _ => .of_same rfl

/-! ## DIDs of counterparties -/

variable {a a' : Agent} {c c' z : Connection} {did : String} {xs : List Operation}

/-- What a DID tells that was taken in is the document that the agent looked at. -/
theorem Exchanges.addressable {attachment : Option Attachment} {allowed : List Key}
    (h : a.Exchanges did attachment allowed c' a') : PeerDid.Addressable did := by
  obtain ⟨-, d, learns⟩ := h.learns
  obtain ⟨p, told, hd⟩ := learns.told
  obtain ⟨q, read, same⟩ := theirPeerDid_read told
  intro q' d' read' document
  cases read.symm.trans read'
  have derivable : PeerDid.isDerivable did = true := by
    rw [← PeerDid.document_isSome_of_ofDid read, document]
    rfl
  rw [same derivable, hd] at document
  cases document
  obtain ⟨texts, readable⟩ := learns.readable
  exact .of_fingerprints readable

/-- A response that is taken in is one of an exchange. -/
theorem exchanges_of_response {m : Response} (taken : (processResponse c m).run a = (.ok c', a')) :
    ∃ keys, a.Exchanges m.did m.attachment keys c' a' := by
  have parts := taken
  simp only [processResponse, bind_run_ok, lift_run_ok] at parts
  obtain ⟨_, _, ⟨-, rfl⟩, ⟨⟩, _, ⟨-, rfl⟩, i, _, ⟨invited, rfl⟩, keys, _, ⟨recipients, rfl⟩, -⟩ := parts
  exact ⟨keys, .response taken (Connection.requireInvitation_eq_ok.mp invited) recipients⟩

omit chance in
/-- What a DID tells that a counterparty announced is the document that the agent looked at. -/
theorem addressable_of_announced {d : Document} (announced : Announced did d)
    (readable : ∃ texts, d.recipientFingerprints = .ok texts) : PeerDid.Addressable did := by
  intro p d' read document
  cases announced.read.symm.trans read
  cases document
  obtain ⟨texts, readable⟩ := readable
  exact .of_fingerprints readable

/-- The counterparty's DIDs on a connection that an action leaves stored were those of the connection that
it was done on, or tell documents that the agent has looked at. -/
theorem theirDids_of_step {y : Action} (run : (y.step c).run a = (.ok (), a'))
    (mem : z ∈ a'.connections.records) :
    z ∈ a.connections.records ∨ ∀ did ∈ z.theirDids, did ∈ c.theirDids ∨ PeerDid.Addressable did := by
  let Heard (z : Connection) : Prop := ∀ did ∈ z.theirDids, did ∈ c.theirDids ∨ PeerDid.Addressable did
  have revised {next stored : Connection} (stores : Stores a next stored a') (heard : Heard next) :
      z ∈ a.connections.records ∨ Heard z := by
    rcases stores.mem mem with rfl | ⟨-, before⟩
    · exact .inr heard
    · exact .inl before
  -- most actions put no DID in the counterparty's place
  have same {next stored : Connection} (stores : Stores a next stored a')
      (theirs : next.theirDids ⊆ c.theirDids) : z ∈ a.connections.records ∨ Heard z :=
    revised stores fun _ mem => .inl (theirs mem)
  have told {next : Connection} {new : String} (heard : PeerDid.Addressable new)
      (theirs : ∀ did ∈ next.theirDids, did = new ∨ did ∈ c.theirDids) : Heard next :=
    fun did mem => (theirs did mem).elim (fun own => .inr (own.symm ▸ heard)) .inl
  have first {new : String} {did : String} (mem : did ∈ new :: c.previousTheirDids) :
      did = new ∨ did ∈ c.theirDids :=
    (List.mem_cons.mp mem).imp_right (List.mem_append_right _)
  cases y with
  | createRequest r options =>
    obtain ⟨⟨m, stored⟩, h⟩ := done_ok.mp run
    obtain ⟨_, _, _, _, -, -, -, -, stores⟩ := createRequest_ok h
    exact same stores (List.Subset.refl _)
  | processRequest m r =>
    obtain ⟨c', h⟩ := done_ok.mp run
    have heard := (Exchanges.request h).addressable
    obtain ⟨-, -, -, ⟨-, stores⟩ | ⟨many, -, a₁, answer, answers, rfl, saved⟩⟩ := processRequest_ok h
    · exact revised stores (told heard fun _ => first)
    · rw [(Store.save_eq_ok.mp saved).2, List.mem_append, List.mem_singleton] at mem
      rcases mem with before | rfl
      · exact .inl before
      obtain ⟨single, -⟩ | ⟨-, own, id, -, -, rfl⟩ := answering_ok answers
      · cases many.symm.trans single
      · exact .inr (told heard fun did mem => .inl (List.mem_singleton.mp mem))
  | createResponse r =>
    obtain ⟨⟨m, stored⟩, h⟩ := done_ok.mp run
    obtain ⟨_, _, _, _, _, _, _, -, -, -, -, -, -, -, stores⟩ := createResponse_ok h
    exact same stores (List.Subset.refl _)
  | processResponse m =>
    obtain ⟨c', h⟩ := done_ok.mp run
    obtain ⟨keys, exchanged⟩ := exchanges_of_response h
    obtain ⟨-, -, -, -, stores⟩ := processResponse_ok h
    exact revised stores (told exchanged.addressable fun _ => first)
  | createComplete =>
    obtain ⟨⟨m, stored⟩, h⟩ := done_ok.mp run
    obtain ⟨_, _, _, -, -, -, -, -, stores⟩ := createComplete_ok h
    exact same stores (List.Subset.refl _)
  | processComplete m =>
    obtain ⟨c', h⟩ := done_ok.mp run
    obtain ⟨-, -, -, -, stores⟩ := processComplete_ok h
    exact same stores (List.Subset.refl _)
  | processExchangeProblem m =>
    obtain ⟨c', h⟩ := done_ok.mp run
    exact same (processExchangeProblem_ok h).2 (List.Subset.refl _)
  | createRotate t =>
    obtain ⟨⟨m, stored⟩, h⟩ := done_ok.mp run
    obtain ⟨r, -, -, -, stores⟩ := createRotate_chooses h
    exact same stores (List.Subset.refl _)
  | processRotate m =>
    obtain ⟨o, h⟩ := done_ok.mp run
    cases processRotate_heeds h with
    | refuses quiet => exact .inl (quiet.connections ▸ mem)
    | acknowledges completed announced readable stores =>
      exact revised stores (told (addressable_of_announced announced readable) fun _ =>
        Connection.mem_theirDids_withTheirDid.mp)
  | processRotateAck m =>
    obtain ⟨c', h⟩ := done_ok.mp run
    obtain ⟨-, r, -, -, stores⟩ := processRotateAck_ok h
    exact same stores (List.Subset.refl _)
  | processRotateProblem m =>
    obtain ⟨c', h⟩ := done_ok.mp run
    exact same (processRotateProblem_ok h).2 (List.Subset.refl _)
  | createHangup =>
    obtain ⟨⟨m, stored⟩, h⟩ := done_ok.mp run
    exact same (createHangup_ok h).2 (List.Subset.refl _)
  | processHangup m =>
    obtain ⟨c', h⟩ := done_ok.mp run
    -- the DID that the counterparty had is remembered
    refine same (processHangup_ok h).2 fun did mem => List.mem_append.mpr ?_
    exact (Connection.mem_remember.mp mem).imp_left Option.mem_toList.mpr

/-- Nothing is known of the counterparty of a connection that has just begun. -/
theorem createInvitation_theirDids {r : Routing} {multiUse : Bool} {label : Option String}
    {i : Invitation} (made : (createInvitation r multiUse label).run a = (.ok (i, c), a')) :
    c.theirDids = [] := by
  simp only [createInvitation, newConnection, bind_run_ok, view_run_ok, pure_run_ok] at made
  obtain ⟨_, _, -, _, _, -, new, _, ⟨_, _, -, _, _, -, rfl, -⟩, stored, _, hsave, ⟨⟩, rfl⟩ := made
  rw [(saveConnection_run_ok.mp hsave).1]
  rfl

theorem receiveInvitation_theirDids {i : Invitation} {autoAccept : Option Bool}
    (taken : (receiveInvitation i autoAccept).run a = (.ok c, a')) : c.theirDids = [] := by
  simp only [receiveInvitation, newConnection, bind_run_ok, view_run_ok, pure_run_ok] at taken
  obtain ⟨new, _, ⟨_, _, -, _, _, -, rfl, -⟩, hsave⟩ := taken
  rw [(saveConnection_run_ok.mp hsave).1]
  rfl

/-- All DIDs of counterparties tell documents that the agent has looked at, if they tell any. -/
theorem theirDids_addressable (empty : a.connections.records = []) (copies : ∀ id, a.CopiesRead id xs)
    {n : Nat} (hn : n ≤ xs.length) :
    ∀ z ∈ (a.after (xs.take n)).connections.records, ∀ did ∈ z.theirDids, PeerDid.Addressable did := by
  refine along (P := fun b => ∀ z ∈ b.connections.records, ∀ did ∈ z.theirDids,
    PeerDid.Addressable did) ?_ ?_ ?_ ?_ ?_ hn
  · rw [empty]
    exact List.forall_mem_nil _
  · exact fun b b' same all => same.connections ▸ all
  · intro n r multiUse label i c b _ all made z mem
    rcases (createInvitation_starts made).1.mem mem with rfl | ⟨-, old⟩
    · rw [createInvitation_theirDids made]
      exact List.forall_mem_nil _
    · exact all z old
  · intro n i autoAccept c b _ all taken z mem
    rcases (receiveInvitation_starts taken).1.mem mem with rfl | ⟨-, old⟩
    · rw [receiveInvitation_theirDids taken]
      exact List.forall_mem_nil _
    · exact all z old
  · intro n x b c y at_ before asks all z mem
    -- the copy was stored then, or at an earlier point
    have copy : ∀ did ∈ c.theirDids, PeerDid.Addressable did := by
      rcases asks.stored with ⟨rfl, rfl⟩ | stored
      · obtain ⟨m, le, mem⟩ := CopiesRead.stored copies at_
        exact before m le c mem
      · exact all c (Store.find?_eq_some.mp stored).1
    rcases run : (y.step c).run b with ⟨error | ⟨⟩, b'⟩
    · rw [run] at mem
      cases y.does run with
      | fails quiet => exact all z (quiet.connections ▸ mem)
    · rw [run] at mem
      rcases theirDids_of_step run mem with old | heard
      · exact all z old
      · exact fun did mem => (heard did mem).elim (copy did) id

/-- In a run from empty stores, the recipient keys of whatever a counterparty's DID resolves to can be
read. -/
theorem resolves_addressable (connections : a.connections.records = []) (dids : a.dids.records = [])
    (copies : ∀ id, a.CopiesRead id xs) (stored : (a.after xs).connections.find? c.id = some c) :
    ∀ did ∈ c.theirDids, ∀ d, (a.after xs).resolve did = .ok d → d.Addressable := by
  have all : ∀ r ∈ (a.after xs).dids.records, r.Addressable :=
    after_keeps addressable_parts a xs (dids ▸ List.forall_mem_nil _)
  have heard := theirDids_addressable connections copies (Nat.le_refl xs.length)
  rw [List.take_length] at heard
  exact fun did mem d resolved => Did.addressable_of_resolve all
    (heard c (Store.find?_eq_some.mp stored).1 did mem) resolved

end Agent

end Pairwise
