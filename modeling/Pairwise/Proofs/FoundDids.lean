import Pairwise.Proofs.Answerability
import Pairwise.Proofs.MadeDids
import Pairwise.Proofs.PeerDidDocuments
import Pairwise.Proofs.Reports
/-!
# Whether a new DID is found by its key

An agent makes a DID for a routing and stores it as its own, under the key of the routing. Nothing is
stored if something is stored under the DID already: then that decides whether the key leads to the DID.
A DID that is a key is the same whenever it is made for the key, and anybody who knows the key can tell
it in an exchange.

Results:
* `PeerDid.MadeFor`, `DidRecord.Coined`: what a DID was made for, and what is stored of it.
* `PeerDid.MadeFor.fingerprints_eq`: DIDs that are the same were made for the same key.
* `Agent.createPeerDid_found_iff`: when a new DID is found by its key.
* `Agent.created_not_always_found`: a counterparty can tell the DID before it is made.
-/
namespace Pairwise

open Step

/-- A record that was added last has an id that no other has. -/
theorem Store.find?_eq_none_of_snoc {R : Type} [Storable R] {s s' : Store R} {r : R}
    (h : s'.records = s.records ++ [r]) : s.find? (Storable.id r) = none := by
  have distinct := s'.distinct
  rw [h, List.map_append, List.map_singleton, ← List.concat_eq_append, List.nodup_concat] at distinct
  refine find?_eq_none.mpr fun old mem same => distinct.1 ?_
  exact List.mem_map.mpr ⟨old, mem, same⟩

section Making

variable [suite : Suite]

/-! ## The key of a document -/

namespace Document.IsFor

variable {told d : Document} {r : Routing} {p : PeerDid} {texts : List String}

/-- A document with the services of a routing is found by the key of the routing, and by no key if the
routing has no endpoint. -/
theorem fingerprints_cases (h : told.IsFor r) (same : d.service = told.service)
    (read : d.recipientFingerprints = .ok texts) :
    r.endpoints = [] ∧ texts = [] ∨ r.endpoints ≠ [] ∧ texts = [r.toldKey.fingerprint] := by
  by_cases endpoints : r.endpoints = []
  · have none : d.service = [] := by
      obtain ⟨keys, -, made⟩ := Outcome.bind_eq_ok.mp h.service
      rw [endpoints] at made
      rw [same]
      exact (Except.ok.inj made).symm
    rw [Document.recipientFingerprints, Document.recipientKeys, Document.didcommServices_nil none]
      at read
    exact .inl ⟨endpoints, (Except.ok.inj read).symm⟩
  · obtain ⟨keys, hkeys, read⟩ := Outcome.bind_eq_ok.mp read
    obtain rfl := Routing.recipientKeys_eq_told h.service endpoints same hkeys
    exact .inr ⟨endpoints, (Except.ok.inj read).symm⟩

/-- A DID of form 0 is that of the key of the routing. -/
theorem ofKey_of_ofDocument (h : told.IsFor r) (made : PeerDid.ofDocument told .inceptionKey = .ok p) :
    r.recipientKey.Sized ∧ PeerDid.ofKey r.recipientKey = .ok p := by
  obtain ⟨keys, read, made⟩ := Outcome.bind_eq_ok.mp made
  rw [h.authenticationKeys_eq] at read
  obtain ⟨k, hk, read⟩ := Outcome.bind_eq_ok.mp read
  cases read
  obtain rfl : k = r.recipientKey := Key.eq_of_ofBase58 hk
  exact ⟨Key.sized_of_ofBase58 hk, made⟩

end Document.IsFor

/-! ## DIDs that are the same -/

/-- The peer DID was made, in a form, of a document that tells a routing. -/
structure PeerDid.MadeFor (p : PeerDid) (r : Routing) (form : PeerForm) (told : Document) : Prop where
  isFor : told.IsFor r
  ordered : told.Ordered
  made : PeerDid.ofDocument told form = .ok p

/-- The record of a DID that was made of a document has the services of the document, and is found by the
recipient keys of these. If the DID is no key, it has the document of the DID. -/
structure DidRecord.Keeps (record : DidRecord) (p : PeerDid) (form : PeerForm) (told : Document) :
    Prop where
  did : record.did = p.did
  document : ∃ d, record.document = some d ∧ d.service = told.service ∧
    d.recipientFingerprints = .ok record.fingerprints
  same : form ≠ .inceptionKey → record.document = p.document

/-- The record is that of a DID that was made for a routing. -/
def DidRecord.Coined (record : DidRecord) : Prop :=
  ∃ p r form told, PeerDid.MadeFor p r form told ∧ record.Keeps p form told

namespace PeerDid.MadeFor

variable {p p' : PeerDid} {r r' : Routing} {form form' : PeerForm} {told told' : Document}

/-- DIDs that are the same have the same form. -/
theorem form_eq (h : p.MadeFor r form told) (h' : p'.MadeFor r' form' told') (same : p'.did = p.did) :
    form' = form := by
  have read := h'.isFor.form_of_ofDocument h'.made
  rw [same, h.isFor.form_of_ofDocument h.made] at read
  exact (Except.ok.inj read).symm

/-- DIDs that are the same and no keys have the same services, unless it is only the hashes of their
documents that are the same. -/
theorem service_eq (notKey : form ≠ .inceptionKey) (h : p.MadeFor r form told)
    (h' : p'.MadeFor r' form told') (same : p'.did = p.did)
    (apart : form = .genesisHash → ¬ Sha256.Collide (hashedText told' .genesisHash)
      (hashedText told .genesisHash)) : told'.service = told.service := by
  have equal : told.EqualButNames told' := by
    obtain ⟨rfl, rfl⟩ | ⟨rfl, rfl⟩ := ofDocument_cases notKey h.made
    · obtain rfl := Except.ok.inj h'.made
      have hash : hashedText told' .genesisHash = hashedText told .genesisHash :=
        eq_of_hashText_eq (apart rfl) ((String.append_right_inj _).mp same)
      exact equalButNames_of_hashedText_eq h.ordered h'.ordered hash
    · obtain rfl := Except.ok.inj h'.made
      have parts := congrArg longParts? same
      rw [longParts?_ofHashAndDocument, longParts?_ofHashAndDocument] at parts
      obtain ⟨-, encoded⟩ := Prod.mk.inj (Option.some.inj parts)
      exact Document.equalButNames_iff.mpr
        (eq_of_encodeDocument_eq h'.ordered h.ordered encoded)
  rw [equal]

/-- What is stored of a DID is found by the key of every routing that the DID was made for, or by no
key. -/
theorem fingerprints_eq (h : p.MadeFor r form told) (h' : p'.MadeFor r' form' told')
    {record : DidRecord} (keeps : record.Keeps p' form' told') (same : p'.did = p.did)
    (apart : form = .genesisHash → ∀ d d', record.document = some d → p.document = some d' →
      ¬ Sha256.Collide (hashedText d .genesisHash) (hashedText d' .genesisHash)) :
    record.fingerprints = [] ∨ record.fingerprints = [r.toldKey.fingerprint] := by
  obtain rfl := h.form_eq h' same
  obtain ⟨d, document, service, read⟩ := keeps.document
  by_cases key : form' = .inceptionKey
  · subst key
    obtain ⟨sized, made⟩ := h.isFor.ofKey_of_ofDocument h.made
    obtain ⟨sized', made'⟩ := h'.isFor.ofKey_of_ofDocument h'.made
    have texts := congrArg String.toList same
    rw [toList_ofKey made, toList_ofKey made', List.append_cancel_left_eq, List.cons.injEq,
      String.toList_inj] at texts
    have keys := Key.fingerprint_inj sized' sized texts.2
    rw [Routing.toldKey, ← keys]
    exact (h'.isFor.fingerprints_cases service read).imp And.right And.right
  · obtain ⟨e, he, stripped_e⟩ := stripped_of_ofDocument key h.made
    obtain ⟨e', he', stripped_e'⟩ := stripped_of_ofDocument key h'.made
    have hashed {d d' : Document} (same : stripped d = stripped d') :
        hashedText d .genesisHash = hashedText d' .genesisHash :=
      congrArg (·.toJson.canonicalBytes) same
    have equal := service_eq key h h' same fun genesis => by
      rw [← hashed stripped_e, ← hashed stripped_e']
      exact apart genesis e' e ((keeps.same key).trans he') he
    exact (h.isFor.fingerprints_cases (service.trans equal) read).imp And.right And.right

end PeerDid.MadeFor

namespace Agent

variable [chance : Chance]

/-! ## What is stored -/

variable {a a' : Agent} {p : PeerDid} {r : Routing} {form : PeerForm} {told derived : Document}
  {record : DidRecord}

omit chance in
/-- The record that is made for a new DID keeps what the DID was made of. -/
theorem keeps_of_new {now : Timestamp} (made : PeerDid.ofDocument told form = .ok p)
    (hd : p.document = some derived)
    (h : DidRecord.new p.did .created (ownDocument form told derived) p.alternatives now = .ok record) :
    record.Keeps p form told := by
  obtain ⟨did, document, -⟩ := DidRecord.new_keeps h
  refine ⟨did, ⟨_, document, service_ownDocument made hd, (DidRecord.new_ok h).2.2⟩, fun notKey => ?_⟩
  rw [document, hd, ownDocument, if_neg notKey]

/-- What is stored of a new DID was made for its routing. Something is stored if nothing was stored under
the DID before. -/
theorem createPeerDid_ok (h : (createPeerDid r form).run a = (.ok p, a')) :
    ∃ told, p.MadeFor r form told ∧
      (a.dids.find? p.did = none ∧ (∃ record, a'.dids.records = a.dids.records ++ [record] ∧
          record.role = .created ∧ record.Keeps p form told) ∨
        (∃ old, a.dids.find? p.did = some old) ∧ a'.dids = a.dids) := by
  simp only [createPeerDid, bind_run_ok, lift_run_ok] at h
  obtain ⟨told, a₁, hdocument, q, _, ⟨hpeer, rfl⟩, h⟩ := h
  have same : a₁.dids = a.dids := by
    have same := routingDocument_dids r a
    rwa [hdocument] at same
  split at h
  · cases h
  next derived hderived =>
  simp only [bind_run_ok, lift_run_ok, view_run_ok, pure_run_ok] at h
  obtain ⟨now, _, ⟨rfl, rfl⟩, record, _, ⟨hrecord, rfl⟩, ⟨⟩, _, saved, rfl, rfl⟩ := h
  refine ⟨told, ⟨routingDocument_isFor hdocument, routingDocument_ordered hdocument, hpeer⟩, ?_⟩
  obtain ⟨did, role, -⟩ := DidRecord.new_ok hrecord
  rw [← same, ← did]
  rcases saveNewDid_cases saved with ⟨kept, known⟩ | ⟨-, records⟩
  · exact .inr ⟨Option.ne_none_iff_exists'.mp (known rfl), kept⟩
  · exact .inl ⟨Store.find?_eq_none_of_snoc records, record, records, role,
      keeps_of_new hpeer hderived hrecord⟩

/-- If all DIDs of the agent's own were made for routings, they still are afterwards. -/
def StaysCoined (a a' : Agent) : Prop :=
  (∀ record ∈ a.dids.records, record.role = .created → record.Coined) →
    ∀ record ∈ a'.dids.records, record.role = .created → record.Coined

instance : IsPreorder Agent StaysCoined where
  refl _ := id
  trans _ _ _ hab hbc := hbc ∘ hab

omit chance in
theorem Gathers.staysCoined (h : Gathers a a') : StaysCoined a a' := by
  obtain ⟨more, records, received⟩ := h
  intro all
  rw [records]
  refine List.forall_mem_append.mpr ⟨all, fun record mem created => ?_⟩
  cases created.symm.trans (received record mem)

theorem createPeerDid_staysCoined (r : Routing) (form : PeerForm) :
    Keeps StaysCoined (createPeerDid r form) := by
  intro a all
  rcases made : (createPeerDid r form).run a with ⟨error | p, a'⟩
  · rw [createPeerDid_fails made]
    exact all
  obtain ⟨told, madeFor, ⟨-, record, records, -, keeps⟩ | ⟨-, same⟩⟩ := createPeerDid_ok made
  · rw [records]
    exact List.forall_mem_append.mpr ⟨all, List.forall_mem_singleton.mpr fun _ =>
      ⟨p, r, form, told, madeFor, keeps⟩⟩
  · rw [same]
    exact all

theorem drawNoise_sameDids (length : Nat) : Keeps SameDids (drawNoise length) := fun _ => rfl

theorem freshKey_sameDids : Keeps SameDids freshKey := fun _ => rfl

/-- Whatever an operation is put together from, the DIDs of the agent's own were made for routings. -/
theorem coined_parts : Parts StaysCoined where
  ids a := (drawId_sameDids a).gathers.staysCoined
  noise length a := (drawNoise_sameDids length a).gathers.staysCoined
  keys a := (freshKey_sameDids a).gathers.staysCoined
  makes := createPeerDid_staysCoined
  accepts did attachment allowed a := (acceptTheirDid_gathers did attachment allowed a).staysCoined
  follows _ _ d _ a := (saveReceivedDid_gathers d.id d a).staysCoined
  saves c a := (saveConnection_sameDids c a).gathers.staysCoined
  updates c a := (updateConnection_sameDids c a).gathers.staysCoined

/-- In a run from empty stores, all DIDs of the agent's own were made for routings. -/
theorem after_coined (empty : a.dids.records = []) (xs : List Operation) :
    ∀ record ∈ (a.after xs).dids.records, record.role = .created → record.Coined :=
  after_keeps coined_parts a xs (empty ▸ List.forall_mem_nil _)

/-- The DID is stored as one of the agent's own, and is found by the key. -/
def FoundBy (a : Agent) (did : String) (key : Key) : Prop :=
  ∃ record, a.dids.find? did = some record ∧ record.role = .created ∧
    key.fingerprint ∈ record.fingerprints ∧ record ∈ a.didsOfKey key

omit chance in
theorem foundBy_iff {did : String} {key : Key} (found : a.dids.find? did = some record) :
    a.FoundBy did key ↔ record.role = .created ∧ key.fingerprint ∈ record.fingerprints := by
  constructor
  · rintro ⟨record', found', role, named, -⟩
    cases found.symm.trans found'
    exact ⟨role, named⟩
  · rintro ⟨role, named⟩
    exact ⟨record, found, role, named, Store.mem_query.mpr
      ⟨(Store.find?_eq_some.mp found).1, DidRecord.accepts_key.mpr ⟨role, named⟩⟩⟩

/-- Every agent makes the DID that is the key of a sound routing. -/
theorem createPeerDid_key (sound : r.Sound) (made : PeerDid.ofKey r.recipientKey = .ok p)
    (a : Agent) : ∃ a', (createPeerDid r .inceptionKey).run a = (.ok p, a') := by
  obtain ⟨derived, hd⟩ : ∃ d, p.document = some d := by
    obtain ⟨d, -, e⟩ := Outcome.bind_eq_ok.mp made
    exact ⟨d, (Except.ok.inj e) ▸ rfl⟩
  obtain ⟨agreement, converted, -⟩ := sound.recipient.toX25519
  obtain ⟨told, document, tells⟩ := Routing.document_tells sound agreement
    ("#" ++ chance.uuid a.draws.ids) ("#" ++ chance.uuid (a.draws.ids + 1))
  obtain ⟨a₁, drawn⟩ : ∃ a₁, (routingDocument r).run a = (.ok told, a₁) := by
    rw [routingDocument, bind_lift converted, ← document]
    exact ⟨_, rfl⟩
  have isFor := routingDocument_isFor drawn
  have peer : PeerDid.ofDocument told .inceptionKey = .ok p := by
    rw [PeerDid.ofDocument, (tells told.id told.alsoKnownAs).authentication]
    exact made
  obtain ⟨record, hrecord⟩ : ∃ record, DidRecord.new p.did .created
      (ownDocument .inceptionKey told derived) p.alternatives a₁.now = .ok record := by
    rw [DidRecord.new, Document.recipientFingerprints,
      Routing.recipientKeys_of_services sound isFor.service (service_ownDocument peer hd)]
    exact ⟨_, rfl⟩
  obtain ⟨a', saved⟩ := saveNewDid_ok record a₁
  refine ⟨a', ?_⟩
  rw [createPeerDid, bind_ok drawn, bind_lift peer, hd]
  dsimp only
  rw [bind_view, bind_lift hrecord, bind_ok saved]
  rfl

/-- In a run from empty stores, a DID that is made for a routing with an endpoint and a signing key is
found by the key exactly if what was stored under the DID before is one of the agent's own and is found by
some key. In form 1, where a DID is only a hash, the documents of the two must not have one hash and be
different. -/
theorem createPeerDid_found_iff (empty : a.dids.records = []) (xs : List Operation)
    (endpoints : r.endpoints ≠ []) (signs : r.recipientKey.kind = .ed25519)
    (made : (createPeerDid r form).run (a.after xs) = (.ok p, a'))
    (apart : form = .genesisHash → ∀ record d d', (a.after xs).dids.find? p.did = some record →
      record.document = some d → p.document = some d' →
      ¬ Sha256.Collide (PeerDid.hashedText d .genesisHash) (PeerDid.hashedText d' .genesisHash)) :
    a'.FoundBy p.did r.recipientKey ↔ ∀ record, (a.after xs).dids.find? p.did = some record →
      record.role = .created ∧ record.fingerprints ≠ [] := by
  obtain ⟨told, madeFor, ⟨new, record, records, role, keeps⟩ | ⟨⟨old, found⟩, same⟩⟩ :=
    createPeerDid_ok made
  · -- nothing was stored under the DID
    have mem : record ∈ a'.dids.records := records ▸ List.mem_append_right _ List.mem_cons_self
    rw [foundBy_iff (Store.find?_eq_some.mpr ⟨mem, keeps.did⟩), new]
    obtain ⟨d, -, service, read⟩ := keeps.document
    rcases madeFor.isFor.fingerprints_cases service read with ⟨none, -⟩ | ⟨-, texts⟩
    · exact absurd none endpoints
    · rw [texts, Routing.toldKey_of_signs signs]
      exact ⟨fun _ => nofun, fun _ => ⟨role, List.mem_cons_self⟩⟩
  · rw [foundBy_iff (same ▸ found)]
    constructor
    · rintro ⟨role, named⟩ record found'
      cases found.symm.trans found'
      exact ⟨role, List.ne_nil_of_mem named⟩
    · intro own
      obtain ⟨role, some⟩ := own old found
      obtain ⟨mem, did⟩ := Store.find?_eq_some.mp found
      obtain ⟨q, r', form', told', madeFor', keeps⟩ := after_coined empty xs old mem role
      have texts := madeFor.fingerprints_eq madeFor' keeps (keeps.did.symm.trans did)
        fun genesis d d' => apart genesis old d d' found
      rw [texts.resolve_left some, Routing.toldKey_of_signs signs]
      exact ⟨role, List.mem_cons_self⟩

end Agent

end Making

/-! ## A DID that is told before it is made -/

section Plain

attribute [local instance] Suite.plain Chance.counting

namespace Agent

/-- The key of an invitation is told as a DID in a request for it. The agent takes the request in, and
makes the DID of the key afterwards. -/
theorem plain_told_first : ∃ (xs : List Operation) (p : PeerDid) (a' : Agent) (record : DidRecord),
    (createPeerDid (.plain [1] []) .inceptionKey).run ((plain .inceptionKey [1]).after xs)
        = (.ok p, a') ∧
      ((plain .inceptionKey [1]).after xs).dids.find? p.did = some record ∧
      record.role = .received ∧ a'.dids.find? p.did = some record := by
  let a := plain .inceptionKey [1]
  let r := Routing.plain [1] []
  have usable : r.recipientKey.Usable := Key.usable_keyOf Suite.plain_lawful [1]
  have sound : r.Sound := ⟨List.cons_ne_nil _ _, usable, List.forall_mem_nil _⟩
  obtain ⟨derived, made⟩ := PeerDid.ofKey_made usable.sized fun _ => rfl
  obtain ⟨a₁, c, m, a₂, -, still, -, did, taken, -, after⟩ :=
    invites_requested (a := a) rfl r rfl fun _ new => acceptTheirDid_key usable.sized made new []
  -- what the request told is stored, as the counterparty's
  obtain ⟨-, -, -, -, ⟨record, found, -⟩, -⟩ := (Exchanges.request taken).learns
  rw [did] at found
  obtain ⟨more, records, received⟩ := processRequest_gathers c m _ a₁
  have none : a₁.dids.records = [] := still
  rw [taken, none, List.nil_append] at records
  have role : record.role = .received := received record (records ▸ (Store.find?_eq_some.mp found).1)
  obtain ⟨a', makes⟩ := createPeerDid_key sound made a₂
  obtain ⟨-, -, ⟨new, -⟩ | ⟨-, same⟩⟩ := createPeerDid_ok makes
  · cases new.symm.trans found
  · exact ⟨_, _, a', record, after.symm ▸ makes, after.symm ▸ found, role, same ▸ found⟩

/-- The agent does not find that DID by its key. -/
theorem createPeerDid_found_iff_plain : ∃ (a : Agent) (xs : List Operation) (p : PeerDid) (a' : Agent),
    a.dids.records = [] ∧ (Routing.plain [1] []).endpoints ≠ [] ∧
      (Routing.plain [1] []).recipientKey.kind = .ed25519 ∧
      (createPeerDid (.plain [1] []) .inceptionKey).run (a.after xs) = (.ok p, a') ∧
      ¬ a'.FoundBy p.did (Routing.plain [1] []).recipientKey := by
  obtain ⟨xs, p, a', record, makes, found, received, -⟩ := plain_told_first
  refine ⟨_, xs, p, a', rfl, List.cons_ne_nil _ _, rfl, makes, fun finds => ?_⟩
  have own := (createPeerDid_found_iff rfl xs (List.cons_ne_nil _ _) rfl makes nofun).mp finds
  cases received.symm.trans (own record found).1

/-- It is not so that every new DID is found by its key. -/
theorem created_not_always_found :
    ¬ ∀ (a : Agent) (xs : List Operation) (r : Routing) (form : PeerForm) (p : PeerDid) (a' : Agent),
      a.connections.records = [] → a.dids.records = [] → r.endpoints ≠ [] → r.recipientKey.Usable →
      (createPeerDid r form).run (a.after xs) = (.ok p, a') → a'.FoundBy p.did r.recipientKey := by
  intro always
  obtain ⟨xs, p, a', record, makes, -, received, found⟩ := plain_told_first
  have finds := always _ xs _ _ p a' rfl rfl (List.cons_ne_nil _ _)
    (Key.usable_keyOf Suite.plain_lawful [1]) makes
  cases received.symm.trans ((foundBy_iff found).mp finds).1

end Agent

end Plain

end Pairwise
