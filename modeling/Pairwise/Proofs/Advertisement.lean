import Pairwise.Proofs.Completion
import Pairwise.Proofs.PeerDidDocuments
/-!
# DIDs that advertise a routing

Whoever gets the document of a DID that was made for a routing finds all of the routing in it: the
endpoints in their order, the key that messages are enciphered for and signatures stand under, the keys
of the mediators on the way, and the key for agreement.

Results:
* `Routing.document_advertises`: the document of a routing advertises it, under whatever names.
* `Document.Tells.routes`: which mediators such a document goes through.
* `Agent.createPeerDid_advertises`: so does the document that is obtained from a DID of an agent.
-/
namespace Pairwise

/-- The document tells the routing in full: it has a service for every endpoint, in their order, each
with the keys of the routing, and beside the key for messages and signatures the one for agreement that
belongs to it. -/
structure Document.Advertises [Suite] (d : Document) (r : Routing) : Prop where
  tells : d.Tells r
  endpoints : d.didcommServices.map (·.endpoint) = r.endpoints
  agreement : ∃ k, r.recipientKey.toX25519 = .ok k ∧ d.keyAgreementKeys = .ok [k]

/-- Services for messages that stand in the order of their priority are asked in this order. -/
theorem Document.didcommServices_of_sorted {d : Document} (all : ∀ s ∈ d.service, s.isDidcomm = true)
    (sorted : d.service.Pairwise fun s t => s.priority ≤ t.priority) : d.didcommServices = d.service := by
  rw [didcommServices, List.filter_eq_self.mpr all]
  exact List.mergeSort_of_pairwise (by simpa using sorted)

/-! ## Mediators on the way -/

namespace Mediator

/-- Where all services go through the same keys, one of them decides. -/
theorem routesVia_of_keys (m : Mediator) {d : Document} {keys : List Key} {services : List Service}
    (some : services ≠ []) (same : ∀ s ∈ services, d.serviceRoutingKeys s = .ok keys) :
    m.routesVia d services = .ok (m.routingKeys.all keys.contains) := by
  induction services with
  | nil => exact absurd rfl some
  | cons s rest ih =>
    obtain ⟨first, others⟩ := List.forall_mem_cons.mp same
    rw [routesVia, first, Outcome.ok_bind]
    by_cases through : m.routingKeys.all keys.contains = true
    · rw [if_pos through, through]
      rfl
    · rw [if_neg through]
      cases rest with
      | nil => rw [routesVia, Bool.eq_false_iff.mpr through]
      | cons t rest => exact ih (List.cons_ne_nil t rest) others

end Mediator

/-- A document that tells a routing goes through the mediators that have keys, and all of them among those
of the routing. -/
theorem Document.Tells.routes {d : Document} {r : Routing} (h : d.Tells r) (m : Mediator) :
    m.routes d = .ok (!m.routingKeys.isEmpty && m.routingKeys.all r.routingKeys.contains) := by
  rw [Mediator.routes]
  cases m.routingKeys.isEmpty with
  | true => rfl
  | false => exact m.routesVia_of_keys h.services h.routing

section Suites

variable [suite : Suite]

/-! ## The document of a routing -/

namespace Routing

/-- The services of a routing are those of its endpoints in their order, which is that of their priority
unless there are too many for it. -/
theorem services_sorted {r : Routing} (few : r.endpoints.length < UInt32.size) {services : List Service}
    (told : r.services = .ok services) : services.map (·.endpoint) = r.endpoints ∧
      services.Pairwise fun s t => s.priority ≤ t.priority := by
  obtain ⟨texts, -, told⟩ := Outcome.bind_eq_ok.mp told
  cases told
  constructor
  · rw [List.map_map]
    exact List.zipIdx_map_fst 0 r.endpoints
  · rw [List.pairwise_map, List.pairwise_iff_getElem]
    intro i j hi hj before
    rw [List.length_zipIdx] at hi hj
    have unwrapped {n : Nat} (h : n < r.endpoints.length) : n % (Service.priorityLimit + 1) = n :=
      Nat.mod_eq_of_lt (Nat.lt_trans h few)
    simp only [List.getElem_zipIdx, Nat.zero_add, unwrapped hi, unwrapped hj]
    exact Nat.le_of_lt before

/-- The document of a routing advertises the routing, and its names do not matter. -/
theorem document_advertises {r : Routing} (h : r.Sound) (few : r.endpoints.length < UInt32.size)
    {agreement : Key} (converted : r.recipientKey.toX25519 = .ok agreement)
    {authenticationId agreementId : String} {d : Document}
    (made : r.document agreement authenticationId agreementId = .ok d) (id : String)
    (alsoKnownAs : List String) : ({ d with id, alsoKnownAs } : Document).Advertises r := by
  obtain ⟨d', made', tells⟩ := document_tells h agreement authenticationId agreementId
  obtain rfl : d' = d := Except.ok.inj (made'.symm.trans made)
  obtain ⟨services, told, made⟩ := Outcome.bind_eq_ok.mp made
  cases made
  obtain ⟨endpoints, sorted⟩ := services_sorted few told
  refine ⟨tells id alsoKnownAs, ?_, agreement, converted, ?_⟩
  · rw [Document.didcommServices_of_sorted (fun s hs => ((services_shape told).2 s hs).1) sorted]
    exact endpoints
  · obtain ⟨k, hk, -, sized, -⟩ := h.recipient.toX25519
    obtain rfl : k = agreement := Except.ok.inj (hk.symm.trans converted)
    change [MethodRef.embedded (.ofKey agreementId selfName k)].mapM _ = _
    rw [List.mapM_cons, Document.entryKey, Document.toKey_ofKey agreementId selfName sized]
    rfl

end Routing

/-! ## DIDs of agents -/

/-- The document of a DID that was made for a routing is the one of the routing, but for its names. -/
theorem Routing.peerDid_document {r : Routing} {form : PeerForm} (notKey : form ≠ .inceptionKey)
    {authenticationId agreementId : String} {p : PeerDid}
    (h : r.peerDid form authenticationId agreementId = .ok p) :
    ∃ agreement told d, r.recipientKey.toX25519 = .ok agreement ∧
      r.document agreement ("#" ++ authenticationId) ("#" ++ agreementId) = .ok told ∧
      PeerDid.ofDocument told form = .ok p ∧ p.document = some d ∧ d.EqualButNames told := by
  obtain ⟨agreement, converted, h⟩ := Outcome.bind_eq_ok.mp h
  obtain ⟨told, made, h⟩ := Outcome.bind_eq_ok.mp h
  obtain ⟨d, hd, same⟩ := PeerDid.stripped_of_ofDocument notKey h
  exact ⟨agreement, told, d, converted, made, h, hd, Document.equalButNames_iff.mpr same.symm⟩

namespace Agent

variable [chance : Chance]

/-- Every agent makes a DID for a sound routing, in form 1 and in form 4. Its document is told by the
DID, or joins with the DID under whatever names it comes, and advertises the routing. A mediator with the
very keys of the routing is on the way, if there are any. -/
theorem createPeerDid_advertises (a : Agent) {r : Routing} (sound : r.Sound)
    (few : r.endpoints.length < UInt32.size) {form : PeerForm} (notKey : form ≠ .inceptionKey) :
    ∃ p a' d, (createPeerDid r form).run a = (.ok p, a') ∧ p.document = some d ∧
      (form = .hashAndDocument → PeerDid.ofDid p.did = .ok p) ∧
      (form = .genesisHash → ∀ e : Document, d.EqualButNames e →
        PeerDid.ofDidWithDocument p.did e = .ok p) ∧
      d.Advertises r ∧
      ∀ m : Mediator, m.routingKeys = r.routingKeys → r.routingKeys ≠ [] → m.routes d = .ok true := by
  obtain ⟨p, record, hp, -, -, run⟩ := createPeerDid_eq sound notKey a
  obtain ⟨a', saved⟩ := saveNewDid_ok record
    { a with draws := { a.draws with ids := a.draws.ids + 1 + 1 } }
  obtain ⟨agreement, told, d, converted, document, ofTold, hd, same⟩ :=
    Routing.peerDid_document notKey hp
  have advertises : d.Advertises r := by
    rw [same]
    exact Routing.document_advertises sound few converted document d.id d.alsoKnownAs
  refine ⟨p, a', d, ?_, hd, ?_, ?_, advertises, ?_⟩
  · rw [run, Step.bind_ok saved]
    rfl
  · rintro rfl
    have services : told.service = d.service := (congrArg Document.service same).symm
    have ordered : told.Ordered := fun s hs => advertises.tells.ordered s (services ▸ hs)
    cases ofTold
    exact PeerDid.ofDid_ofHashAndDocument ordered
  · rintro rfl e renamed
    have joins := PeerDid.ofDidWithDocument_of_equalButNames notKey ofTold (same.symm.trans renamed)
    cases ofTold
    rwa [PeerDid.hashDid_ofGenesis] at joins
  · intro m keys some
    rw [advertises.tells.routes, keys, List.isEmpty_eq_false_iff.mpr some]
    exact congrArg Except.ok (List.all_eq_true.mpr fun k => List.contains_iff_mem.mpr)

end Agent

end Suites

section Plain

attribute [local instance] Suite.plain Chance.counting

/-- A routing with two endpoints and two mediators is advertised by the DIDs of both forms: the document
of each has both endpoints, and goes through the mediators. -/
theorem Agent.createPeerDid_advertises_plain : ∃ (r : Routing) (m : Mediator), r.Sound ∧
    r.endpoints = ["https://one.example", "https://two.example"] ∧ m.routingKeys = r.routingKeys ∧
    r.routingKeys.length = 2 ∧
    ∀ form : PeerForm, form ≠ .inceptionKey → ∃ p a' d,
      (createPeerDid r form).run (.plain form [1]) = (.ok p, a') ∧ p.document = some d ∧
      PeerDid.ofDidWithDocument p.did d = .ok p ∧
      d.didcommServices.map (·.endpoint) = r.endpoints ∧ m.routes d = .ok true := by
  let r : Routing := { Routing.plain [1] [[3], [4]] with
    endpoints := ["https://one.example", "https://two.example"] }
  let m : Mediator := ⟨"mediator", "https://mediator.example", r.routingKeys⟩
  have hash : PeerForm.genesisHash ≠ .inceptionKey := nofun
  have single := (plain_host hash [1] [[3], [4]]).sound
  have sound : r.Sound := ⟨List.cons_ne_nil _ _, single.recipient, single.mediators⟩
  refine ⟨r, m, sound, rfl, rfl, rfl, fun form notKey => ?_⟩
  obtain ⟨p, a', d, run, document, told, joined, advertises, mediated⟩ :=
    createPeerDid_advertises (.plain form [1]) sound (by decide) notKey
  refine ⟨p, a', d, run, document, ?_, advertises.endpoints, mediated m rfl (List.cons_ne_nil _ _)⟩
  cases form with
  | inceptionKey => exact absurd rfl notKey
  | genesisHash => exact joined rfl d rfl
  | hashAndDocument =>
    rw [PeerDid.ofDidWithDocument, told rfl, Outcome.ok_bind, document]
    rfl

end Plain

end Pairwise
