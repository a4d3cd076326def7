import Pairwise.Proofs.Advertisement
import Pairwise.Proofs.Answerability
import Pairwise.Proofs.Handling
import Pairwise.Proofs.Onions
import Pairwise.Proofs.OpenInvitations
import Pairwise.Proofs.Reports
/-!
# Invitations that are answered through mediators

Who makes an invitation for a routing through mediators is reached through them. Whether that is so of the
DID that a request is answered with as well, depends on the routing that the answer is made for: the one of
the invitation, if the invitation is for one; a new one to the agent's own endpoints, if it is for many.

Results:
* `Document.LeadsTo`, `Agent.SendsBy`: the way of an invitation, in a document and for a message.
* `Agent.Mediated`: the answer to a request keeps to the way of the invitation.
* `Agent.receive_responds`: how a request comes to be answered.
* `createPeerDid_tells`, `attachmentFor_tells`: what a counterparty reads in the answer.
* `Agent.mediated_iff`: when the answer keeps to the way of the invitation.
* `Agent.not_always_mediated`: it does not always.
-/
namespace Pairwise

open Step

section Mediation

variable [suite : Suite]

/-! ## The way of an invitation -/

/-- The services of the document for messages are all at the endpoint of the invitation, behind its
mediators, and there is one. -/
structure Document.LeadsTo (d : Document) (i : Invitation) : Prop where
  services : d.didcommServices ≠ []
  endpoint : ∀ s ∈ d.didcommServices, i.endpoint = some s.endpoint
  routing : ∀ s ∈ d.didcommServices, d.serviceRoutingKeys s = i.routing

/-- The connection has the offer of an invitation, as the other one has, whatever else was noted on it. -/
structure Connection.SameOffer (c c' : Connection) : Prop where
  invitation : c.invitation = c'.invitation
  multiUse : c.multiUse = c'.multiUse
  mediator : c.mediatorId = c'.mediatorId

namespace Agent

section Definitions

variable [chance : Chance]

/-- Messages on the connection go the way of the invitation: to its endpoint, and there to the last of its
mediators alone. -/
structure SendsBy (a : Agent) (c : Connection) (i : Invitation) : Prop where
  delivery : ∃ endpoint v, a.delivery c = .ok (endpoint, v) ∧ i.endpoint = some endpoint ∧
    i.routing = .ok v.routing
  package : ∀ m p a', (package ⟨m, c⟩).run a = (.ok p, a') → i.endpoint = some p.endpoint ∧
    ∀ keys, i.routing = .ok keys → ∀ last ∈ keys.getLast?, p.payload.kids = [last.base58]

/-- The response keeps to the way of the invitation. The document that is read in it leads there, the
connection that it was made on is still behind the mediator, and so whoever takes it in sends the next
message that way. -/
structure Mediated (i : Invitation) (mediator : Option String) (m : Response) (c : Connection) :
    Prop where
  document : ∃ keys p d, i.recipients = .ok keys ∧ theirPeerDid m.did m.attachment keys = .ok p ∧
    p.document = some d ∧ d.LeadsTo i
  mediator : c.mediatorId = mediator
  next : ∀ (b b' : Agent) (x x' : Connection), x.invitation = some i → b.dids.find? m.did = none →
    (processResponse x m).run b = (.ok x', b') → b'.SendsBy x' i

end Definitions

end Agent

/-! ## Where messages go -/

/-- A document that advertises what an invitation keeps of a routing leads where the invitation does. -/
theorem Document.Advertises.leadsTo {d : Document} {i : Invitation} {r : Routing}
    (h : d.Advertises r.invited) (tells : i.Tells r) (sound : r.Sound) : d.LeadsTo i where
  services := h.tells.services
  endpoint s mem := by
    have there : s.endpoint ∈ r.endpoints.take 1 := by
      change s.endpoint ∈ r.invited.endpoints
      rw [← h.endpoints]
      exact List.mem_map_of_mem mem
    obtain ⟨first, rest, endpoints⟩ := List.exists_cons_of_ne_nil sound.endpoints
    rw [endpoints] at there
    rw [tells.endpoint, endpoints, List.mem_singleton.mp there]
    rfl
  routing s mem := (h.tells.routing s mem).trans (tells.routing_read sound).symm

namespace Agent

variable {a a' : Agent} {c c' d d' : Connection} {i : Invitation} {r : Routing} {m : Response}
  {p : PeerDid}

/-- Messages go where the document of the counterparty's DID leads. -/
theorem delivery_of_leadsTo {doc : Document} (resolved : a.resolve p.did = .ok doc)
    (leads : doc.LeadsTo i) (tells : doc.Tells r) (theirs : c.theirDid = some p.did) :
    ∃ endpoint v, a.delivery c = .ok (endpoint, v) ∧ i.endpoint = some endpoint ∧
      i.routing = .ok v.routing := by
  obtain ⟨s, rest, first⟩ := List.exists_cons_of_ne_nil leads.services
  have mem : s ∈ doc.didcommServices := first ▸ List.mem_cons_self
  let v : Delivery := { recipients := [r.recipientKey], routing := r.routingKeys }
  have asked : a.serviceDelivery p.did = .ok (s.endpoint, v) :=
    (serviceDelivery_eq_ok resolved first).mpr
      ⟨rfl, tells.recipients s mem, tells.routing s mem, rfl, rfl⟩
  refine ⟨s.endpoint, v, ?_, leads.endpoint s mem, ?_⟩
  · rw [delivery, theirs]
    exact asked
  · rw [← leads.routing s mem, tells.routing s mem]

variable [chance : Chance]

/-- What is handed to mediators is addressed to the last of them. -/
theorem forward_kids {target : String} {e outer : Envelope} {keys : List Key} {last : Key}
    (hlast : last ∈ keys.getLast?) (h : (forward target e keys).run a = (.ok outer, a')) :
    outer.kids = [last.base58] := by
  induction keys generalizing target e a with
  | nil => cases hlast
  | cons k keys ih =>
    simp only [forward, bind_run_ok] at h
    obtain ⟨_, _, -, first, _, hseal, h⟩ := h
    cases keys with
    | nil =>
      cases hlast
      obtain ⟨rfl, -⟩ := pure_run_ok.mp h
      exact sealFor_kids hseal
    | cons k' keys =>
      rw [List.getLast?_cons_cons] at hlast
      exact ih hlast h

/-- A message that is delivered through mediators is addressed to the last of them. -/
theorem pack_kids {message : Json} {v : Delivery} {outer : Envelope} {last : Key}
    (hlast : last ∈ v.routing.getLast?) (h : (pack message v).run a = (.ok outer, a')) :
    outer.kids = [last.base58] := by
  unfold pack at h
  split at h
  · cases h
  · cases h
  · obtain ⟨e, _, -, h⟩ := bind_run_ok.mp h
    exact forward_kids hlast h

/-- Messages go the way of an invitation if that is where they are delivered. -/
theorem SendsBy.of_delivery (h : ∃ endpoint v, a.delivery c = .ok (endpoint, v) ∧
    i.endpoint = some endpoint ∧ i.routing = .ok v.routing) : a.SendsBy c i where
  delivery := h
  package := by
    intro m p a' run
    obtain ⟨endpoint, v, asked, there, routing⟩ := h
    rw [Agent.package, bind_ask asked] at run
    simp only [bind_run_ok, ask_run_ok, pure_run_ok] at run
    obtain ⟨sender, _, -, e, _, packed, rfl, -⟩ := run
    refine ⟨there, fun keys read last hlast => ?_⟩
    cases routing.symm.trans read
    exact pack_kids (v := { v with sender }) hlast packed

/-! ## What a counterparty reads -/

/-- A DID that was made for a sound routing tells it, in form 1 and in form 4. -/
theorem createPeerDid_tells (sound : r.Sound) {form : PeerForm} (notKey : form ≠ .inceptionKey)
    (h : (createPeerDid r form).run a = (.ok p, a')) :
    p.Made r ∧ (r.endpoints.length < UInt32.size →
      ∃ d, p.document = some d ∧ d.Advertises r) := by
  obtain ⟨q, record, made, tells, -, run⟩ := createPeerDid_eq sound notKey a
  obtain rfl : q = p := by
    obtain ⟨_, _, -, same⟩ := bind_run_ok.mp (run.symm.trans h)
    exact (pure_run_ok.mp same).1
  refine ⟨tells, fun few => ?_⟩
  obtain ⟨agreement, told, d, converted, document, -, hd, same⟩ := Routing.peerDid_document notKey made
  refine ⟨d, hd, ?_⟩
  rw [same]
  exact Routing.document_advertises sound few converted document d.id d.alsoKnownAs

/-- Nothing is attached to a DID that is a key. -/
theorem attachmentFor_key {signer : Key} {attachment : Option Attachment}
    (key : PeerDid.form p.did = .ok .inceptionKey)
    (h : (attachmentFor p signer).run a = (.ok attachment, a')) : attachment = none := by
  rw [attachmentFor, bind_lift key] at h
  exact (pure_run_ok.mp h).1.symm

/-- What is attached to another DID gives its document to whoever knows the signer. -/
theorem attachmentFor_tells (lawful : suite.Lawful) (made : p.Made r) {signer : Key}
    (signs : signer.kind = .ed25519) {attachment : Option Attachment}
    (h : (attachmentFor p signer).run a = (.ok attachment, a')) {allowed : List Key}
    (known : signer ∈ r.recipientKey :: allowed) : theirPeerDid p.did attachment allowed = .ok p := by
  -- the wallet has the key that it has signed with
  have held : a.wallet.holds signer = true := by
    obtain ⟨doc, hdoc, -⟩ := made.document
    obtain ⟨form, hform, notKey⟩ := made.form
    rw [attachmentFor, bind_lift hform, hdoc] at h
    cases form with
    | inceptionKey => exact absurd rfl notKey
    | genesisHash | hashAndDocument =>
      obtain ⟨jws, _, signed, -⟩ := bind_run_ok.mp h
      obtain ⟨signed, -⟩ := ask_run_ok.mp signed
      obtain ⟨_, -, signed⟩ := Outcome.bind_eq_ok.mp signed
      obtain ⟨_, signed, -⟩ := Outcome.bind_eq_ok.mp signed
      obtain ⟨seed, found, -⟩ := Outcome.bind_eq_ok.mp signed
      unfold Wallet.seedOf at found
      split at found
      · next known => exact Option.isSome_iff_exists.mpr ⟨_, known⟩
      · cases found
  obtain ⟨told, _, run, -, -, tells⟩ := attachmentFor_run lawful made signs held
  cases run.symm.trans h
  exact tells allowed known

/-! ## How a request is answered -/

/-- A response tells a DID that was made for its routing, and attaches what the key of the invitation has
signed. -/
theorem createResponse_makes {own : Option Routing} {key : Key} (invitation : c.invitation = some i)
    (answered : i.requireKey = .ok key) (routing : responseRouting c i key a.settings own = .ok r)
    (h : (createResponse c own).run a = (.ok (m, c'), a')) :
    ∃ p a₁ a₂ a₃, (createPeerDid r a.settings.exchangeForm).run a = (.ok p, a₁) ∧
      (attachmentFor p key).run a₂ = (.ok m.attachment, a₃) ∧ m.did = p.did ∧
      c'.mediatorId = r.mediatorId := by
  simp only [createResponse, bind_run_ok, lift_run_ok, view_run_ok, pure_run_ok, Prod.mk.injEq] at h
  obtain ⟨state, _, ⟨-, rfl⟩, thread, _, ⟨-, rfl⟩, i', _, ⟨hi, rfl⟩, key', _, ⟨hkey, rfl⟩, _, _,
    ⟨rfl, rfl⟩, r', _, ⟨hr, rfl⟩, p, a₁, hp, id, a₂, -, attachment, a₃, hattachment, stored, _, hupdate,
    ⟨rfl, rfl⟩, rfl⟩ := h
  cases (Connection.requireInvitation_eq_ok.mp hi).symm.trans invitation
  cases hkey.symm.trans answered
  cases hr.symm.trans routing
  have stores := updateConnection_ok (refl a₃) hupdate
  exact ⟨p, a₁, a₂, a₃, hp, hattachment, rfl, by rw [stores.stored_eq]⟩

/-- A request that is answered with a response was taken in on the connection that it was brought to, or
on one of its own, and the response was made there. -/
theorem receive_responds {e : Envelope} {q : Request} (brings : a.Brings e (.request q) d)
    (answered : (receive e).run a = (.ok (some ⟨.response m, d'⟩), a')) :
    ∃ own a₁ c a₂, (answerRouting d).run a = (.ok own, a₁) ∧
      (processRequest d q own).run a₁ = (.ok c, a₂) ∧
      (createResponse c own).run a₂ = (.ok (m, d'), a') := by
  rcases receive_cases answered with ⟨⟨e, failed⟩, -⟩ | ⟨opened, m', x, hopen, hm, hx, -, handled⟩
  · cases failed
  obtain ⟨rfl, rfl⟩ := brings.unique ⟨opened, hopen, hm, connectionFor_eq_ok.mp hx⟩
  rcases handle_cases handled with ⟨answer, same, dispatched⟩ | ⟨_, _, -, -, refuses⟩
  · cases same
    rw [dispatch, bind_view] at dispatched
    dsimp only at dispatched
    obtain ⟨own, a₁, hown, dispatched⟩ := bind_run_ok.mp dispatched
    obtain ⟨c, a₂, taken, dispatched⟩ := bind_run_ok.mp dispatched
    split at dispatched
    · obtain ⟨⟨m', c'⟩, a₃, made, last⟩ := bind_run_ok.mp dispatched
      obtain ⟨same, rfl⟩ := pure_run_ok.mp last
      cases same
      exact ⟨own, a₁, c, a₂, hown, taken, made⟩
    · cases (pure_run_ok.mp dispatched).1
  · cases refuses

/-- The routing that the response is made for: what the invitation keeps of its own routing, or a new one if
the invitation is for many. -/
theorem responseRouting_of_taken (tells : i.Tells r) (sound : r.Sound)
    (invitation : d.invitation = some i) (mediator : d.mediatorId = r.mediatorId) {q : Request}
    {own : Option Routing} {a₁ a₂ : Agent} (routed : (answerRouting d).run a = (.ok own, a₁))
    (taken : (processRequest d q own).run a₁ = (.ok c, a₂)) :
    a₂.settings = a.settings ∧ c.invitation = some i ∧
      responseRouting c i r.recipientKey a₂.settings own = .ok (answerRoutingOf a r d.multiUse).1 := by
  obtain ⟨-, -, -, ⟨once, stores⟩ | ⟨many, later, _, answer, answers, rfl, -⟩⟩ := processRequest_ok taken
  · rw [answerRouting_once once] at routed
    cases routed
    rw [once, stores.stored_eq]
    exact ⟨stores.settings, invitation, tells.responseRouting_eq sound mediator _⟩
  · rw [answerRouting_many many] at routed
    cases routed
    obtain ⟨once, -⟩ | ⟨-, _, id, -, -, rfl⟩ := answering_ok answers
    · cases many.symm.trans once
    rw [many]
    exact ⟨later.settings, invitation, rfl⟩

/-- The response to a request tells a DID that was made for that routing, and the connection is behind the
mediator of it. -/
theorem receive_makes (tells : i.Tells r) (sound : r.Sound) (invitation : d.invitation = some i)
    (mediator : d.mediatorId = r.mediatorId) {e : Envelope} {q : Request}
    (brings : a.Brings e (.request q) d)
    (answered : (receive e).run a = (.ok (some ⟨.response m, d'⟩), a')) :
    ∃ p b b' a₁ a₂,
      (createPeerDid (answerRoutingOf a r d.multiUse).1 a.settings.exchangeForm).run b = (.ok p, b') ∧
      (attachmentFor p r.recipientKey).run a₁ = (.ok m.attachment, a₂) ∧ m.did = p.did ∧
      d'.mediatorId = (answerRoutingOf a r d.multiUse).1.mediatorId := by
  obtain ⟨own, _, c, b, routed, taken, made⟩ := receive_responds brings answered
  obtain ⟨settings, invitation, routing⟩ :=
    responseRouting_of_taken tells sound invitation mediator routed taken
  obtain ⟨p, b', a₁, a₂, makes, attaches, told, behind⟩ :=
    createResponse_makes invitation (tells.requireKey sound) routing made
  exact ⟨p, b, b', a₁, a₂, settings ▸ makes, attaches, told, behind⟩

omit chance in
/-- Whoever takes in a response knows its DID, if that was new. -/
theorem processResponse_knows (made : p.Made r) (did : m.did = p.did) {keys : List Key}
    (read : i.recipients = .ok keys) (told : theirPeerDid m.did m.attachment keys = .ok p)
    (invitation : c.invitation = some i) (new : a.dids.find? m.did = none)
    (h : (processResponse c m).run a = (.ok c', a')) :
    c'.theirDid = some p.did ∧ a'.dids.Knows p := by
  simp only [processResponse, bind_run_ok, lift_run_ok] at h
  obtain ⟨_, _, ⟨-, rfl⟩, ⟨⟩, _, ⟨-, rfl⟩, i', _, ⟨hi, rfl⟩, keys', _, ⟨hkeys, rfl⟩, ⟨⟩, a₁, accepted,
    hupdate⟩ := h
  cases (Connection.requireInvitation_eq_ok.mp hi).symm.trans invitation
  cases hkeys.symm.trans read
  rw [did] at told new accepted
  obtain ⟨_, record, run, isOf, gains⟩ := acceptTheirDid_run made told new
  cases run.symm.trans accepted
  have stores := updateConnection_ok (refl a₁) hupdate
  obtain ⟨more, records⟩ := stores.dids
  have known : a₁.dids.Knows p := by
    refine .of_mem ?_ isOf
    rw [gains.dids]
    exact List.mem_append_right _ List.mem_cons_self
  exact ⟨by rw [stores.stored_eq, did], known.append records.symm⟩

/-! ## Invitations for one and for many -/

/-- An invitation and its connection tell the routing that the invitation is made for. -/
theorem createInvitation_offers {multiUse : Bool} {label : Option String}
    (made : (createInvitation r multiUse label).run a = (.ok (i, c), a')) :
    i.Tells r ∧ c.invitation = some i ∧ c.multiUse = multiUse ∧ c.mediatorId = r.mediatorId := by
  simp only [createInvitation, newConnection, bind_run_ok, view_run_ok, pure_run_ok] at made
  obtain ⟨_, _, ⟨-, rfl⟩, _, _, -, new, _, ⟨_, _, -, _, _, -, rfl, -⟩, stored, _, hsave, ⟨⟩, -⟩ := made
  obtain ⟨rfl, -⟩ := saveConnection_run_ok.mp hsave
  exact ⟨⟨rfl, rfl, rfl⟩, rfl, rfl, rfl⟩

/-- A response that keeps to the way of an invitation tells a DID that is no key: the document of that has
no services. -/
theorem Mediated.form {mediator : Option String} (h : Mediated i mediator m c)
    (unattached : PeerDid.form m.did = .ok .inceptionKey → m.attachment = none) :
    PeerDid.form m.did ≠ .ok .inceptionKey := by
  intro key
  obtain ⟨keys, p, doc, -, told, hdoc, leads⟩ := h.document
  rw [unattached key] at told
  unfold theirPeerDid at told
  dsimp only at told
  split at told
  · exact leads.services (PeerDid.services_of_key told hdoc key)
  · cases told

/-- A counterparty that has the invitation reads in the response the DID that was made for its routing. -/
theorem response_reads (lawful : suite.Lawful) {told : Routing} (sound : told.Sound) {form : PeerForm}
    (notKey : form ≠ .inceptionKey) {b b' : Agent} (makes : (createPeerDid told form).run b = (.ok p, b'))
    {key : Key} (signs : key.kind = .ed25519)
    (attaches : (attachmentFor p key).run a = (.ok m.attachment, a')) (did : m.did = p.did) :
    p.Made told ∧ theirPeerDid m.did m.attachment [key] = .ok p := by
  have made := (createPeerDid_tells sound notKey makes).1
  rw [did]
  exact ⟨made, attachmentFor_tells lawful made signs attaches
    (List.mem_cons_of_mem _ List.mem_cons_self)⟩

/-- A response with a DID that was made for the routing of the invitation keeps to the way of that. -/
theorem Mediated.of_made (tells : i.Tells r) (sound : r.Sound) (made : p.Made r.invited)
    {doc : Document} (hdoc : p.document = some doc) (advertises : doc.Advertises r.invited)
    (did : m.did = p.did) (read : theirPeerDid m.did m.attachment [r.recipientKey] = .ok p)
    (behind : c.mediatorId = r.mediatorId) : Mediated i r.mediatorId m c := by
  have recipients := tells.recipients_read sound
  have leads := advertises.leadsTo tells sound
  refine ⟨⟨_, p, doc, recipients, read, hdoc, leads⟩, behind, ?_⟩
  intro b b' x x' invited new taken
  obtain ⟨theirs, known⟩ := processResponse_knows made did recipients read invited new taken
  obtain ⟨doc', resolved, tells', hdoc'⟩ := made.resolve (.inr known)
  cases hdoc.symm.trans hdoc'
  exact .of_delivery (delivery_of_leadsTo resolved leads tells' theirs)

/-- The answer to a request for an invitation through mediators keeps to the way of the invitation, whatever
the request, exactly if the invitation is for one, and the agent tells documents with its DIDs. The answer
for an invitation for many tells a DID at the agent's own endpoints, with no mediator in front of it. -/
theorem mediated_iff (lawful : suite.Lawful) {a₀ a₁ : Agent} {multiUse : Bool} {label : Option String}
    (made : (createInvitation r multiUse label).run a₀ = (.ok (i, c), a₁)) (sound : r.Sound)
    {mediator : String} (behind : r.mediatorId = some mediator) (offer : d.SameOffer c) {e : Envelope}
    {q : Request} (brings : a.Brings e (.request q) d)
    (answered : (receive e).run a = (.ok (some ⟨.response m, d'⟩), a')) :
    (Mediated i r.mediatorId m d' ↔
      multiUse = false ∧ a.settings.exchangeForm ≠ .inceptionKey) ∧
    d'.mediatorId = (answerRoutingOf a r multiUse).1.mediatorId ∧
    (a.settings.exchangeForm ≠ .inceptionKey → (answerRoutingOf a r multiUse).1.endpoints ≠ [] →
      ∃ keys p doc, i.recipients = .ok keys ∧ theirPeerDid m.did m.attachment keys = .ok p ∧
        p.document = some doc ∧ doc.Tells (answerRoutingOf a r multiUse).1) := by
  obtain ⟨tells, invitation, uses, via⟩ := createInvitation_offers made
  obtain ⟨p, b, b', a₂, a₃, makes, attaches, did, mediated⟩ := receive_makes tells sound
    (offer.invitation.trans invitation) (offer.mediator.trans via) brings answered
  rw [offer.multiUse, uses] at makes mediated
  have signs := sound.recipient.signs
  refine ⟨⟨fun kept => ⟨?once, fun key => ?document⟩, ?_⟩, mediated, fun notKey endpoints => ?_⟩
  case once =>
    cases multiUse with
    | false => rfl
    | true =>
      -- a new routing has no mediator
      have none : d'.mediatorId = none := mediated
      rw [kept.mediator, behind] at none
      cases none
  case document =>
    have form := createPeerDid_form makes
    rw [key] at form
    exact kept.form (fun _ => attachmentFor_key form attaches) (did ▸ form)
  · rintro ⟨rfl, notKey⟩
    obtain ⟨made, read⟩ := response_reads lawful sound.invited notKey makes signs attaches did
    have few : r.invited.endpoints.length < UInt32.size :=
      Nat.lt_of_le_of_lt (List.length_take_le 1 r.endpoints) (by decide)
    obtain ⟨doc, hdoc, advertises⟩ := (createPeerDid_tells sound.invited notKey makes).2 few
    exact .of_made tells sound made hdoc advertises did read mediated
  · have told : (answerRoutingOf a r multiUse).1.Sound := by
      cases multiUse with
      | false => exact sound.invited
      | true => exact nextRouting_sound lawful endpoints
    obtain ⟨made, read⟩ := response_reads lawful told notKey makes signs attaches did
    obtain ⟨doc, hdoc, tells', -⟩ := made.document
    exact ⟨_, p, doc, tells.recipients_read sound, read, hdoc, tells'⟩

end Agent

end Mediation

/-! ## Two invitations through mediators -/

section Plain

attribute [local instance] Suite.plain Chance.counting

/-- A routing through two keys of a mediator. -/
def Routing.plainMediated : Routing := { plain [2] [[3], [4]] with mediatorId := some "mediator" }

namespace Agent

theorem plainMediated_host : Host (plain .hashAndDocument [2]) .plainMediated := by
  have form : PeerForm.hashAndDocument ≠ .inceptionKey := nofun
  have host := plain_host form [2] [[3], [4]]
  exact { host with sound := ⟨host.sound.endpoints, host.sound.recipient, host.sound.mediators⟩ }

/-- Both an invitation for one and an invitation for many are answered by a request, and the request by a
response. -/
theorem plain_mediated (multiUse : Bool) : ∃ i c a e q m d a',
    (createInvitation .plainMediated multiUse none).run (plain .hashAndDocument [2]) = (.ok (i, c), a) ∧
      a.settings.exchangeForm = .hashAndDocument ∧ a.Brings e (.request q) c ∧
      (receive e).run a = (.ok (some ⟨.response m, d⟩), a') := by
  have form : PeerForm.genesisHash ≠ .inceptionKey := nofun
  have host : Host (plain .genesisHash [1]) (.plain [1] []) := plain_host form [1] []
  obtain ⟨p, q, fresh⟩ := plain_fresh [1] [2] [] [[3], [4]] multiUse
  -- nothing that is drawn depends on the name of a mediator
  have fresh : Fresh (plain .genesisHash [1]) (plain .hashAndDocument [2]) (.plain [1] [])
      .plainMediated multiUse p q :=
    { fresh with answering := by cases multiUse <;> exact fresh.answering }
  have willing : (none : Option Bool) ≠ some false ∧
      ({} : RequestOptions).autoAccept ≠ some false := ⟨nofun, nofun⟩
  obtain ⟨i, d, b, c₀, a₁, m, c, a₂, invite, -, -, -, -, opened⟩ :=
    open_run host plainMediated_host fresh Suite.plain_lawful none willing
  obtain ⟨label, options, attachment, hm, plain', told⟩ := opened.message
  have readable : (Message.request m).Readable := hm ▸ Request.telling_readable _ _ _ _ _ plain'
  obtain ⟨e, -, -, -, holds⟩ := sealFor_run (a := plain .genesisHash [1]) Suite.plain_lawful
    Chance.counting_lawful readable.fits (List.forall_mem_singleton.mpr plainMediated_host.sound.recipient)
    (List.cons_ne_nil _ _) none nofun
  obtain ⟨m', d', b', _, _, answered, -⟩ := answer_run Suite.plain_lawful plainMediated_host fresh
    opened.party.made opened.moves opened.waiting opened.id opened.uses opened.default plain' told
    (hm ▸ holds)
  exact ⟨i, d, b, e, m, m', d', b', invite, congrArg (·.exchangeForm) opened.moves.settings,
    .of_holds holds readable opened.waiting.held opened.waiting.connectionOfKey, answered⟩

/-- The answer to the request for the invitation for one keeps to the way of the invitation. -/
theorem mediated_iff_plain : ∃ i c a e q m d a',
    (createInvitation .plainMediated false none).run (plain .hashAndDocument [2]) = (.ok (i, c), a) ∧
      Routing.plainMediated.Sound ∧ a.Brings e (.request q) c ∧
      (receive e).run a = (.ok (some ⟨.response m, d⟩), a') ∧ Mediated i (some "mediator") m d := by
  obtain ⟨i, c, a, e, q, m, d, a', invite, form, brings, answered⟩ := plain_mediated false
  have sound := plainMediated_host.sound
  refine ⟨i, c, a, e, q, m, d, a', invite, sound, brings, answered, ?_⟩
  refine (mediated_iff Suite.plain_lawful invite sound rfl ⟨rfl, rfl, rfl⟩ brings answered).1.mpr ⟨rfl, ?_⟩
  rw [form]
  exact nofun

/-- It is not so that the answer to a request for an invitation through mediators keeps to the way of the
invitation. -/
theorem not_always_mediated :
    ¬ ∀ (a₀ a₁ a a' : Agent) (r : Routing) (multiUse : Bool) (label : Option String) (i : Invitation)
        (c d : Connection) (mediator : String) (e : Envelope) (q : Request) (m : Response),
      (createInvitation r multiUse label).run a₀ = (.ok (i, c), a₁) → r.Sound →
      r.mediatorId = some mediator → r.routingKeys ≠ [] → a.Brings e (.request q) c →
      (receive e).run a = (.ok (some ⟨.response m, d⟩), a') → Mediated i (some mediator) m d := by
  intro always
  obtain ⟨i, c, a, e, q, m, d, a', invite, -, brings, answered⟩ := plain_mediated true
  have sound := plainMediated_host.sound
  have kept := always _ a a a' _ true none i c d "mediator" e q m invite sound rfl
    (List.cons_ne_nil _ _) brings answered
  obtain ⟨tells, invitation, uses, via⟩ := createInvitation_offers invite
  obtain ⟨-, -, -, -, -, -, -, -, mediated⟩ :=
    receive_makes tells sound invitation via brings answered
  rw [uses, kept.mediator] at mediated
  cases mediated

end Agent

end Plain

end Pairwise
