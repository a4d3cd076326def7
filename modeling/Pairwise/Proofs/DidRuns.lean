import Pairwise.Agent.Dids
import Pairwise.Proofs.Signing
import Pairwise.Proofs.Steps
import Pairwise.Proofs.ToldDids
/-!
# DIDs that agents make and take in

An agent makes a DID for a sound routing, and stores it; the other agent takes it in with the
attachment that goes with it, and stores it as well.

Results:
* `Routing.peerDid_ne`: DIDs of form 4 in which the keys have other ids are others.
* `createPeerDid_run`: the DID that is made for a routing tells it.
* `attachmentFor_run`: the attachment of a DID gives its document to whoever knows the signer.
* `acceptTheirDid_run`: the DID is taken in with the attachment.
-/
namespace Pairwise

/-- The stored record of a peer DID, found by the key of the routing that it tells. -/
structure DidRecord.Of (record : DidRecord) (role : DidRole) (p : PeerDid) (r : Routing) : Prop where
  did : record.did = p.did
  role : record.role = role
  document : record.document = p.document
  fingerprints : record.fingerprints = [r.recipientKey.fingerprint]

/-- The record of a DID with its document. -/
theorem DidRecord.new_of {p : PeerDid} {r : Routing} (h : p.Made r) {d : Document}
    (hd : p.document = some d) (role : DidRole)
    (alternatives : List String) (now : Timestamp) :
    ∃ record, new p.did role d alternatives now = .ok record ∧ record.Of role p r := by
  obtain ⟨d', hd', tells, -⟩ := h.document
  obtain rfl : d' = d := Option.some.inj (hd'.symm.trans hd)
  rw [new, tells.recipientFingerprints]
  exact ⟨_, rfl, rfl, rfl, hd.symm, rfl⟩

namespace Store

variable {dids dids' : Store DidRecord} {p : PeerDid}

/-- A store with more DIDs knows all that it knew. -/
theorem Knows.append {more : List DidRecord} (h : dids'.records = dids.records ++ more)
    (known : dids.Knows p) : dids'.Knows p := by
  obtain ⟨record, found, same⟩ := known
  obtain ⟨mem, id⟩ := find?_eq_some.mp found
  refine ⟨record, find?_eq_some.mpr ⟨?_, id⟩, same⟩
  rw [h]
  exact List.mem_append_left more mem

/-- A DID that is stored is known. -/
theorem Knows.of_mem {record : DidRecord} {role : DidRole} {r : Routing}
    (h : record ∈ dids.records) (isOf : record.Of role p r) : dids.Knows p :=
  ⟨record, find?_eq_some.mpr ⟨h, isOf.did⟩, isOf.document⟩

end Store

variable [suite : Suite]

/-- The peer DID of a form that tells a routing, its keys under the given ids. -/
def Routing.peerDid (r : Routing) (form : PeerForm) (authenticationId agreementId : String) :
    Except Error PeerDid := do
  let agreement ← r.recipientKey.toX25519
  let told ← r.document agreement ("#" ++ authenticationId) ("#" ++ agreementId)
  PeerDid.ofDocument told form

/-- A sound routing has a peer DID of form 1 and one of form 4. -/
theorem Routing.peerDid_made {r : Routing} (h : r.Sound) {form : PeerForm}
    (hform : form ≠ .inceptionKey) (authenticationId agreementId : String) :
    ∃ p, r.peerDid form authenticationId agreementId = .ok p ∧ p.Made r := by
  obtain ⟨agreement, hagreement, -⟩ := h.recipient.toX25519
  obtain ⟨d, hd, tells⟩ := document_tells h agreement ("#" ++ authenticationId) ("#" ++ agreementId)
  rw [peerDid, hagreement, Outcome.ok_bind, hd, Outcome.ok_bind]
  cases form with
  | inceptionKey => exact absurd rfl hform
  | genesisHash => exact ⟨_, rfl, d, tells, .inl rfl⟩
  | hashAndDocument => exact ⟨_, rfl, d, tells, .inr rfl⟩

theorem Routing.made_of_peerDid {r : Routing} (h : r.Sound) {form : PeerForm}
    (hform : form ≠ .inceptionKey) {authenticationId agreementId : String} {p : PeerDid}
    (hp : r.peerDid form authenticationId agreementId = .ok p) : p.Made r := by
  obtain ⟨p', hp', made⟩ := peerDid_made h hform authenticationId agreementId
  obtain rfl : p' = p := Except.ok.inj (hp'.symm.trans hp)
  exact made

/-- The form of the DID is the one that was asked for. -/
theorem Routing.form_peerDid {r : Routing} {form : PeerForm} (hform : form ≠ .inceptionKey)
    {authenticationId agreementId : String} {p : PeerDid}
    (hp : r.peerDid form authenticationId agreementId = .ok p) : PeerDid.form p.did = .ok form := by
  obtain ⟨agreement, -, hp⟩ := Outcome.bind_eq_ok.mp hp
  obtain ⟨told, -, hp⟩ := Outcome.bind_eq_ok.mp hp
  obtain ⟨rfl, rfl⟩ | ⟨rfl, rfl⟩ := PeerDid.ofDocument_cases hform hp
  · exact PeerDid.form_ofGenesis told
  · exact PeerDid.form_ofHashAndDocument told

/-- A DID of form 4 is read back with its document, which names the key of the routing by the given id. -/
theorem Routing.peerDid_read {r : Routing} (sound : r.Sound) {x y : String} {p : PeerDid}
    (made : r.peerDid .hashAndDocument x y = .ok p) :
    PeerDid.isDerivable p.did = true ∧ PeerDid.ofDid p.did = .ok p ∧ ∃ d, p.document = some d ∧
      d.authentication = [.embedded (.ofKey ("#" ++ x) Routing.selfName r.recipientKey)] := by
  obtain ⟨agreement, -, made⟩ := Outcome.bind_eq_ok.mp made
  obtain ⟨told, htold, tells⟩ := document_tells sound agreement ("#" ++ x) ("#" ++ y)
  rw [htold] at made
  obtain rfl := Except.ok.inj made
  have ordered : told.Ordered := (tells told.id told.alsoKnownAs).ordered
  obtain ⟨services, -, document⟩ := Outcome.bind_eq_ok.mp htold
  obtain rfl := Except.ok.inj document
  exact ⟨PeerDid.isDerivable_ofHashAndDocument _, PeerDid.ofDid_ofHashAndDocument ordered, _, rfl, rfl⟩

/-- So DIDs in which the keys have other ids are others. -/
theorem Routing.peerDid_ne {r r' : Routing} (sound : r.Sound) (sound' : r'.Sound) {x x' y y' : String}
    {p p' : PeerDid} (made : r.peerDid .hashAndDocument x y = .ok p)
    (made' : r'.peerDid .hashAndDocument x' y' = .ok p') (other : x ≠ x') : p.did ≠ p'.did := by
  intro same
  obtain ⟨-, read, d, hd, key⟩ := peerDid_read sound made
  obtain ⟨-, read', d', hd', key'⟩ := peerDid_read sound' made'
  rw [same] at read
  cases read.symm.trans read'
  cases hd.symm.trans hd'
  have methods := MethodRef.embedded.inj (List.cons.inj (key.symm.trans key')).1
  exact other ((String.append_right_inj _).mp (congrArg VerificationMethod.id methods))

/-- The agent afterwards has drawn so many ids and stored these DIDs, and has kept all else but for
bytes for single use. -/
structure Agent.Gains (a a' : Agent) (ids : Nat) (dids : List DidRecord) : Prop where
  settings : a'.settings = a.settings
  wallet : a'.wallet = a.wallet
  connections : a'.connections = a.connections
  ids : a'.draws.ids = a.draws.ids + ids
  seeds : a'.draws.seeds = a.draws.seeds
  dids : a'.dids.records = a.dids.records ++ dids

namespace Agent

theorem Gains.trans {a b c : Agent} {n m : Nat} {ds es : List DidRecord} (hab : Gains a b n ds)
    (hbc : Gains b c m es) : Gains a c (n + m) (ds ++ es) where
  settings := hbc.settings.trans hab.settings
  wallet := hbc.wallet.trans hab.wallet
  connections := hbc.connections.trans hab.connections
  ids := by rw [hbc.ids, hab.ids, Nat.add_assoc]
  seeds := hbc.seeds.trans hab.seeds
  dids := by rw [hbc.dids, hab.dids, List.append_assoc]

variable {a : Agent} {p : PeerDid} {r : Routing}

/-! ## Storing -/

theorem saveNewDid_run (record : DidRecord) (new : a.dids.find? record.did = none) :
    ∃ a', (saveNewDid record).run a = (.ok (), a') ∧ Gains a a' 0 [record] := by
  have unsaved : ¬ (a.dids.find? record.did).isSome = true := by rw [new]; exact nofun
  obtain ⟨dids, hdids⟩ : ∃ dids, a.dids.save record = .ok dids := by
    unfold Store.save
    exact ⟨_, dif_neg unsaved⟩
  refine ⟨{ a with dids }, ?_, ⟨rfl, rfl, rfl, rfl, rfl, (Store.save_eq_ok.mp hdids).2⟩⟩
  unfold saveNewDid
  rw [Step.bind_view, if_neg unsaved]
  simp only [Step.run, saveDid, hdids]

/-- Storing a DID goes well in any case: one that is stored stays as it is. -/
theorem saveNewDid_ok (record : DidRecord) (a : Agent) :
    ∃ a', (saveNewDid record).run a = (.ok (), a') := by
  cases found : a.dids.find? record.did with
  | none =>
    obtain ⟨a', saved, -⟩ := saveNewDid_run record found
    exact ⟨a', saved⟩
  | some old =>
    have known : (a.dids.find? record.did).isSome = true := by rw [found]; rfl
    refine ⟨a, ?_⟩
    rw [saveNewDid, Step.bind_view, if_pos known]
    rfl

/-! ## Taking in -/

/-- A DID that tells its document needs no attachment. -/
theorem theirPeerDid_derivable {did : String} (derivable : PeerDid.isDerivable did = true)
    (read : PeerDid.ofDid did = .ok p) (allowed : List Key) : theirPeerDid did none allowed = .ok p := by
  unfold theirPeerDid
  exact (if_pos derivable).trans read

/-- The other names of a DID can be told from its document. -/
theorem otherNames_ok (h : p.Made r) {d : Document} (hd : d.id = p.did) :
    ∃ names, otherNames p.did d = .ok names := by
  obtain ⟨form, hform, -⟩ := h.form
  rw [otherNames, hd, if_pos (PeerDid.isValid_of_form hform)]
  rcases h.ofDid with ⟨-, read⟩ | ⟨-, read⟩
  · rw [read]
    exact ⟨_, rfl⟩
  · rw [read]
    exact ⟨_, rfl⟩

/-- A DID that is not stored is stored with the document that is told with it. -/
theorem acceptTheirDid_told {did : String} {attachment : Option Attachment} {allowed : List Key}
    (told : theirPeerDid did attachment allowed = .ok p) {d : Document} (hd : p.document = some d)
    {names : List String} (hnames : otherNames did d = .ok names) {record : DidRecord}
    (hrecord : DidRecord.new did .received d names a.now = .ok record)
    (new : a.dids.find? record.did = none) :
    ∃ a', (acceptTheirDid did attachment allowed).run a = (.ok (), a') ∧ Gains a a' 0 [record] := by
  obtain ⟨a', hsave, gains⟩ := saveNewDid_run record new
  refine ⟨a', ?_, gains⟩
  rw [acceptTheirDid, Step.bind_lift told, hd]
  dsimp only
  rw [saveReceivedDid, Step.bind_lift hnames, Step.bind_view, Step.bind_lift hrecord, hsave]

theorem acceptTheirDid_run (h : p.Made r) {attachment : Option Attachment} {allowed : List Key}
    (told : theirPeerDid p.did attachment allowed = .ok p) (new : a.dids.find? p.did = none) :
    ∃ a' record, (acceptTheirDid p.did attachment allowed).run a = (.ok (), a') ∧
      record.Of .received p r ∧ Gains a a' 0 [record] := by
  obtain ⟨d, hd, -, id⟩ := h.document
  obtain ⟨names, hnames⟩ := otherNames_ok h id
  obtain ⟨record, hrecord, isOf⟩ := DidRecord.new_of h hd .received names a.now
  obtain ⟨a', accepted, gains⟩ := acceptTheirDid_told told hd hnames hrecord (isOf.did ▸ new)
  exact ⟨a', record, accepted, isOf, gains⟩

variable [chance : Chance]

/-! ## Making -/

/-- A DID that is made for a sound routing comes down to storing its record. -/
theorem createPeerDid_eq (h : r.Sound) {form : PeerForm} (hform : form ≠ .inceptionKey) (a : Agent) :
    ∃ p record, r.peerDid form (chance.uuid a.draws.ids) (chance.uuid (a.draws.ids + 1)) = .ok p ∧
      p.Made r ∧ record.Of .created p r ∧
      (createPeerDid r form).run a = (do saveNewDid record; return p : Step PeerDid).run
        { a with draws := { a.draws with ids := a.draws.ids + 1 + 1 } } := by
  obtain ⟨p, hp, made⟩ := Routing.peerDid_made h hform (chance.uuid a.draws.ids)
    (chance.uuid (a.draws.ids + 1))
  obtain ⟨d, hd, -⟩ := made.document
  let a₁ : Agent := { a with draws := { a.draws with ids := a.draws.ids + 1 + 1 } }
  obtain ⟨record, hrecord, isOf⟩ := DidRecord.new_of made hd .created p.alternatives a₁.now
  refine ⟨p, record, hp, made, isOf, ?_⟩
  obtain ⟨agreement, hagreement, hp⟩ := Outcome.bind_eq_ok.mp hp
  obtain ⟨told, htold, hp⟩ := Outcome.bind_eq_ok.mp hp
  have first : drawId.run a = (.ok (chance.uuid a.draws.ids), (drawId.run a).2) := rfl
  have second : drawId.run (drawId.run a).2 = (.ok (chance.uuid (a.draws.ids + 1)), a₁) := rfl
  have document : (routingDocument r).run a = (.ok told, a₁) := by
    rw [routingDocument, Step.bind_lift hagreement, Step.bind_ok first, Step.bind_ok second,
      Step.run_lift, htold]
  rw [createPeerDid, Step.bind_ok document, Step.bind_lift hp, hd]
  dsimp only
  have own : ownDocument form told d = d := if_neg hform
  rw [Step.bind_view, own, Step.bind_lift hrecord]

theorem createPeerDid_run (h : r.Sound) {form : PeerForm} (hform : form ≠ .inceptionKey)
    (new : ∀ p, r.peerDid form (chance.uuid a.draws.ids) (chance.uuid (a.draws.ids + 1)) = .ok p →
      a.dids.find? p.did = none) :
    ∃ p a' record, r.peerDid form (chance.uuid a.draws.ids) (chance.uuid (a.draws.ids + 1)) = .ok p ∧
      p.Made r ∧ (createPeerDid r form).run a = (.ok p, a') ∧ record.Of .created p r ∧
      Gains a a' 2 [record] := by
  obtain ⟨p, record, hp, made, isOf, run⟩ := createPeerDid_eq h hform a
  let a₁ : Agent := { a with draws := { a.draws with ids := a.draws.ids + 1 + 1 } }
  obtain ⟨a', hsave, gains⟩ := saveNewDid_run (a := a₁) record (by
    rw [isOf.did]
    exact new p hp)
  refine ⟨p, a', record, hp, made, ?_, isOf, ⟨gains.settings, gains.wallet, gains.connections,
    gains.ids, gains.seeds, gains.dids⟩⟩
  rw [run, Step.bind_ok hsave]
  rfl

/-- The attachment of a DID gives its document to whoever knows the signer. -/
theorem attachmentFor_run (lawful : suite.Lawful) (h : p.Made r) {signer : Key}
    (signs : signer.kind = .ed25519) (held : a.wallet.holds signer = true) :
    ∃ attachment a', (attachmentFor p signer).run a = (.ok (some attachment), a') ∧
      Gains a a' 1 [] ∧ attachment.Plain ∧
      ∀ allowed, signer ∈ r.recipientKey :: allowed →
        theirPeerDid p.did (some attachment) allowed = .ok p := by
  obtain ⟨d, hd, tells, -⟩ := h.document
  obtain ⟨form, hform, notKey⟩ := h.form
  obtain ⟨jws, hjws, verified⟩ := SignedDocument.verify_attach lawful signs held tells.ordered
    tells.authentication
  refine ⟨SignedDocument.attach (chance.uuid a.draws.ids) d jws, (drawId.run a).2, ?_,
    ⟨rfl, rfl, rfl, rfl, rfl, (List.append_nil _).symm⟩, ⟨rfl, rfl⟩, fun allowed known => ?_⟩
  · rw [attachmentFor, Step.bind_lift hform, hd]
    cases form with
    | inceptionKey => exact absurd rfl notKey
    | genesisHash => exact Step.bind_ask hjws _
    | hashAndDocument => exact Step.bind_ask hjws _
  · rw [theirPeerDid, verified _ allowed known]
    exact h.ofDidWithDocument hd

end Agent

end Pairwise
