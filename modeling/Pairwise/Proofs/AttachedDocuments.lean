import Mathlib.Data.List.Find
import Pairwise.Proofs.Acceptance
import Pairwise.Proofs.ExchangeRuns
/-!
# Documents that come as attachments

A DID that does not tell its document comes with the document as a signed attachment, and it is this
document that the agent goes by, but for its names. A DID that tells its document keeps its own, whatever
is attached to it. The signatures were checked before the document got its new names; so a signer is known
by the document under these, too, unless the names had a part in what its references name.

Results:
* `PeerDid.ofDidWithDocument_eq_ok`: which document a DID is joined with.
* `Document.NamesAlike`, `authenticationKeys_alike`: when new names leave the keys of a document as they
  were.
* `Document.Settles`: what the document is that an agent goes by, and who has signed it.
* `attached_document_settles`: it is so whenever a DID with an attachment was taken in.
-/
namespace Pairwise

/-! ## The document that a DID is joined with -/

namespace PeerDid

variable [Suite] {did : String} {p : PeerDid}

/-- A DID that tells its document keeps it; any other gets the document that came with it, under new
names. -/
theorem ofDidWithDocument_eq_ok {e : Document} (h : ofDidWithDocument did e = .ok p) :
    (isDerivable did = true → ofDid did = .ok p) ∧
      (isDerivable did = false → ∃ d, p.document = some d ∧ stripped d = stripped e) := by
  obtain ⟨q, read, h⟩ := Outcome.bind_eq_ok.mp h
  obtain ⟨rfl, -⟩ := whole_of_ofDid read
  rw [document_isSome_of_ofDid read] at h
  split at h
  · next derivable =>
    cases h
    exact ⟨fun _ => read, fun needed => absurd derivable (needed ▸ Bool.false_ne_true)⟩
  · next needed =>
    refine ⟨fun derivable => absurd derivable needed, fun _ => ?_⟩
    obtain ⟨f, hf, h⟩ := Outcome.bind_eq_ok.mp h
    obtain ⟨expected, made, h⟩ := Outcome.bind_eq_ok.mp h
    split at h
    · cases h
      exact stripped_of_ofDocument (notKey_of_needed hf (Bool.eq_false_iff.mpr needed)) made
    · cases h

/-- Whatever a DID is joined with, it comes with a document. -/
theorem document_of_ofDidWithDocument {e : Document} (h : ofDidWithDocument did e = .ok p) :
    ∃ d, p.document = some d := by
  obtain ⟨told, attached⟩ := ofDidWithDocument_eq_ok h
  cases derivable : isDerivable did with
  | true =>
    refine Option.isSome_iff_exists.mp ?_
    rw [document_isSome_of_ofDid (told derivable), derivable]
  | false =>
    obtain ⟨d, hd, -⟩ := attached derivable
    exact ⟨d, hd⟩

end PeerDid

/-! ## Keys under new names -/

namespace Document

variable {d e : Document} {keys : List Key}

/-- The authentication entries name the same methods under the names of either document. -/
def NamesAlike (d e : Document) : Prop :=
  ∀ id, .reference id ∈ e.authentication → ∀ m ∈ e.verificationMethod,
    (d.relative m.id = d.relative id ↔ e.relative m.id = e.relative id)

/-- Entries that bring their methods along refer to none. -/
theorem namesAlike_of_embedded (embedded : ∀ id, .reference id ∉ e.authentication) : d.NamesAlike e :=
  fun id mem => absurd mem (embedded id)

/-- A reference that starts with no name of the document stays as it is. -/
theorem relative_eq_self {reference : String}
    (foreign : ∀ name ∈ d.names, Text.startsWith name reference = false) :
    d.relative reference = reference := by
  have unnamed (name : String) (mem : name ∈ d.names) : Text.after? name reference = none := by
    have none := foreign name mem
    rwa [Text.startsWith, Option.isSome_eq_false_iff, Option.isNone_iff_eq_none] at none
  rw [relative, List.findSome?_eq_none_iff.mpr fun name mem => by rw [unnamed name mem]]
  rfl

theorem method_eq_ok_of_single {m m' : VerificationMethod} (only : d.verificationMethod = [m])
    {reference : String} :
    d.method reference = .ok m' ↔ d.relative m.id = d.relative reference ∧ m = m' := by
  rw [method, only, List.find?_singleton]
  by_cases same : d.relative m.id = d.relative reference
  · simp [same]
  · simp [same]

/-- An entry that names nothing leaves a document without authentication keys. -/
theorem authenticationKeys_ne_ok_of_single {m : VerificationMethod} (only : d.verificationMethod = [m])
    {id : String} (entry : d.authentication = [.reference id]) (apart : d.relative m.id ≠ d.relative id) :
    d.authenticationKeys ≠ .ok keys := by
  intro read
  rw [authenticationKeys, entry] at read
  cases Outcome.mapM_eq_ok.mp read with
  | cons first _ =>
    obtain ⟨m', named, -⟩ := Outcome.bind_eq_ok.mp first
    exact apart ((method_eq_ok_of_single only).mp named).1

/-- Names are no part of the authentication entries. -/
theorem authentication_of_stripped (same : PeerDid.stripped d = PeerDid.stripped e) :
    d.authentication = e.authentication := by
  change (PeerDid.stripped d).authentication = _
  rw [same]
  rfl

/-- New names of a document leave its authentication keys as they were, if its entries name the same
methods under them. -/
theorem authenticationKeys_alike (same : PeerDid.stripped d = PeerDid.stripped e) (alike : d.NamesAlike e)
    (read : e.authenticationKeys = .ok keys) : d.authenticationKeys = .ok keys := by
  have methods : d.verificationMethod = e.verificationMethod := by
    change (PeerDid.stripped d).verificationMethod = _
    rw [same]
    rfl
  rw [authenticationKeys, authentication_of_stripped same]
  refine Outcome.mapM_eq_ok_of (fun entry mem k h => ?_) read
  cases entry with
  | embedded m => exact h
  | reference id =>
    obtain ⟨m, found, h⟩ := Outcome.bind_eq_ok.mp h
    refine Outcome.bind_eq_ok.mpr ⟨m, ?_, h⟩
    have find : d.verificationMethod.find? (fun m => d.relative m.id = d.relative id)
        = e.verificationMethod.find? (fun m => e.relative m.id = e.relative id) := by
      rw [methods]
      exact List.find?_congr fun m there => decide_eq_decide.mpr (alike id mem m there)
    unfold method at found ⊢
    rw [find]
    split at found
    · exact found
    · cases found

end Document

/-- A DID of form 1 is no part of a reference without a colon. -/
theorem PeerDid.relative_ofGenesis (e : Document) {reference : String} (bare : ':' ∉ reference.toList) :
    ({ stripped e with id := (ofGenesis e).did } : Document).relative reference = reference := by
  refine Document.relative_eq_self fun name mem => ?_
  obtain rfl : name = (ofGenesis e).did := List.mem_singleton.mp (List.mem_filter.mp mem).1
  have colon : ':' ∈ (ofGenesis e).did.toList := by
    rw [ofGenesis, String.append_assoc, String.toList_append]
    exact List.mem_append_left _ (by decide)
  exact Text.startsWith_eq_false colon bare

/-! ## What an attachment settles -/

section Suites

variable [Suite]

/-- The document of a routing brings its authentication methods along. -/
theorem Routing.peerDid_embedded {r : Routing} {form : PeerForm} (notKey : form ≠ .inceptionKey)
    {authenticationId agreementId : String} {p : PeerDid} {d : Document}
    (hp : r.peerDid form authenticationId agreementId = .ok p) (hd : p.document = some d) (id : String) :
    .reference id ∉ d.authentication := by
  obtain ⟨agreement, -, hp⟩ := Outcome.bind_eq_ok.mp hp
  obtain ⟨told, htold, hp⟩ := Outcome.bind_eq_ok.mp hp
  obtain ⟨d', hd', same⟩ := PeerDid.stripped_of_ofDocument notKey hp
  obtain rfl : d' = d := Option.some.inj (hd'.symm.trans hd)
  obtain ⟨services, -, made⟩ := Outcome.bind_eq_ok.mp htold
  cases made
  rw [Document.authentication_of_stripped same]
  simp

/-- Every signature of the attachment stands under a key that is an authentication key of the document
or one of the allowed keys. -/
def SignedDocument.SignedFor (a : Attachment) (allowed : List Key) (d : Document) : Prop :=
  ∃ jws payload keys, a.data.jws = some jws ∧ a.data.base64 = some payload ∧
    d.authenticationKeys = .ok keys ∧
    ∀ s ∈ jws.signatures, ∃ key, Stands payload s key ∧ (key ∈ keys ∨ key ∈ allowed)

/-- The document is the one to go by for a DID that came with an attachment. The DID commits to it. If it
follows from the DID, then it is that one; otherwise it is the attached one but for its names. Keys of the
attached document or allowed ones have signed that, and so have keys of the document to go by, if the names
have no part in what its entries name. -/
structure Document.Settles (d : Document) (did : String) (attachment : Attachment)
    (allowed : List Key) : Prop where
  commits : PeerDid.Commits did d
  told : PeerDid.isDerivable did = true → PeerDid.ofDid did = .ok ⟨did, some d⟩
  attached : ∃ e, SignedDocument.verify attachment allowed = .ok e ∧
    SignedDocument.SignedFor attachment allowed e ∧
    (PeerDid.isDerivable did = false → PeerDid.stripped d = PeerDid.stripped e ∧
      (d.NamesAlike e → SignedDocument.SignedFor attachment allowed d))

namespace Agent

variable {did : String} {attachment : Attachment} {allowed : List Key} {p : PeerDid} {d : Document}

/-- The document that a DID with an attachment is known with is the one to go by. -/
theorem theirPeerDid_settles (h : theirPeerDid did (some attachment) allowed = .ok p)
    (hd : p.document = some d) : d.Settles did attachment allowed := by
  obtain ⟨whole, named⟩ := theirPeerDid_whole h hd
  obtain ⟨e, verified, joined⟩ := Outcome.bind_eq_ok.mp h
  obtain ⟨told, attached⟩ := PeerDid.ofDidWithDocument_eq_ok joined
  obtain ⟨jws, payload, keys, signed, text, -, read, stands⟩ := SignedDocument.verify_eq_ok.mp verified
  have signers : ∀ s ∈ jws.signatures, ∃ key, SignedDocument.Stands payload s key ∧
      (key ∈ keys ∨ key ∈ allowed) := by
    simpa only [List.mem_append] using stands
  refine ⟨whole.commits named, fun derivable => ?_, e, verified,
    ⟨jws, payload, keys, signed, text, read, signers⟩, fun needed => ?_⟩
  · obtain ⟨rfl, -⟩ := PeerDid.whole_of_ofDid (told derivable)
    rw [told derivable, ← hd]
  · obtain ⟨d', hd', same⟩ := attached needed
    obtain rfl : d' = d := Option.some.inj (hd'.symm.trans hd)
    refine ⟨same, fun alike => ?_⟩
    exact ⟨jws, payload, keys, signed, text, Document.authenticationKeys_alike same alike read, signers⟩

variable [Chance]

/-- A counterparty's DID that comes with an attachment is known with the document to go by for it. Once a
request or a response has told it, the connection goes by the DID, and it is stored with that document;
or it was stored before, and then with a document that it commits to, if all stored DIDs are bound to
theirs. -/
theorem attached_document_settles (did : String) (attachment : Attachment) (allowed : List Key) :
    (∀ p, theirPeerDid did (some attachment) allowed = .ok p →
      ∃ d, p.document = some d ∧ d.Settles did attachment allowed) ∧
    ∀ (a a' : Agent) (c' : Connection), a.Exchanges did (some attachment) allowed c' a' →
      c'.theirDid = some did ∧ ∃ d record, Document.Settles d did attachment allowed ∧
        a'.dids.find? did = some record ∧
        (record.document = some d ∨ a.dids.find? did = some record ∧
          (PeerDid.isDerivable did = false → (∀ r ∈ a.dids.records, r.Bound) →
            ∃ d', record.document = some d' ∧ PeerDid.Commits did d')) := by
  refine ⟨fun p told => ?_, fun a a' c' exchanged => ?_⟩
  · obtain ⟨e, -, joined⟩ := Outcome.bind_eq_ok.mp told
    obtain ⟨d, hd⟩ := PeerDid.document_of_ofDidWithDocument joined
    exact ⟨d, hd, theirPeerDid_settles told hd⟩
  · obtain ⟨goes, d, ⟨p, told, hd⟩, -, ⟨record, found, stored⟩, -⟩ := exchanged.learns
    refine ⟨goes, d, record, theirPeerDid_settles told hd, found, ?_⟩
    refine stored.imp_right fun before => ⟨before, fun needed bound => ?_⟩
    obtain ⟨mem, rfl⟩ := Store.find?_eq_some.mp before
    obtain ⟨q, read, -⟩ := theirPeerDid_read told
    obtain ⟨form, hform⟩ := PeerDid.form_of_ofDid read
    exact (bound record mem).commits List.mem_cons_self hform (PeerDid.notKey_of_needed hform needed)

end Agent

end Suites

/-! ## Attachments that are not used as they were signed -/

section Plain

attribute [local instance] Suite.plain Chance.counting

namespace Agent

/-- Whoever holds the key of an authentication entry can sign a document. -/
theorem plain_attachment {e : Document} (ordered : e.Ordered)
    (read : e.authenticationKeys = .ok [Wallet.keyOf [1]]) :
    ∃ attachment, SignedDocument.verify attachment [] = .ok e := by
  obtain ⟨jws, -, verified⟩ := SignedDocument.verify_attach Suite.plain_lawful (k := Wallet.keyOf [1])
    rfl (Wallet.holds_add_self {} [1]) ordered read
  exact ⟨_, verified "attachment" [] List.mem_cons_self⟩

/-- An agent takes in a request whose DID does not tell its document. Whoever signed the document is
known by the one that is used. -/
theorem attached_document_settles_plain : ∃ (a a' : Agent) (c' : Connection) (p : PeerDid)
    (attachment : Attachment) (d : Document), PeerDid.isDerivable p.did = false ∧
    theirPeerDid p.did (some attachment) [] = .ok p ∧
    a.Exchanges p.did (some attachment) [] c' a' ∧ c'.theirDid = some p.did ∧
    p.document = some d ∧ d.Settles p.did attachment [] ∧
    SignedDocument.SignedFor attachment [] d := by
  have form : PeerForm.genesisHash ≠ .inceptionKey := nofun
  let r := Routing.plain [1] []
  let own : Agent := plain .genesisHash [1]
  have host : Host own r := plain_host form [1] []
  obtain ⟨p, hp, made⟩ := Routing.peerDid_made host.sound form "1" "2"
  obtain ⟨attachment, _, -, -, -, told⟩ := attachmentFor_run (a := own) Suite.plain_lawful made
    (show r.recipientKey.kind = .ed25519 from rfl) host.held
  let i := invitationOf (.plain [2] []) "invitation" "Alice"
  let c : Connection := {
    id := "connection", createdAt := .epoch, role := .responder, state := .invitationSent
    invitation := some i }
  let a : Agent := { plain .genesisHash [2] with connections := ⟨[c], List.nodup_singleton _⟩ }
  let m := Request.telling "request" "Bob" i.id p.did {} attachment
  have known : theirPeerDid p.did (some attachment) [] = .ok p := told [] List.mem_cons_self
  have answers : Answers a c m p r := ⟨rfl, rfl, ⟨rfl, rfl⟩, rfl, made, known, rfl⟩
  obtain ⟨a', record, taken, -⟩ := processRequest_run answers
    (show a.connections.records = [] ++ [c] from rfl) rfl
  have exchanged : a.Exchanges p.did (some attachment) [] _ a' := .request taken
  have derivable : PeerDid.isDerivable p.did = false := by
    rw [PeerDid.isDerivable, Routing.form_peerDid form hp]
  obtain ⟨first, second⟩ := attached_document_settles p.did attachment []
  obtain ⟨d, hd, settles⟩ := first p known
  obtain ⟨e, -, -, used⟩ := settles.attached
  obtain ⟨same, signed⟩ := used derivable
  have alike : d.NamesAlike e := by
    refine Document.namesAlike_of_embedded fun id => ?_
    rw [← Document.authentication_of_stripped same]
    exact Routing.peerDid_embedded form hp hd id
  exact ⟨a, a', _, p, attachment, d, derivable, known, exchanged,
    (second a a' _ exchanged).1, hd, settles, signed alike⟩

/-- It is not so that a DID that comes with an attachment is known with the attached document, nor that
the signers of an attached document are known by the document that is used. -/
theorem attachment_not_used :
    (¬ ∀ did attachment allowed p d e, theirPeerDid did (some attachment) allowed = .ok p →
      SignedDocument.verify attachment allowed = .ok e → p.document = some d →
      PeerDid.stripped d = PeerDid.stripped e) ∧
    ¬ ∀ did attachment allowed p d, theirPeerDid did (some attachment) allowed = .ok p →
      PeerDid.isDerivable did = false → p.document = some d →
      SignedDocument.SignedFor attachment allowed d := by
  have sized : (Wallet.keyOf [1]).Sized := (Key.usable_keyOf Suite.plain_lawful [1]).sized
  have key (id controller : String) := Document.toKey_ofKey id controller sized
  refine ⟨fun used => ?_, fun signed => ?_⟩
  · -- a DID that tells an empty document comes with a document that names a key
    let m := VerificationMethod.ofKey "#1" "#id" (Wallet.keyOf [1])
    let e : Document := { authentication := [.embedded m] }
    have read : e.authenticationKeys = .ok [Wallet.keyOf [1]] :=
      Outcome.mapM_eq_ok.mpr (.cons (key "#1" "#id") .nil)
    obtain ⟨attachment, verified⟩ := plain_attachment (e := e) (List.forall_mem_nil _) read
    have told : theirPeerDid (PeerDid.ofHashAndDocument {}).did (some attachment) []
        = .ok (PeerDid.ofHashAndDocument {}) :=
      Outcome.bind_eq_ok.mpr ⟨e, verified,
        PeerDid.ofDidWithDocument_ofHashAndDocument (d := {}) (List.forall_mem_nil _) e⟩
    have same := used _ attachment [] _ _ e told verified rfl
    cases congrArg Document.authentication same
  · -- the attached document has a method under its own name, and a reference to it without that
    let m := VerificationMethod.ofKey "x#1" "x" (Wallet.keyOf [1])
    let e : Document := { id := "x", verificationMethod := [m], authentication := [.reference "#1"] }
    have named : e.method "#1" = .ok m :=
      (Document.method_eq_ok_of_single (d := e) rfl).mpr ⟨by decide, rfl⟩
    have read : e.authenticationKeys = .ok [Wallet.keyOf [1]] :=
      Outcome.mapM_eq_ok.mpr (.cons (Outcome.bind_eq_ok.mpr ⟨m, named, key "x#1" "x"⟩) .nil)
    obtain ⟨attachment, verified⟩ := plain_attachment (e := e) (List.forall_mem_nil _) read
    have told : theirPeerDid (PeerDid.ofGenesis e).did (some attachment) []
        = .ok (PeerDid.ofGenesis e) :=
      Outcome.bind_eq_ok.mpr ⟨e, verified, PeerDid.ofDidWithDocument_ofGenesis rfl⟩
    let d : Document := { PeerDid.stripped e with id := (PeerDid.ofGenesis e).did }
    obtain ⟨-, -, keys, -, -, read', -⟩ := signed _ attachment [] _ d told
      (PeerDid.isDerivable_ofGenesis e) rfl
    -- under the DID they are different
    have apart : d.relative "x#1" ≠ d.relative "#1" := by
      rw [PeerDid.relative_ofGenesis e (by decide), PeerDid.relative_ofGenesis e (by decide)]
      decide
    exact Document.authenticationKeys_ne_ok_of_single (d := d) rfl rfl apart read'

end Agent

end Plain

end Pairwise
