import Pairwise.Did.Record
import Pairwise.Message.SignedDocument
import Pairwise.Proofs.PeerDids
import Pairwise.Proofs.RoutingDocuments
import Pairwise.Proofs.Stores
/-!
# Peer DIDs that tell a routing

A peer DID that is made of a document for a routing is taken in by whoever gets the document with it,
and resolves to a document that tells the routing wherever it was taken in.

Results:
* `PeerDid.Made`: the peer DIDs of a routing, of form 1 or form 4.
* `Made.ofDidWithDocument`: such a DID joins with its document.
* `Made.resolve`: it is resolved if it tells its document, and by a store that has it with that.
-/
namespace Pairwise

namespace PeerDid

/-- The peer DID was made, in form 1 or form 4, of a document that tells the routing. -/
def Made (p : PeerDid) (r : Routing) : Prop :=
  ∃ d : Document, (∀ id alsoKnownAs, ({ d with id, alsoKnownAs } : Document).Tells r) ∧
    (p = ofGenesis d ∨ p = ofHashAndDocument d)

namespace Made

variable {p : PeerDid} {r : Routing}

theorem document (h : p.Made r) : ∃ d, p.document = some d ∧ d.Tells r ∧ d.id = p.did := by
  obtain ⟨d, tells, rfl | rfl⟩ := h
  · exact ⟨_, rfl, tells _ _, rfl⟩
  · exact ⟨_, rfl, tells _ _, rfl⟩

/-- A DID of form 1 or form 4 is no key. -/
theorem form (h : p.Made r) : ∃ f, PeerDid.form p.did = .ok f ∧ f ≠ .inceptionKey := by
  obtain ⟨d, -, rfl | rfl⟩ := h
  · exact ⟨_, form_ofGenesis d, nofun⟩
  · exact ⟨_, form_ofHashAndDocument d, nofun⟩

theorem scheme (h : p.Made r) : ∃ rest, p.did = PeerDid.scheme ++ rest := by
  obtain ⟨d, -, rfl | rfl⟩ := h
  · exact ⟨_, by rw [ofGenesis, String.append_assoc]⟩
  · exact ⟨_, by rw [did_ofHashAndDocument, hashScheme, String.append_assoc]⟩

variable [Suite]

/-- The DID joins with its own document. -/
theorem ofDidWithDocument (h : p.Made r) {d : Document} (hd : p.document = some d) :
    PeerDid.ofDidWithDocument p.did d = .ok p := by
  obtain ⟨d', tells, rfl | rfl⟩ := h
  · cases hd
    exact ofDidWithDocument_ofGenesis rfl
  · have ordered : d'.Ordered := (tells d'.id d'.alsoKnownAs).ordered
    exact ofDidWithDocument_ofHashAndDocument ordered d

/-- The DID is read, with its document if it tells that. -/
theorem ofDid (h : p.Made r) :
    isDerivable p.did = false ∧ PeerDid.ofDid p.did = .ok ⟨p.did, none⟩ ∨
      isDerivable p.did = true ∧ PeerDid.ofDid p.did = .ok p := by
  obtain ⟨d, tells, rfl | rfl⟩ := h
  · exact .inl ⟨isDerivable_ofGenesis d, ofDid_ofGenesis d⟩
  · have ordered : d.Ordered := (tells d.id d.alsoKnownAs).ordered
    exact .inr ⟨isDerivable_ofHashAndDocument d, ofDid_ofHashAndDocument ordered⟩

end Made

end PeerDid

/-- The store has the peer DID with its document. -/
def Store.Knows (dids : Store DidRecord) (p : PeerDid) : Prop :=
  ∃ record, dids.find? p.did = some record ∧ record.document = p.document

/-- The DID tells its document, or the store has it. -/
def Store.Resolves (dids : Store DidRecord) (p : PeerDid) : Prop :=
  PeerDid.isDerivable p.did = true ∨ dids.Knows p

/-! ## Resolving -/

namespace Did

variable [Suite] {did : String} {p : PeerDid} {d : Document}

/-- A peer DID that can be read resolves to the document that it tells, or else to the one it is stored
with. -/
theorem resolve_of_read (read : PeerDid.ofDid did = .ok p) (dids : Store DidRecord)
    (has : (if PeerDid.isDerivable did then p.document else stored? dids did) = some d) :
    resolve dids did = .ok d := by
  obtain ⟨form, hform⟩ := PeerDid.form_of_ofDid read
  have peer := PeerDid.startsWith_of_form hform
  rw [resolve, PeerDid.startsWith_keyScheme peer, peer]
  refine Outcome.bind_eq_ok.mpr ⟨p, read, ?_⟩
  simp only [has]
  rfl

theorem resolve_told (read : PeerDid.ofDid did = .ok ⟨did, some d⟩) (dids : Store DidRecord) :
    resolve dids did = .ok d :=
  resolve_of_read read dids (if_pos (PeerDid.document_isSome_of_ofDid read).symm)

theorem resolve_stored (read : PeerDid.ofDid did = .ok p) (needed : PeerDid.isDerivable did = false)
    {dids : Store DidRecord} {record : DidRecord} (found : dids.find? did = some record)
    (document : record.document = some d) : resolve dids did = .ok d := by
  refine resolve_of_read read dids ?_
  rw [needed, stored?, found]
  exact document

end Did

namespace PeerDid.Made

variable [Suite] {p : PeerDid} {r : Routing}

/-- The DID resolves to its document. -/
theorem resolve (h : p.Made r) {dids : Store DidRecord} (resolves : dids.Resolves p) :
    ∃ d, Did.resolve dids p.did = .ok d ∧ d.Tells r ∧ p.document = some d := by
  obtain ⟨d, hd, tells, -⟩ := h.document
  refine ⟨d, ?_, tells, hd⟩
  rcases h.ofDid with ⟨needed, read⟩ | ⟨-, read⟩
  · rcases resolves with derivable | ⟨record, found, same⟩
    · cases needed.symm.trans derivable
    · exact Did.resolve_stored read needed found (same.trans hd)
  · exact Did.resolve_told (read.trans (by rw [← hd])) dids

end PeerDid.Made

end Pairwise
