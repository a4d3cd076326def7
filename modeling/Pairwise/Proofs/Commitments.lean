import Pairwise.Proofs.PeerDids
/-!
# The document that a DID commits to

A peer DID of form 1 or form 4 can have one document only: the hash in it is that of the document. So it
does not matter where the document comes from, as long as it was compared with the DID once.

Results:
* `PeerDid.Commits`: what a document has to be for a DID to resolve to it.
* `PeerDid.Whole`: a peer DID that is known with its own document; `Whole.commits` says that all its
  names commit to it.
* `whole_of_ofDocument`, `whole_of_ofDid`, `whole_of_ofDidWithDocument`: whole peer DIDs are all that is
  ever made, read, or put together.
-/
namespace Pairwise

namespace PeerDid

/-- The one DID is the short form of the other. -/
def IsShortOf (short long : String) : Prop :=
  ∃ hash encoded, longParts? long = some (hash, encoded) ∧ short = hashScheme ++ hash

/-- All DIDs of the same document. -/
def names (p : PeerDid) : List String := p.did :: p.alternatives

theorem alternatives_eq_nil {p : PeerDid} (h : longParts? p.did = none) : p.alternatives = [] := by
  rw [alternatives, h]

theorem alternatives_eq_singleton {p : PeerDid} {hash encoded : String}
    (h : longParts? p.did = some (hash, encoded)) : p.alternatives = [hashScheme ++ hash] := by
  rw [alternatives, h]

/-- The DID that an identifier is compared with has the document, too. -/
theorem shortForm_mem_names (p : PeerDid) : p.shortForm?.getD p.did ∈ p.names := by
  rw [names, shortForm?]
  split
  · next long =>
    rw [alternatives_eq_singleton long]
    exact List.mem_cons_of_mem _ List.mem_cons_self
  · split <;> exact List.mem_cons_self

variable [Suite]

/-- The DID commits to the document: the document has the DID for its own, or a long form of it. A hash
of form 1 is that of the document, and in form 4 the document is in the long form. -/
structure Commits (did : String) (d : Document) : Prop where
  id : d.id = did ∨ IsShortOf did d.id
  genesis : form did = .ok .genesisHash → ∃ p, ofDocument d .genesisHash = .ok p ∧ p.did = did
  hashed : form did = .ok .hashAndDocument → ofDid d.id = .ok ⟨d.id, some d⟩

/-- What stands behind a DID that is known with its document. -/
inductive Source (p : PeerDid) : Prop
  | key {rest : List Char} (text : p.did.toList = scheme.toList ++ '0' :: rest)
  | genesis {d : Document} (made : p = ofGenesis d)
  | long (tells : (longParts? p.did).isSome = true) (read : ofDid p.did = .ok p)

/-- The peer DID is known with the document that it commits to. -/
structure Whole (p : PeerDid) (d : Document) : Prop where
  document : p.document = some d
  id : d.id = p.did
  source : p.Source

/-! ## The names of a document -/

omit [Suite] in
/-- A key has one name. -/
theorem names_of_key {p : PeerDid} {rest : List Char}
    (text : p.did.toList = scheme.toList ++ '0' :: rest) : p.names = [p.did] := by
  have short : longParts? p.did = none := by
    rw [longParts?, Text.after?, text]
    rfl
  rw [names, alternatives_eq_nil short]

/-- All names of a whole peer DID commit to its document. -/
theorem Whole.commits {p : PeerDid} {d : Document} (h : p.Whole d) {did : String}
    (mem : did ∈ p.names) : Commits did d := by
  cases h.source with
  | key text =>
    rw [names_of_key text] at mem
    obtain rfl := List.mem_singleton.mp mem
    have key {f : PeerForm} (form : form p.did = .ok f) : f = .inceptionKey :=
      form_of_digit (g := .inceptionKey) form text
    exact ⟨.inl h.id, fun form => (nomatch key form), fun form => (nomatch key form)⟩
  | @genesis e made =>
    rw [made, names, alternatives_ofGenesis] at mem
    obtain rfl := List.mem_singleton.mp mem
    have same : stripped d = stripped e := by
      have document := h.document
      rw [made] at document
      cases document
      rfl
    refine ⟨.inl (made ▸ h.id), fun _ => ⟨_, rfl, ofGenesis_congr same⟩, fun form => ?_⟩
    cases (form_ofGenesis e).symm.trans form
  | long tells read =>
    obtain ⟨⟨hash, encoded⟩, long⟩ := Option.isSome_iff_exists.mp tells
    rw [names, alternatives_eq_singleton long] at mem
    have told : ofDid d.id = .ok ⟨d.id, some d⟩ := by
      rw [h.id, read, ← h.document]
    rcases List.mem_pair.mp mem with rfl | rfl
    · exact ⟨.inl h.id, fun form => (nomatch form_of_longParts? form tells), fun _ => told⟩
    · have text : (hashScheme ++ hash).toList = scheme.toList ++ '4' :: hash.toList := by
        rw [String.toList_append, hashScheme, String.toList_append, List.append_assoc]
        rfl
      have hashed {f : PeerForm} (form : form (hashScheme ++ hash) = .ok f) : f = .hashAndDocument :=
        form_of_digit (g := .hashAndDocument) form text
      exact ⟨.inr ⟨hash, encoded, by rw [h.id, long], rfl⟩, fun form => (nomatch hashed form),
        fun _ => told⟩

/-! ## Where whole peer DIDs come from -/

theorem whole_of_ofKey {key : Key} {p : PeerDid} {d : Document} (h : ofKey key = .ok p)
    (hd : p.document = some d) : p.Whole d := by
  refine ⟨hd, ?_, .key (toList_ofKey h)⟩
  obtain ⟨document, made, e⟩ := Outcome.bind_eq_ok.mp h
  cases e
  cases hd
  exact (Key.document_ok made).1

theorem whole_of_ofDocument {d : Document} (ordered : d.Ordered) {form : PeerForm} {p : PeerDid}
    {derived : Document} (h : ofDocument d form = .ok p) (hd : p.document = some derived) :
    p.Whole derived := by
  cases form with
  | inceptionKey =>
    obtain ⟨keys, -, h⟩ := Outcome.bind_eq_ok.mp h
    cases keys with
    | nil => cases h
    | cons key keys => exact whole_of_ofKey h hd
  | genesisHash =>
    cases h
    cases hd
    exact ⟨rfl, rfl, .genesis rfl⟩
  | hashAndDocument =>
    cases h
    cases hd
    refine ⟨rfl, rfl, .long ?_ (ofDid_ofHashAndDocument ordered)⟩
    rw [longParts?_ofHashAndDocument]
    rfl

/-- A DID is read as it stands, and whole if it tells its document. -/
theorem whole_of_ofDid {did : String} {p : PeerDid} (h : ofDid did = .ok p) :
    p.did = did ∧ ∀ d, p.document = some d → p.Whole d := by
  have told := h
  unfold ofDid at h
  split at h
  · cases h
  · split at h
    · cases h
    obtain ⟨peer, made, same⟩ := Outcome.bind_eq_ok.mp h
    split at same
    · next did_eq =>
      cases same
      exact ⟨did_eq, fun d hd => whole_of_ofKey made hd⟩
    · cases same
  · split at h
    · cases h
    · split at h
      · cases h
      · cases h
        exact ⟨rfl, nofun⟩
  · split at h
    · cases h
      exact ⟨rfl, nofun⟩
    next hash encoded long =>
    split at h
    · cases h
    · cases h
      refine ⟨rfl, fun d hd => ?_⟩
      cases hd
      exact ⟨rfl, rfl, .long (by rw [long]; rfl) told⟩

/-- A DID that is put together with a document is one of the names of a whole one. -/
theorem whole_of_ofDidWithDocument {did : String} {d e : Document} (ordered : e.Ordered) {p : PeerDid}
    (h : ofDidWithDocument did e = .ok p) (hd : p.document = some d) :
    p.Whole d ∧ did ∈ p.names := by
  obtain ⟨peer, read, h⟩ := Outcome.bind_eq_ok.mp h
  obtain ⟨rfl, whole⟩ := whole_of_ofDid read
  split at h
  · cases h
    exact ⟨whole d hd, List.mem_cons_self⟩
  obtain ⟨form, -, h⟩ := Outcome.bind_eq_ok.mp h
  obtain ⟨expected, made, h⟩ := Outcome.bind_eq_ok.mp h
  split at h
  · next same =>
    cases h
    exact ⟨whole_of_ofDocument ordered made hd, same ▸ shortForm_mem_names p⟩
  · cases h

end PeerDid

end Pairwise
