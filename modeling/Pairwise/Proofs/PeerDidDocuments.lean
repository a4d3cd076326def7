import Pairwise.Proofs.Commitments
import Pairwise.Proofs.PeerDidCodec
import Pairwise.Proofs.ToldDids
/-!
# The one document of a peer DID

A peer DID has one document, whichever way it is asked for. If the DID tells the document, it is the same
for whoever reads the DID and for every store, whatever is stored under the DID. If the DID tells a hash
only, it joins with the document that it was made of under any names, and with no other one, as long as
the hashes of different documents differ.

Results:
* `formAt?_eq`, `goesOnAt_of_parts?`: the positions at which a DID is read lie inside of it.
* `documents_agree`: reading a DID and resolving it come to one document.
* `ofDidWithDocument_hashDid`: what a hash is joined with is decided by the hash of the document.
* `hash_pins_document`: only the document that a hash was made of joins with it.
-/
namespace Pairwise

open Json

/-! ## Positions in texts -/

/-- From the byte at a position on, a text goes on with another one. The position is that of a character,
or the end of the text. -/
def Text.GoesOnAt (position : Nat) (s rest : String) : Prop :=
  ∃ front, s = front ++ rest ∧ (Utf8.ofString front).length = position

namespace PeerDid

/-- The form of a DID by its tenth byte, less the byte of the digit zero. There is none if the text has
no such byte, or a lesser one than that of the digit. -/
def formAt? (did : String) : Option (Except Error PeerForm) :=
  if isValid did then do
    let byte ← (Utf8.ofString did)[9]?
    if byte.toNat < '0'.toNat then none
    else match PeerForm.ofNumber? (byte.toNat - '0'.toNat) with
      | some f => some (.ok f)
      | none => some (.error (.malformedDid did))
  else some (.error (.malformedDid did))

/-- A DID is read inside of its text: the byte that tells the form is there, and so is the identifier
behind it. -/
structure ReadInside (did : String) : Prop where
  form : formAt? did = some (form did)
  identifier : ∀ f body, parts? did = some (f, body) → Text.GoesOnAt 10 did (String.ofList body)

variable {did : String}

/-- The byte of a form's digit stands behind the scheme. -/
theorem byte_of_parts? {f : PeerForm} {body : List Char} (h : parts? did = some (f, body)) :
    (Utf8.ofString did)[9]? = some (UInt8.ofNat ('0'.toNat + f.number)) := by
  rw [Utf8.ofString, (parts?_eq_some.mp h).1]
  cases f <;> rfl

theorem formAt?_eq (did : String) : formAt? did = some (form did) := by
  rw [formAt?, isValid, form]
  cases h : parts? did with
  | none => rfl
  | some part =>
    obtain ⟨f, body⟩ := part
    rw [byte_of_parts? h]
    cases f <;> rfl

theorem goesOnAt_of_parts? {f : PeerForm} {body : List Char} (h : parts? did = some (f, body)) :
    Text.GoesOnAt 10 did (String.ofList body) := by
  refine ⟨scheme ++ String.singleton f.number.digitChar, ?_, by cases f <;> rfl⟩
  rw [← String.toList_inj, (parts?_eq_some.mp h).1, String.toList_append, String.toList_append,
    String.toList_singleton, String.toList_ofList, List.append_assoc, List.singleton_append]

/-! ## DIDs that tell their document -/

theorem form_of_isDerivable (h : isDerivable did = true) : ∃ f, form did = .ok f := by
  unfold isDerivable at h
  split at h
  · next form => exact ⟨_, form⟩
  · next form => exact ⟨_, form⟩
  · cases h

variable [Suite]

/-- A DID that tells its document resolves to that in every store, or to what is wrong with the DID. -/
theorem resolve_of_isDerivable (derivable : isDerivable did = true) :
    (∃ p d, ofDid did = .ok p ∧ p.document = some d ∧
      ∀ dids : Store DidRecord, Did.resolve dids did = .ok d) ∨
    ∃ e, ofDid did = .error e ∧ ∀ dids : Store DidRecord, Did.resolve dids did = .error e := by
  cases read : ofDid did with
  | error e =>
    refine .inr ⟨e, rfl, fun dids => ?_⟩
    obtain ⟨form, hform⟩ := form_of_isDerivable derivable
    have peer := startsWith_of_form hform
    rw [Did.resolve, startsWith_keyScheme peer, peer, read]
    rfl
  | ok p =>
    have told : p.document.isSome = true := (document_isSome_of_ofDid read).trans derivable
    obtain ⟨d, hd⟩ := Option.isSome_iff_exists.mp told
    refine .inl ⟨p, d, rfl, hd, fun dids => Did.resolve_of_read read dids ?_⟩
    rw [if_pos derivable, hd]

/-- A DID is read as it stands, inside of its text. It comes with a document exactly if it tells one, and
that has the DID for its own. What it resolves to is then the document or the error that it is read with,
whatever a store has under it. -/
theorem documents_agree (did : String) :
    (∀ p, ofDid did = .ok p → p.did = did ∧ (p.document.isSome = true ↔ isDerivable did = true) ∧
      ∀ d, p.document = some d → d.id = did) ∧
    (isDerivable did = true →
      (∃ p d, ofDid did = .ok p ∧ p.document = some d ∧
        ∀ dids : Store DidRecord, Did.resolve dids did = .ok d) ∨
      ∃ e, ofDid did = .error e ∧ ∀ dids : Store DidRecord, Did.resolve dids did = .error e) ∧
    ReadInside did := by
  refine ⟨fun p read => ?_, resolve_of_isDerivable, formAt?_eq did, fun f body => goesOnAt_of_parts?⟩
  obtain ⟨same, whole⟩ := whole_of_ofDid read
  refine ⟨same, ?_, fun d hd => (whole d hd).id.trans same⟩
  rw [document_isSome_of_ofDid read]

end PeerDid

section Plain

attribute [local instance] Suite.plain

/-- A record with another document, stored under the DID of a key, says nothing of the key. -/
theorem PeerDid.documents_agree_plain :
    ∃ (did : String) (d e : Document) (dids : Store DidRecord), isDerivable did = true ∧
      Did.stored? dids did = some e ∧ d ≠ e ∧ ofDid did = .ok ⟨did, some d⟩ ∧ d.id = did ∧
      Did.resolve dids did = .ok d := by
  let key : Key := ⟨List.replicate 32 7, .ed25519⟩
  have sized : key.Sized := List.length_replicate
  obtain ⟨d, made⟩ := ofKey_made sized fun _ => rfl
  have read := ofDid_ofKey sized made
  generalize scheme ++ "0" ++ key.fingerprint = did at made read
  let e : Document := { d with service := ⟨"", "", 0, [], [], "", []⟩ :: d.service }
  have other : d ≠ e := fun same => List.cons_ne_self _ _ (congrArg Document.service same).symm
  let record : DidRecord := ⟨did, .created, some e, Timestamp.epoch, [], [], 0⟩
  let dids : Store DidRecord := ⟨[record], List.nodup_singleton _⟩
  have stored : Did.stored? dids did = some e := by
    have found : dids.find? did = some record := List.find?_cons_of_pos (decide_eq_true rfl)
    rw [Did.stored?, found]
    rfl
  obtain ⟨whole, told, -⟩ := documents_agree did
  obtain ⟨-, tells, named⟩ := whole _ read
  have derivable := tells.mp rfl
  refine ⟨did, d, e, dids, derivable, stored, other, read, named d rfl, ?_⟩
  obtain ⟨p, d', read', hd, resolves⟩ | ⟨_, failed, -⟩ := told derivable
  · cases read.symm.trans read'
    cases hd
    exact resolves dids
  · cases read.symm.trans failed

end Plain

/-! ## Hashes of documents -/

/-- Two texts with one hash. -/
def Sha256.Collide (a b : Bytes) : Prop := a ≠ b ∧ hash a = hash b

namespace Document

/-- The documents are equal but for what names them. -/
def EqualButNames (d e : Document) : Prop :=
  d = { e with id := d.id, alsoKnownAs := d.alsoKnownAs }

theorem equalButNames_iff {d e : Document} :
    d.EqualButNames e ↔ PeerDid.stripped e = PeerDid.stripped d := by
  constructor
  · intro h
    rw [h]
    rfl
  · intro h
    have same : { d with } = { PeerDid.stripped d with id := d.id, alsoKnownAs := d.alsoKnownAs } := rfl
    exact same.trans (h ▸ rfl)

theorem EqualButNames.symm {d e : Document} (h : d.EqualButNames e) : e.EqualButNames d :=
  equalButNames_iff.mpr (equalButNames_iff.mp h).symm

theorem EqualButNames.trans {d e f : Document} (hd : d.EqualButNames e) (he : e.EqualButNames f) :
    d.EqualButNames f :=
  equalButNames_iff.mpr ((equalButNames_iff.mp he).trans (equalButNames_iff.mp hd))

end Document

namespace PeerDid

theorem eq_of_encodeDocument_eq {d e : Document} (hd : d.Ordered) (he : e.Ordered)
    (h : encodeDocument d = encodeDocument e) : d = e :=
  Document.eq_of_canonicalBytes_eq hd he (List.append_cancel_left (Multibase.encode_inj h))

/-- Hashes are written alike only if they are equal. -/
theorem eq_of_hashText_eq {a b : Bytes} (apart : ¬ Sha256.Collide a b) (h : hashText a = hashText b) :
    a = b := by
  have wrapped := Multibase.encode_inj h
  rw [Multihash.ofText, Multihash.ofText, Multihash.wrap_eq (Sha256.hash_length a),
    Multihash.wrap_eq (Sha256.hash_length b)] at wrapped
  have hashes : Sha256.hash a = Sha256.hash b := (List.cons.inj (List.cons.inj wrapped).2).2
  by_contra differ
  exact apart ⟨differ, hashes⟩

/-- The text of a document that is hashed for a DID of a form. -/
def hashedText (d : Document) : PeerForm → Bytes
  | .hashAndDocument => Utf8.ofString (encodeDocument (stripped d))
  | _ => (stripped d).toJson.canonicalBytes

/-- Documents have one text to be hashed only if they are equal but for their names. -/
theorem equalButNames_of_hashedText_eq {d e : Document} (hd : d.Ordered) (he : e.Ordered)
    {form : PeerForm} (h : hashedText e form = hashedText d form) : d.EqualButNames e := by
  have ordered : (stripped d).Ordered := hd
  have ordered' : (stripped e).Ordered := he
  refine Document.equalButNames_iff.mpr ?_
  cases form with
  | hashAndDocument => exact eq_of_encodeDocument_eq ordered' ordered (Utf8.ofString_inj h)
  | genesisHash => exact Document.eq_of_canonicalBytes_eq ordered' ordered h
  | inceptionKey => exact Document.eq_of_canonicalBytes_eq ordered' ordered h

/-! ## DIDs that tell a hash -/

/-- The DID with the hash of the document alone: in form 4 the short form, in form 1 the DID itself. -/
def hashDid (p : PeerDid) : String := p.shortForm?.getD p.did

theorem hashDid_ofGenesis (d : Document) : (ofGenesis d).hashDid = (ofGenesis d).did := by
  rw [hashDid, shortForm?, longParts?, Text.startsWith, after?_hashScheme_ofGenesis]
  rfl

theorem hashDid_ofHashAndDocument (d : Document) :
    (ofHashAndDocument d).hashDid = hashScheme ++ hashText (hashedText d .hashAndDocument) := by
  rw [hashDid, shortForm?_ofHashAndDocument]
  rfl

/-- The names of a document play no part in the DID that is made of it. -/
theorem ofDocument_equalButNames [Suite] {d e : Document} {form : PeerForm}
    (notKey : form ≠ .inceptionKey) (h : d.EqualButNames e) : ofDocument e form = ofDocument d form := by
  have same := Document.equalButNames_iff.mp h
  cases form with
  | inceptionKey => exact absurd rfl notKey
  | genesisHash => rw [ofDocument, ofDocument, ofGenesis, ofGenesis, same]
  | hashAndDocument => rw [ofDocument, ofDocument, ofHashAndDocument, ofHashAndDocument, same]

section Suites

/-- Every document has a hash. -/
theorem ofDocument_ok [Suite] {form : PeerForm} (notKey : form ≠ .inceptionKey) (d : Document) :
    ∃ p, ofDocument d form = .ok p := by
  cases form with
  | inceptionKey => exact absurd rfl notKey
  | genesisHash => exact ⟨_, rfl⟩
  | hashAndDocument => exact ⟨_, rfl⟩

variable [Suite] {form : PeerForm} {d e : Document} {p q : PeerDid}

/-- In form 1 the DID is the hash alone, in form 4 its short form. -/
theorem hashDid_eq (notKey : form ≠ .inceptionKey) (made : ofDocument d form = .ok p) :
    form = .genesisHash ∧ p.hashDid = p.did ∨
      form = .hashAndDocument ∧ p.shortForm? = some p.hashDid := by
  obtain ⟨rfl, rfl⟩ | ⟨rfl, rfl⟩ := ofDocument_cases notKey made
  · exact .inl ⟨rfl, hashDid_ofGenesis d⟩
  · refine .inr ⟨rfl, ?_⟩
    rw [shortForm?_ofHashAndDocument, hashDid_ofHashAndDocument]
    rfl

/-- The hash alone is read without a document, as a DID of the form that it was made in. -/
theorem ofDid_hashDid (notKey : form ≠ .inceptionKey) (made : ofDocument d form = .ok p) :
    ofDid p.hashDid = .ok ⟨p.hashDid, none⟩ ∧ PeerDid.form p.hashDid = .ok form := by
  obtain ⟨rfl, rfl⟩ | ⟨rfl, rfl⟩ := ofDocument_cases notKey made
  · rw [hashDid_ofGenesis]
    exact ⟨ofDid_ofGenesis d, form_ofGenesis d⟩
  · rw [hashDid_ofHashAndDocument]
    have like := hashLike_hashText (hashedText d .hashAndDocument)
    exact ⟨ofDid_hashAlone like, form_of_parts? (parts?_hashAlone like)⟩

/-- A document that has the hash is joined with it, and any other one is refused. -/
theorem ofDidWithDocument_hashDid (notKey : form ≠ .inceptionKey) (made : ofDocument d form = .ok p)
    (made' : ofDocument e form = .ok q) :
    ofDidWithDocument p.hashDid e = if q.hashDid = p.hashDid then .ok q
      else .error (.malformedDid (p.hashDid ++ " does not match the supplied document")) := by
  obtain ⟨read, same⟩ := ofDid_hashDid notKey made
  have untold : ¬ (none : Option Document).isSome = true := nofun
  rw [ofDidWithDocument, read, Outcome.ok_bind, if_neg untold, same, Outcome.ok_bind, made']
  rfl

/-- The hash alone joins with every document that is equal but for its names to the one it was made
of. -/
theorem ofDidWithDocument_of_equalButNames (notKey : form ≠ .inceptionKey)
    (made : ofDocument d form = .ok p) (same : d.EqualButNames e) :
    ofDidWithDocument p.hashDid e = .ok p := by
  have made' := (ofDocument_equalButNames notKey same).trans made
  exact (ofDidWithDocument_hashDid notKey made made').trans (if_pos rfl)

/-- One hash alone is that of one text. -/
theorem hashedText_eq (notKey : form ≠ .inceptionKey) (made : ofDocument d form = .ok p)
    (made' : ofDocument e form = .ok q)
    (apart : ¬ Sha256.Collide (hashedText e form) (hashedText d form)) (h : q.hashDid = p.hashDid) :
    hashedText e form = hashedText d form := by
  obtain ⟨rfl, rfl⟩ | ⟨rfl, rfl⟩ := ofDocument_cases notKey made
  · cases made'
    rw [hashDid_ofGenesis, hashDid_ofGenesis, ofGenesis, ofGenesis] at h
    exact eq_of_hashText_eq apart ((String.append_right_inj _).mp h)
  · cases made'
    rw [hashDid_ofHashAndDocument, hashDid_ofHashAndDocument] at h
    exact eq_of_hashText_eq apart ((String.append_right_inj _).mp h)

end Suites

/-- A hash pins its document: the DID with the hash alone, that of form 1 or the short form of form 4,
joins with the documents that are equal to the one it was made of but for their names, to what was made
of that one, and it is malformed for every other document. Only the two texts that are hashed are asked
not to have one hash. -/
theorem hash_pins_document [Suite] {form : PeerForm} (notKey : form ≠ .inceptionKey) {d e : Document}
    (ordered : d.Ordered) (ordered' : e.Ordered)
    (apart : ¬ Sha256.Collide (hashedText e form) (hashedText d form)) :
    ∃ p, ofDocument d form = .ok p ∧
      (form = .genesisHash ∧ p.hashDid = p.did ∨
        form = .hashAndDocument ∧ p.shortForm? = some p.hashDid) ∧
      (d.EqualButNames e → ofDidWithDocument p.hashDid e = .ok p) ∧
      (¬ d.EqualButNames e →
        ∃ text, ofDidWithDocument p.hashDid e = .error (.malformedDid text)) := by
  obtain ⟨p, made⟩ := ofDocument_ok notKey d
  obtain ⟨q, made'⟩ := ofDocument_ok notKey e
  refine ⟨p, made, hashDid_eq notKey made, ofDidWithDocument_of_equalButNames notKey made, ?_⟩
  intro differ
  have apartHashes : q.hashDid ≠ p.hashDid := by
    intro hash
    have text := hashedText_eq notKey made made' apart hash
    exact differ (equalButNames_of_hashedText_eq ordered ordered' text)
  exact ⟨_, (ofDidWithDocument_hashDid notKey made made').trans (if_neg apartHashes)⟩

section Plain

attribute [local instance] Suite.plain

/-- In both forms a document may change its names, but not its contexts. -/
theorem hash_pins_document_plain : ∃ d e : Document, d.Ordered ∧ e.Ordered ∧ ¬ d.EqualButNames e ∧
    ∀ form : PeerForm, form ≠ .inceptionKey →
      ¬ Sha256.Collide (hashedText e form) (hashedText d form) ∧
      ∃ p text, ofDocument d form = .ok p ∧
        ofDidWithDocument p.hashDid { d with id := "did:example:moved" } = .ok p ∧
        ofDidWithDocument p.hashDid e = .error (.malformedDid text) := by
  let d : Document := {}
  let e : Document := { context := ["https://example.org/context"] }
  have ordered : d.Ordered := nofun
  have ordered' : e.Ordered := nofun
  have differ : ¬ d.EqualButNames e := fun same => absurd (congrArg Document.context same) (by decide)
  refine ⟨d, e, ordered, ordered', differ, fun form notKey => ?_⟩
  have apart : ¬ Sha256.Collide (hashedText e form) (hashedText d form) := by
    rintro ⟨-, hashes⟩
    cases form with
    | inceptionKey => exact absurd rfl notKey
    | genesisHash => exact absurd hashes (by decide +kernel)
    | hashAndDocument => exact absurd hashes (by decide +kernel)
  have unmoved : ¬ Sha256.Collide (hashedText { d with id := "did:example:moved" } form)
      (hashedText d form) := fun collide => collide.1 rfl
  obtain ⟨p, made, -, -, refused⟩ := hash_pins_document notKey ordered ordered' apart
  obtain ⟨q, made', -, joined, -⟩ := hash_pins_document notKey ordered ordered unmoved
  obtain rfl : p = q := Except.ok.inj (made.symm.trans made')
  obtain ⟨text, malformed⟩ := refused differ
  exact ⟨apart, p, text, made, joined rfl, malformed⟩

end Plain

end PeerDid

end Pairwise
