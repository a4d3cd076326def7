import Pairwise.Proofs.PeerDids
import Pairwise.Proofs.PlainSuite
/-!
# The codec of peer DIDs loses nothing

What a peer DID was made of is read back from its text: a key with its document, and in form 4 the
whole document. In form 1, and in the short form, the text is read without a document, and joined with
the one that it was made of.

Results:
* `Key.toList_fingerprint`: the fingerprint of a key has 47 digits, whatever the key.
* `PeerDid.ofDid_ofKey`: form 0 is read with the document of its key.
* `PeerDid.ofDidWithDocument_short`: the short form joins with its document to the long form.
* `PeerDid.codec_loses_nothing`: all forms together.
-/
namespace Pairwise

namespace Key

/-- The code in front of a key is written in two bytes. -/
theorem tagged_cons (k : Key) :
    ∃ b ∈ [(0xed : UInt8), 0xec], k.tagged = b :: 0x01 :: k.bytes := by
  obtain ⟨bytes, kind⟩ := k
  cases kind with
  | ed25519 =>
    refine ⟨0xed, List.mem_cons_self, ?_⟩
    rw [tagged, Multicodec.tag, KeyKind.code, Varint.encode_of_le (by decide),
      Varint.encode_of_lt (by decide)]
    rfl
  | x25519 =>
    refine ⟨0xec, List.mem_cons_of_mem _ List.mem_cons_self, ?_⟩
    rw [tagged, Multicodec.tag, KeyKind.code, Varint.encode_of_le (by decide),
      Varint.encode_of_lt (by decide)]
    rfl

theorem toList_fingerprint {k : Key} (h : k.Sized) :
    ∃ digits, k.fingerprint.toList = 'z' :: digits ∧ digits.length = 47 ∧
      digits.all PeerDid.isDigit = true := by
  refine ⟨_, Multibase.toList_encode _, ?_, Base58.all_encode _⟩
  obtain ⟨b, code, front⟩ := k.tagged_cons
  have length : ((0x01 : UInt8) :: k.bytes).length = 33 := congrArg (· + 1) h
  rw [front]
  obtain rfl | rfl := List.mem_pair.mp code
  all_goals
    refine Base58.length_encode_cons (k := 46) ?_ ?_
    all_goals
      rw [length]
      decide

end Key

namespace PeerDid

/-! ## Form 0 -/

theorem parts?_key {k : Key} (h : k.Sized) :
    parts? (scheme ++ "0" ++ k.fingerprint) = some (.inceptionKey, k.fingerprint.toList) := by
  obtain ⟨digits, text, length, all⟩ := Key.toList_fingerprint h
  refine parts?_eq_some.mpr ⟨?_, ?_⟩
  · rw [String.toList_append, String.toList_append, List.append_assoc]
    rfl
  · rw [text, isBody, isShortBody, all, length]
    rfl

section Suites

variable [Suite]

/-- A key has a document unless it is a signing key that is no point of the curve. -/
theorem ofKey_made {k : Key} (sized : k.Sized)
    (point : k.kind = .ed25519 → (Suite.agreementKey? k.bytes).isSome = true) :
    ∃ d, ofKey k = .ok ⟨scheme ++ "0" ++ k.fingerprint, some d⟩ := by
  have document : ∃ d, k.document (scheme ++ "0" ++ k.fingerprint) = .ok d := by
    unfold Key.document
    split
    · next kind =>
      obtain ⟨x, hx⟩ := Option.isSome_iff_exists.mp (point kind)
      rw [Key.toX25519_signing kind sized, hx]
      exact ⟨_, rfl⟩
    · exact ⟨_, rfl⟩
  obtain ⟨d, hd⟩ := document
  exact ⟨d, Outcome.bind_eq_ok.mpr ⟨d, hd, rfl⟩⟩

theorem ofDid_ofKey {k : Key} (sized : k.Sized) {p : PeerDid} (made : ofKey k = .ok p) :
    ofDid p.did = .ok p := by
  obtain ⟨d, -, e⟩ := Outcome.bind_eq_ok.mp made
  cases e
  rw [ofDid, parts?_key sized]
  dsimp only
  rw [String.ofList_toList, Key.ofFingerprint_fingerprint sized]
  dsimp only
  rw [made]
  exact if_pos rfl

/-! ## Form 4 -/

omit [Suite] in
theorem shortForm?_ofHashAndDocument (d : Document) :
    (ofHashAndDocument d).shortForm?
      = some (hashScheme ++ hashText (Utf8.ofString (encodeDocument (stripped d)))) := by
  rw [shortForm?, longParts?_ofHashAndDocument]

/-- The short form joins with every document that differs from its own in its names only. -/
theorem ofDidWithDocument_short (d : Document) :
    ofDidWithDocument (hashScheme ++ hashText (Utf8.ofString (encodeDocument (stripped d)))) d
      = .ok (ofHashAndDocument d) := by
  refine Outcome.bind_eq_ok.mpr ⟨_, ofDid_hashAlone (hashLike_hashText _), ?_⟩
  rw [if_neg (show ¬ (none : Option Document).isSome = true from nofun)]
  refine Outcome.bind_eq_ok.mpr ⟨_, form_of_parts? (parts?_hashAlone (hashLike_hashText _)), ?_⟩
  refine Outcome.bind_eq_ok.mpr ⟨_, rfl, ?_⟩
  rw [shortForm?_ofHashAndDocument]
  exact if_pos rfl

/-! ## All forms -/

/-- The DID is well formed, and is read with all that it stands for. -/
structure ReadBack (p : PeerDid) : Prop where
  valid : isValid p.did = true
  read : ofDid p.did = .ok p

/-- The DID is the long form of a document, which has the DID and its short form for names. -/
structure LongForm (p : PeerDid) (d : Document) (short : String) : Prop where
  did : ∃ encoded, p.did = short ++ ":" ++ encoded
  shortForm : p.shortForm? = some short
  document : p.document = some { d with id := p.did, alsoKnownAs := [short] }
  alternatives : p.alternatives = [short]

/-- From every form of DID what it was made of is read back. In form 4 this is the document but for
its names; in form 1, and from the short form, it is what the DID joins with. -/
theorem codec_loses_nothing {d : Document} (ordered : d.Ordered) {k : Key} (sized : k.Sized)
    (point : k.kind = .ed25519 → (Suite.agreementKey? k.bytes).isSome = true) :
    (∃ p short, ofDocument d .hashAndDocument = .ok p ∧ p.ReadBack ∧ p.LongForm d short ∧
      ofDidWithDocument short d = .ok p) ∧
    (∃ p, ofDocument d .genesisHash = .ok p ∧ isValid p.did = true ∧
      ofDid p.did = .ok ⟨p.did, none⟩ ∧ ofDidWithDocument p.did d = .ok p) ∧
    ∃ p e, ofKey k = .ok p ∧ p.document = some e ∧ p.ReadBack := by
  refine ⟨?_, ?_, ?_⟩
  · have long : (ofHashAndDocument d).LongForm d
        (hashScheme ++ hashText (Utf8.ofString (encodeDocument (stripped d)))) :=
      ⟨⟨_, rfl⟩, shortForm?_ofHashAndDocument d, rfl, alternatives_ofHashAndDocument d⟩
    exact ⟨_, _, rfl, ⟨isValid_of_form (form_ofHashAndDocument d), ofDid_ofHashAndDocument ordered⟩,
      long, ofDidWithDocument_short d⟩
  · exact ⟨_, rfl, isValid_of_form (form_ofGenesis d), ofDid_ofGenesis d,
      ofDidWithDocument_ofGenesis rfl⟩
  · obtain ⟨e, made⟩ := ofKey_made sized point
    exact ⟨_, e, made, rfl, isValid_of_form (form_of_parts? (parts?_key sized)), ofDid_ofKey sized made⟩

end Suites

/-! ## A document and a key -/

section Plain

attribute [local instance] Suite.plain

/-- A document with a service of the highest priority, and a signing key. -/
theorem codec_loses_nothing_plain :
    ∃ (d : Document) (k : Key), d.service ≠ [] ∧ k.kind = .ed25519 ∧
      (∃ p short, ofDocument d .hashAndDocument = .ok p ∧ p.ReadBack ∧ p.LongForm d short ∧
        ofDidWithDocument short d = .ok p) ∧
      (∃ p, ofDocument d .genesisHash = .ok p ∧ isValid p.did = true ∧
        ofDid p.did = .ok ⟨p.did, none⟩ ∧ ofDidWithDocument p.did d = .ok p) ∧
      ∃ p e, ofKey k = .ok p ∧ p.document = some e ∧ p.ReadBack := by
  let service : Service := {
    id := "#service", kind := Service.didcommKind, priority := Service.priorityLimit
    recipientKeys := [""], routingKeys := [], endpoint := "https://agent.example/\"", accept := [] }
  let d : Document := { Document.new "did:example:agent" with service := [service] }
  let k : Key := ⟨List.replicate 32 7, .ed25519⟩
  have ordered : d.Ordered := List.forall_mem_singleton.mpr (Nat.le_refl _)
  exact ⟨d, k, List.cons_ne_nil _ _, rfl,
    codec_loses_nothing ordered (k := k) List.length_replicate fun _ => rfl⟩

end Plain

end PeerDid

end Pairwise
