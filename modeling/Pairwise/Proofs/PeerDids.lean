import Pairwise.Did.Peer
import Pairwise.Proofs.Documents
import Pairwise.Proofs.Keys
/-!
# Peer DIDs that were made are read

A DID made of a document in form 1 is its hash, and in form 4 its hash with the document behind it.
Both are well formed; the first joins with the document it was made of, the second tells it.

Results:
* `ofDid_ofGenesis`, `ofDidWithDocument_ofGenesis`: form 1 is read without its document, and joined
  with it.
* `ofDid_ofHashAndDocument`: form 4 is read with its document.
-/
namespace Pairwise

open Json

/-! ## The document of a key -/

theorem Document.didcommServices_nil {d : Document} (h : d.service = []) : d.didcommServices = [] := by
  rw [didcommServices, h, List.filter_nil, List.mergeSort_nil]

/-- The document of a key is named as it was asked to be, and has no services. -/
theorem Key.document_ok [Suite] {k : Key} {did : String} {d : Document} (h : k.document did = .ok d) :
    d.id = did ∧ d.didcommServices = [] := by
  unfold Key.document at h
  split at h
  · obtain ⟨_, -, h⟩ := Outcome.bind_eq_ok.mp h
    cases h
    exact ⟨rfl, Document.didcommServices_nil rfl⟩
  · cases h
    exact ⟨rfl, Document.didcommServices_nil rfl⟩

namespace PeerDid

/-! ## The form of the identifier -/

/-- The identifiers of a form. -/
def isBody : PeerForm → List Char → Bool
  | .inceptionKey | .genesisHash => isShortBody
  | .hashAndDocument => isHashBody

/-- A well-formed DID is its form's digit and an identifier of the form, and nothing else is. -/
theorem parts?_eq_some {did : String} {f : PeerForm} {body : List Char} :
    parts? did = some (f, body) ↔
      did.toList = scheme.toList ++ f.number.digitChar :: body ∧ isBody f body = true := by
  constructor
  · intro h
    obtain ⟨rest, hrest, h⟩ := Option.bind_eq_some_iff.mp h
    obtain ⟨chars, hchars, rfl⟩ := Option.map_eq_some_iff.mp hrest
    rw [Text.listAfter?_eq_some hchars]
    rw [String.toList_ofList] at h
    split at h
    case h_4 => cases h
    all_goals
      obtain ⟨valid, e⟩ := Option.ite_none_right_eq_some.mp h
      cases e
      exact ⟨rfl, valid⟩
  · rintro ⟨text, valid⟩
    have rest : Text.after? scheme did = some (String.ofList (f.number.digitChar :: body)) := by
      rw [Text.after?, text, Text.listAfter?_append, Option.map_some]
    rw [parts?, rest, Option.bind_eq_bind, Option.bind_some, String.toList_ofList]
    cases f with
    | inceptionKey => exact if_pos valid
    | genesisHash => exact if_pos valid
    | hashAndDocument => exact if_pos valid

theorem form_of_parts? {did : String} {f : PeerForm} {body : List Char}
    (h : parts? did = some (f, body)) : form did = .ok f := by
  rw [form, h]

/-- The digit tells the form. -/
theorem form_of_digit {did : String} {f g : PeerForm} {rest : List Char} (h : form did = .ok f)
    (text : did.toList = scheme.toList ++ g.number.digitChar :: rest) : f = g := by
  rw [form] at h
  split at h
  · next found =>
    cases h
    have digits := List.append_cancel_left ((parts?_eq_some.mp found).1.symm.trans text)
    have digit : f.number.digitChar = g.number.digitChar := (List.cons.inj digits).1
    cases f <;> cases g <;> first | rfl | exact absurd digit (by decide)
  · cases h

/-- The digit of form 4 stands in front of what tells a document. -/
theorem form_of_longParts? {did : String} {f : PeerForm} (h : form did = .ok f)
    (long : (longParts? did).isSome = true) : f = .hashAndDocument := by
  obtain ⟨parts, hparts⟩ := Option.isSome_iff_exists.mp long
  obtain ⟨rest, hrest, -⟩ := Option.bind_eq_some_iff.mp hparts
  obtain ⟨chars, hchars, -⟩ := Option.map_eq_some_iff.mp hrest
  have text : did.toList = scheme.toList ++ '4' :: chars := by
    rw [Text.listAfter?_eq_some hchars, hashScheme, String.toList_append, List.append_assoc]
    rfl
  exact form_of_digit (g := .hashAndDocument) h text

/-- A DID that is a key tells its document. -/
theorem notKey_of_needed {did : String} {f : PeerForm} (h : form did = .ok f)
    (needed : isDerivable did = false) : f ≠ .inceptionKey := by
  rintro rfl
  rw [isDerivable, h] at needed
  cases needed

theorem isValid_of_form {did : String} {f : PeerForm} (h : form did = .ok f) :
    isValid did = true := by
  rw [form] at h
  rw [isValid]
  split at h
  · next e => rw [e]; rfl
  · cases h

/-- A DID that can be read is well formed. -/
theorem form_of_ofDid [Suite] {did : String} {p : PeerDid} (h : ofDid did = .ok p) :
    ∃ f, form did = .ok f := by
  unfold ofDid at h
  split at h
  · cases h
  all_goals next parts => exact ⟨_, form_of_parts? parts⟩

/-- What starts like a peer DID does not start like a key. -/
theorem startsWith_keyScheme {did : String} (peer : Text.startsWith scheme did = true) :
    Text.startsWith Did.keyScheme did = false := by
  obtain ⟨rest, after⟩ := Option.isSome_iff_exists.mp peer
  obtain ⟨chars, hchars, -⟩ := Option.map_eq_some_iff.mp after
  rw [Text.startsWith, Text.after?, Text.listAfter?_eq_some hchars]
  rfl

/-- A text with the form of a peer DID starts like one. -/
theorem startsWith_of_form {did : String} {f : PeerForm} (h : form did = .ok f) :
    Text.startsWith scheme did = true := by
  rw [form] at h
  split at h
  · next parts =>
    obtain ⟨rest, after, -⟩ := Option.bind_eq_some_iff.mp parts
    rw [Text.startsWith, after]
    rfl
  · cases h

/-- A DID that is read comes with its document exactly if it tells that. -/
theorem document_isSome_of_ofDid [Suite] {did : String} {p : PeerDid} (h : ofDid did = .ok p) : p.document.isSome = isDerivable did := by
  unfold ofDid at h
  rw [isDerivable, form]
  split at h
  · cases h
  · next parts =>
    rw [parts]
    split at h
    · cases h
    obtain ⟨q, made, same⟩ := Outcome.bind_eq_ok.mp h
    split at same
    · cases same
      obtain ⟨d, -, e⟩ := Outcome.bind_eq_ok.mp made
      cases e
      rfl
    · cases same
  · next parts =>
    rw [parts]
    split at h
    · cases h
    · split at h
      · cases h
      · cases h
        rfl
  · next parts =>
    rw [parts]
    dsimp only
    split at h
    · next short =>
      cases h
      rw [short]
      rfl
    · next long =>
      split at h
      · cases h
      · cases h
        rw [long]
        rfl

/-! ## Hashes and encoded documents -/

/-- A text as long as that of a hash, in digits of base 58. -/
def HashLike (text : String) : Prop :=
  ∃ digits, text.toList = 'z' :: digits ∧ digits.length = 46 ∧ digits.all isDigit = true

/-- A text long enough for that of a document, in digits of base 58. -/
def DocumentLike (text : String) : Prop :=
  ∃ digits, text.toList = 'z' :: digits ∧ 6 ≤ digits.length ∧ digits.all isDigit = true

theorem HashLike.not_mem {text : String} (h : HashLike text) {c : Char} (hc : c ∉ Base58.alphabet) :
    c ∉ text.toList := by
  obtain ⟨digits, e, -, all⟩ := h
  rw [e]
  intro mem
  rcases List.mem_cons.mp mem with rfl | mem
  · exact hc (by decide)
  · exact hc (List.contains_iff_mem.mp (List.all_eq_true.mp all c mem))

theorem hashLike_wrap {digest : Bytes} (h : digest.length = 32) :
    HashLike (Multibase.encode (Multihash.wrap digest)) :=
  ⟨_, Multibase.toList_encode _, Multihash.length_encode_wrap h, Base58.all_encode _⟩

theorem hashLike_hashText (text : Bytes) : HashLike (hashText text) :=
  hashLike_wrap (Sha256.hash_length text)

theorem length_encode_ge (text : List Char) : text.length ≤ (Utf8.encode text).length := by
  induction text with
  | nil => exact Nat.le_refl 0
  | cons c text ih =>
    have one : 0 < (Utf8.encodeChar c).length :=
      List.length_pos_of_ne_nil (Utf8.encodeChar_ne_nil c)
    change _ ≤ (Utf8.encodeChar c ++ Utf8.encode text).length
    rw [List.length_cons, List.length_append]
    omega

theorem two_le_canonicalBytes (d : Document) : 2 ≤ d.toJson.canonicalBytes.length := by
  have two (members : List (String × Json)) : 2 ≤ (Json.obj members).chars.length := by
    cases members with
    | nil => exact Nat.le_refl 2
    | cons m members => simp [chars]; omega
  exact Nat.le_trans (two _) (length_encode_ge _)

theorem documentLike_encodeDocument (d : Document) : DocumentLike (encodeDocument d) := by
  refine ⟨_, Multibase.toList_encode _, ?_, Base58.all_encode _⟩
  have front : Multicodec.tag Multicodec.json d.toJson.canonicalBytes
      = 0x80 :: ([0x04] ++ d.toJson.canonicalBytes) := by
    rw [Multicodec.tag, Varint.encode_of_le (by decide), Varint.encode_of_lt (by decide)]
    rfl
  have three : 3 ≤ ([0x04] ++ d.toJson.canonicalBytes).length := by
    have := two_le_canonicalBytes d
    rw [List.length_append, List.length_singleton]
    omega
  rw [front]
  refine Base58.lt_length_encode (k := 5) ?_
  exact Nat.le_trans (by decide)
    (Nat.mul_le_mul_left _ (Nat.pow_le_pow_right (show 0 < 256 by decide) three))

/-! ## Form 0 -/

theorem toList_ofKey [Suite] {key : Key} {p : PeerDid} (h : ofKey key = .ok p) :
    p.did.toList = scheme.toList ++ '0' :: key.fingerprint.toList := by
  obtain ⟨d, -, made⟩ := Outcome.bind_eq_ok.mp h
  cases made
  rw [String.toList_append, String.toList_append, List.append_assoc]
  rfl

/-! ## Form 1 -/

theorem isShortBody_hashText (text : Bytes) : isShortBody (hashText text).toList = true := by
  obtain ⟨digits, e, length, all⟩ := hashLike_hashText text
  rw [e, isShortBody, all, length]
  rfl

theorem parts?_genesis (text : Bytes) :
    parts? (scheme ++ "1" ++ hashText text) = some (.genesisHash, (hashText text).toList) := by
  refine parts?_eq_some.mpr ⟨?_, isShortBody_hashText text⟩
  rw [String.toList_append, String.toList_append, List.append_assoc]
  rfl

theorem form_ofGenesis (d : Document) : form (ofGenesis d).did = .ok .genesisHash :=
  form_of_parts? (parts?_genesis _)

theorem isDerivable_ofGenesis (d : Document) : isDerivable (ofGenesis d).did = false := by
  rw [isDerivable, form_ofGenesis]

/-- No hash of form 4 stands in front of a DID of form 1. -/
theorem after?_hashScheme_ofGenesis (d : Document) :
    Text.after? hashScheme (ofGenesis d).did = none := by
  have text : (ofGenesis d).did.toList
      = scheme.toList ++ '1' :: (hashText (stripped d).toJson.canonicalBytes).toList := by
    rw [ofGenesis, String.toList_append, String.toList_append, List.append_assoc]
    rfl
  rw [Text.after?, text]
  rfl

theorem alternatives_ofGenesis (d : Document) : (ofGenesis d).alternatives = [] := by
  rw [alternatives, longParts?, after?_hashScheme_ofGenesis]
  rfl

/-- What names the document does not matter. -/
theorem ofGenesis_congr {d d' : Document} (h : stripped d = stripped d') :
    (ofGenesis d).did = (ofGenesis d').did := by
  rw [ofGenesis, ofGenesis, h]

section Reading

variable [Suite]

theorem ofDid_ofGenesis (d : Document) : ofDid (ofGenesis d).did = .ok ⟨(ofGenesis d).did, none⟩ := by
  have limit : (Sha256.hash (stripped d).toJson.canonicalBytes).length ≤ Multihash.maxLength := by
    rw [Sha256.hash_length]
    decide
  rw [ofDid, show (ofGenesis d).did = scheme ++ "1" ++ hashText (stripped d).toJson.canonicalBytes
    from rfl, parts?_genesis]
  dsimp only
  rw [String.ofList_toList, hashText, Multibase.decode_encode]
  dsimp only
  rw [Multihash.ofText, Multihash.decode_wrap limit]

/-- A DID of form 1 joins with every document that differs from its own in its names only. -/
theorem ofDidWithDocument_ofGenesis {d d' : Document} (h : stripped d' = stripped d) :
    ofDidWithDocument (ofGenesis d).did d' = .ok (ofGenesis d') := by
  have short : (ofGenesis d').shortForm? = none := by
    rw [shortForm?, longParts?, Text.startsWith, after?_hashScheme_ofGenesis]
    rfl
  refine Outcome.bind_eq_ok.mpr ⟨_, ofDid_ofGenesis d, ?_⟩
  rw [if_neg (show ¬ (none : Option Document).isSome = true from Bool.false_ne_true)]
  refine Outcome.bind_eq_ok.mpr ⟨_, form_ofGenesis d, ?_⟩
  refine Outcome.bind_eq_ok.mpr ⟨ofGenesis d', rfl, ?_⟩
  rw [short]
  exact if_pos (ofGenesis_congr h)

end Reading

/-! ## Form 4 -/

theorem take_drop_append {α : Type} (n : Nat) (front back : List α) (h : front.length = n) :
    (front ++ back).take n = front ∧ (front ++ back).drop n = back := by
  subst h
  exact ⟨List.take_left, List.drop_left⟩

theorem isHashBody_long {hash encoded : String} (h : HashLike hash) (h' : DocumentLike encoded) :
    isHashBody (hash.toList ++ ':' :: encoded.toList) = true := by
  obtain ⟨hash, eh, lh, allh⟩ := h
  obtain ⟨digits, ed, ld, alld⟩ := h'
  obtain ⟨take, drop⟩ := take_drop_append 46 hash (':' :: 'z' :: digits) lh
  rw [eh, ed, List.cons_append, isHashBody]
  simp only [take, drop, allh, alld, lh, ld]
  rfl

theorem parts?_long {hash encoded : String} (h : HashLike hash) (h' : DocumentLike encoded) :
    parts? (hashScheme ++ (hash ++ (":" ++ encoded)))
      = some (.hashAndDocument, hash.toList ++ ':' :: encoded.toList) := by
  refine parts?_eq_some.mpr ⟨?_, isHashBody_long h h'⟩
  simp only [hashScheme, String.toList_append, List.append_assoc]
  rfl

theorem longParts?_long {hash : String} (h : HashLike hash) (encoded : String) :
    longParts? (hashScheme ++ (hash ++ (":" ++ encoded))) = some (hash, encoded) := by
  rw [longParts?, Text.after?_append, Option.bind_eq_bind, Option.bind_some]
  refine Text.splitFirst?_eq_some (h.not_mem (by decide)) ?_
  rw [String.toList_append, String.toList_append]
  rfl

/-- The hash and the encoded document of a DID of form 4. -/
theorem did_ofHashAndDocument (d : Document) :
    (ofHashAndDocument d).did = hashScheme ++ (hashText (Utf8.ofString (encodeDocument (stripped d)))
      ++ (":" ++ encodeDocument (stripped d))) := by
  rw [ofHashAndDocument, String.append_assoc, String.append_assoc]

theorem parts?_ofHashAndDocument (d : Document) :
    ∃ body, parts? (ofHashAndDocument d).did = some (.hashAndDocument, body) := by
  rw [did_ofHashAndDocument]
  exact ⟨_, parts?_long (hashLike_hashText _) (documentLike_encodeDocument _)⟩

theorem form_ofHashAndDocument (d : Document) :
    form (ofHashAndDocument d).did = .ok .hashAndDocument := by
  obtain ⟨body, parts⟩ := parts?_ofHashAndDocument d
  exact form_of_parts? parts

theorem longParts?_ofHashAndDocument (d : Document) :
    longParts? (ofHashAndDocument d).did
      = some (hashText (Utf8.ofString (encodeDocument (stripped d))), encodeDocument (stripped d)) := by
  rw [did_ofHashAndDocument, longParts?_long (hashLike_hashText _)]

theorem isDerivable_ofHashAndDocument (d : Document) :
    isDerivable (ofHashAndDocument d).did = true := by
  rw [isDerivable, form_ofHashAndDocument, longParts?_ofHashAndDocument]
  rfl

theorem alternatives_ofHashAndDocument (d : Document) :
    (ofHashAndDocument d).alternatives
      = [hashScheme ++ hashText (Utf8.ofString (encodeDocument (stripped d)))] := by
  rw [alternatives, longParts?_ofHashAndDocument]

section HashAlone

variable {text : String} (h : HashLike text)

include h

/-- The hash alone is well formed, and tells no document. -/
theorem parts?_hashAlone :
    parts? (hashScheme ++ text) = some (.hashAndDocument, text.toList) := by
  obtain ⟨digits, e, length, all⟩ := h
  refine parts?_eq_some.mpr ⟨?_, ?_⟩
  · rw [String.toList_append, hashScheme, String.toList_append, List.append_assoc]
    rfl
  · rw [e, isBody, isHashBody, List.take_of_length_le (Nat.le_of_eq length),
      List.drop_of_length_le (Nat.le_of_eq length)]
    simp only [length, all]
    rfl

theorem longParts?_hashAlone : longParts? (hashScheme ++ text) = none := by
  rw [longParts?, Text.after?_append, Option.bind_eq_bind, Option.bind_some]
  exact Text.splitFirst?_eq_none (h.not_mem (by decide))

theorem ofDid_hashAlone [Suite] : ofDid (hashScheme ++ text) = .ok ⟨hashScheme ++ text, none⟩ := by
  rw [ofDid, parts?_hashAlone h]
  dsimp only
  rw [longParts?_hashAlone h]

end HashAlone

/-- The encoded document is read back. -/
theorem decodeDocument?_encodeDocument {d : Document} (h : d.Ordered) :
    decodeDocument? (hashText (Utf8.ofString (encodeDocument d))) (encodeDocument d) = some d := by
  rw [decodeDocument?, if_neg (not_not_intro rfl), encodeDocument, Multibase.decode_encode]
  dsimp only
  rw [Multicodec.split_tag (by decide)]
  dsimp only
  rw [if_neg (not_not_intro rfl), Document.ofBytes_canonicalBytes h]
  rfl

theorem ofDid_ofHashAndDocument [Suite] {d : Document} (h : d.Ordered) :
    ofDid (ofHashAndDocument d).did = .ok (ofHashAndDocument d) := by
  obtain ⟨body, e⟩ := parts?_ofHashAndDocument d
  have stripped_ordered : (stripped d).Ordered := h
  rw [ofDid, e]
  dsimp only
  rw [longParts?_ofHashAndDocument]
  dsimp only
  rw [decodeDocument?_encodeDocument stripped_ordered]
  rfl

/-- A DID that tells its document keeps its own. -/
theorem ofDidWithDocument_ofHashAndDocument [Suite] {d : Document} (h : d.Ordered) (d' : Document) :
    ofDidWithDocument (ofHashAndDocument d).did d' = .ok (ofHashAndDocument d) := by
  rw [ofDidWithDocument, ofDid_ofHashAndDocument h]
  rfl

/-- What is made of a document in another form than that of a key. -/
theorem ofDocument_cases [Suite] {p : PeerDid} {form : PeerForm} (notKey : form ≠ .inceptionKey)
    {d : Document} (made : ofDocument d form = .ok p) :
    form = .genesisHash ∧ p = ofGenesis d ∨ form = .hashAndDocument ∧ p = ofHashAndDocument d := by
  cases form with
  | inceptionKey => exact absurd rfl notKey
  | genesisHash => exact .inl ⟨rfl, (Except.ok.inj made).symm⟩
  | hashAndDocument => exact .inr ⟨rfl, (Except.ok.inj made).symm⟩

/-- A DID that is no key has the document that it was made of, under its own names. -/
theorem stripped_of_ofDocument [Suite] {p : PeerDid} {form : PeerForm}
    (notKey : form ≠ .inceptionKey) {e : Document} (h : ofDocument e form = .ok p) :
    ∃ d, p.document = some d ∧ stripped d = stripped e := by
  obtain ⟨-, rfl⟩ | ⟨-, rfl⟩ := ofDocument_cases notKey h
  · exact ⟨_, rfl, rfl⟩
  · exact ⟨_, rfl, rfl⟩

end PeerDid

end Pairwise
