import Pairwise.Proofs.PeerDidCodec
import Pairwise.Proofs.Spellings
/-!
# Which texts are peer DIDs

A peer DID is written in one way: its key or its hash has the length of all keys or hashes, and every
number in front of one takes as few bytes as it can. Its reader takes each of these texts, and some
more of every form but that of a key.

Results:
* `Dialect.Identifier`: the grammar, open in what stands for a hash and for the code of a document.
* `ofDid_cases`: a text is read, or has a signing key that is no point of the curve, or is malformed.
* `ofDid_language`: which texts these are, and where the reader keeps to the strict grammar.
* `hash_not_always_exact`: the short form of form 4 is read whatever stands for its hash.
-/
namespace Pairwise

open Json

namespace PeerDid

/-! ## The grammar -/

/-- What stands for a hash in form 1 and, without its document, in form 4, and for the code of a
document. -/
structure Dialect where
  genesis : Bytes → Prop
  alone : String → Prop
  code : Bytes → Prop

namespace Dialect

/-- The peer DIDs of a dialect. -/
inductive Identifier [Suite] (dialect : Dialect) : String → Prop where
  /-- A signing key that is a point of the curve, or an agreement key. -/
  | key {k : Key} (sized : k.Sized)
      (point : k.kind = .ed25519 → (Suite.agreementKey? k.bytes).isSome = true) :
      Identifier dialect (scheme ++ "0" ++ k.fingerprint)
  /-- The hash of a document that comes by another way. -/
  | genesis {hash : Bytes} (h : dialect.genesis hash) :
      Identifier dialect (scheme ++ "1" ++ Multibase.encode hash)
  /-- The hash of an encoded document, alone. -/
  | alone {hash : String} (h : dialect.alone hash) : Identifier dialect (hashScheme ++ hash)
  /-- The hash of an encoded document, and the document. -/
  | long {code json : Bytes} {d : Document} (h : dialect.code code)
      (read : Reader.ofBytes Document.reader.read json = .ok d) :
      Identifier dialect (hashScheme ++ hashText (Utf8.ofString (Multibase.encode (code ++ json)))
        ++ ":" ++ Multibase.encode (code ++ json))

/-- Hashes are of 32 bytes, and numbers take as few bytes as they can. -/
def strict : Dialect where
  genesis hash := ∃ digest : Bytes, digest.length = 32 ∧ hash = Multihash.wrap digest
  alone hash := ∃ digest : Bytes, digest.length = 32 ∧
    hash = Multibase.encode (Multihash.wrap digest)
  code code := code = Varint.encode Multicodec.json

/-- Hashes in form 1 are of any length within the limit whose text has five digits, numbers are spelled
in any way, and a hash without its document is any digits of the right length. -/
def lenient : Dialect where
  genesis hash := 5 ≤ (Base58.encode hash).toList.length ∧
    ∃ code size digest : Bytes, Varint.Spells code Multihash.sha256Code ∧
      Varint.Spells size digest.length ∧ digest.length ≤ Multihash.maxLength ∧
      hash = code ++ size ++ digest
  alone := HashLike
  code code := Varint.Spells code Multicodec.json

section Suites

variable [Suite]

theorem Identifier.mono {a b : Dialect} (genesis : ∀ hash, a.genesis hash → b.genesis hash)
    (alone : ∀ hash, a.alone hash → b.alone hash) (code : ∀ bytes, a.code bytes → b.code bytes)
    {did : String} (h : a.Identifier did) : b.Identifier did := by
  cases h with
  | key sized point => exact .key sized point
  | genesis h => exact .genesis (genesis _ h)
  | alone h => exact .alone (alone _ h)
  | long h read => exact .long (code _ h) read

theorem lenient_of_strict {did : String} (h : strict.Identifier did) : lenient.Identifier did := by
  refine h.mono ?_ ?_ ?_
  · rintro _ ⟨digest, length, rfl⟩
    refine ⟨?_, _, _, digest, Varint.spells_encode (by decide), Varint.spells_encode ?_, ?_, rfl⟩
    · rw [Multihash.length_encode_wrap length]
      decide
    · rw [length]
      decide
    · rw [length]
      decide
  · rintro _ ⟨digest, length, rfl⟩
    exact hashLike_wrap length
  · rintro _ rfl
    exact Varint.spells_encode (by decide)

end Suites

end Dialect

/-- A DID of form 0 with a signing key that is no point of the curve, its code spelled in any way. -/
def Pointless [Suite] (did : String) : Prop :=
  ∃ (code : Bytes) (k : Key), Varint.Spells code k.kind.code ∧ k.Sized ∧ k.kind = .ed25519 ∧
    Suite.agreementKey? k.bytes = none ∧ did = scheme ++ "0" ++ Multibase.encode (code ++ k.bytes)

/-! ## The form of the identifier -/

section Parts

variable {f : PeerForm} {front : String}
  (digit : front.toList = scheme.toList ++ [f.number.digitChar])

include digit

theorem toList_front (text : String) :
    (front ++ text).toList = scheme.toList ++ f.number.digitChar :: text.toList := by
  rw [String.toList_append, digit, List.append_assoc, List.singleton_append]

theorem eq_of_parts? {did : String} {body : List Char} (h : parts? did = some (f, body)) :
    did = front ++ String.ofList body := by
  rw [← String.toList_inj, toList_front digit, String.toList_ofList]
  exact (parts?_eq_some.mp h).1

theorem parts?_front {text : String} (h : isBody f text.toList = true) :
    parts? (front ++ text) = some (f, text.toList) :=
  parts?_eq_some.mpr ⟨toList_front digit text, h⟩

end Parts

theorem digit_key : (scheme ++ "0").toList
    = scheme.toList ++ [PeerForm.inceptionKey.number.digitChar] := rfl

theorem digit_genesis : (scheme ++ "1").toList
    = scheme.toList ++ [PeerForm.genesisHash.number.digitChar] := rfl

theorem digit_hash : hashScheme.toList
    = scheme.toList ++ [PeerForm.hashAndDocument.number.digitChar] := rfl

theorem isShortBody_encode {bytes : Bytes} :
    isShortBody (Multibase.encode bytes).toList = true ↔
      5 ≤ (Base58.encode bytes).toList.length ∧ (Base58.encode bytes).toList.length ≤ 200 := by
  have all : (Base58.encode bytes).toList.all isDigit = true := Base58.all_encode bytes
  rw [Multibase.toList_encode, isShortBody, all, Bool.and_true, Bool.and_eq_true, decide_eq_true_iff,
    decide_eq_true_iff]

/-- The identifier of form 4 is a hash, alone or with a document. -/
theorem isHashBody_cases {body : List Char} (h : isHashBody body = true) :
    (∃ hash, HashLike hash ∧ body = hash.toList) ∨
      ∃ hash encoded, HashLike hash ∧ DocumentLike encoded ∧
        body = hash.toList ++ ':' :: encoded.toList := by
  unfold isHashBody at h
  split at h
  · next rest =>
    simp only [Bool.and_eq_true, beq_iff_eq] at h
    obtain ⟨⟨length, all⟩, tail⟩ := h
    have parts := List.take_append_drop 46 rest
    have hash : HashLike (String.ofList ('z' :: rest.take 46)) :=
      ⟨_, String.toList_ofList, length, all⟩
    split at tail
    · next none =>
      rw [none, List.append_nil] at parts
      exact .inl ⟨_, hash, by rw [String.toList_ofList, parts]⟩
    · next digits some =>
      simp only [Bool.and_eq_true, decide_eq_true_eq] at tail
      rw [some] at parts
      refine .inr ⟨_, String.ofList ('z' :: digits), hash, ⟨_, String.toList_ofList, tail⟩, ?_⟩
      rw [String.toList_ofList, String.toList_ofList, List.cons_append, parts]
    · cases tail
  · cases h

/-- The first byte of what is encoded gives the least length of its text. -/
theorem five_lt_length_encode {code bytes : Bytes} {n : Nat} (spelled : Varint.Spells code n)
    (large : 128 ≤ n) (more : 2 ≤ bytes.length) :
    5 < (Base58.encode (code ++ bytes)).toList.length := by
  obtain ⟨b, rest, high, one, rfl⟩ := spelled.eq_cons large
  have three : 3 ≤ (rest ++ bytes).length := by
    rw [List.length_append]
    omega
  refine Base58.lt_length_encode (k := 5) (Nat.le_trans ?_ (Nat.mul_le_mul high
    (Nat.pow_le_pow_right (show 0 < 256 by decide) three)))
  decide

/-- No text of fewer than two bytes is read as a document. -/
theorem two_le_of_read {json : Bytes} {d : Document}
    (h : Reader.ofBytes Document.reader.read json = .ok d) : 2 ≤ json.length := by
  have empty : (Reader.ofBytes Document.reader.read []).toOption = none := by decide +kernel
  have single : ∀ n : Fin 256,
      (Reader.ofBytes Document.reader.read [UInt8.ofNat n]).toOption = none := by decide +kernel
  match json, h with
  | [], h =>
    rw [h] at empty
    cases empty
  | [b], h =>
    have byte := single ⟨b.toNat, b.toNat_lt⟩
    rw [UInt8.ofNat_toNat, h] at byte
    cases byte
  | _ :: _ :: _, _ => exact Nat.le_add_left 2 _

/-- What is read as a document is its text with a spelling of the code, behind the hash of both. -/
theorem decodeDocument?_eq_some {hash encoded : String} {d : Document} :
    decodeDocument? hash encoded = some d ↔ hash = hashText (Utf8.ofString encoded) ∧
      ∃ code json, Varint.Spells code Multicodec.json ∧ encoded = Multibase.encode (code ++ json) ∧
        Reader.ofBytes Document.reader.read json = .ok d := by
  constructor
  · intro h
    unfold decodeDocument? at h
    split at h
    · cases h
    next same =>
    split at h
    · cases h
    next bytes text =>
    split at h
    · cases h
    next number json split =>
    split at h
    · cases h
    next known =>
    obtain ⟨code, spelled, rfl⟩ := Varint.decode_eq_ok.mp split
    refine ⟨(not_not.mp same).symm, code, json, not_not.mp known ▸ spelled,
      Multibase.decode_eq_ok.mp text, ?_⟩
    cases read : Reader.ofBytes Document.reader.read json with
    | error e =>
      rw [read] at h
      cases h
    | ok d' =>
      rw [read] at h
      cases h
      rfl
  · rintro ⟨rfl, code, json, spelled, rfl, read⟩
    rw [decodeDocument?, if_neg (not_not_intro rfl), Multibase.decode_encode]
    dsimp only
    rw [Multicodec.split, spelled.decode]
    dsimp only
    rw [if_neg (not_not_intro rfl), read]
    rfl

/-! ## Reading each form -/

section Suites

variable [Suite]

/-- A key that is no point of the curve has no document. -/
theorem ofKey_pointless {k : Key} (sized : k.Sized) (kind : k.kind = .ed25519)
    (none : Suite.agreementKey? k.bytes = none) : ofKey k = .error .notAPoint := by
  unfold ofKey Key.document
  rw [kind, Key.toX25519_signing kind sized, none]
  rfl

theorem ofDid_of_pointless {did : String} (h : Pointless did) : ofDid did = .error .notAPoint := by
  obtain ⟨code, k, spelled, sized, kind, none, rfl⟩ := h
  have bytes : k.bytes.length = 32 := sized
  have large : 128 ≤ k.kind.code := by
    rw [kind]
    decide
  have low := five_lt_length_encode spelled large (show 2 ≤ k.bytes.length by omega)
  have high := Base58.length_encode_le (code ++ k.bytes)
  have short := spelled.length_le
  rw [List.length_append] at high
  have parts := parts?_front digit_key
    (isShortBody_encode.mpr ⟨Nat.le_of_lt low, by omega⟩)
  have key := Key.ofFingerprint_eq_ok.mpr ⟨sized, code, spelled, rfl⟩
  rw [ofDid, parts]
  dsimp only
  rw [String.ofList_toList, key]
  dsimp only
  rw [ofKey_pointless sized kind none]
  rfl

/-- Form 0 is read if its key is written as keys are. The curve is asked before the writing. -/
theorem ofDid_key_cases {did : String} {body : List Char}
    (parts : parts? did = some (.inceptionKey, body)) :
    (∃ p, ofDid did = .ok p ∧ Dialect.lenient.Identifier did) ∨
      (ofDid did = .error .notAPoint ∧ Pointless did) ∨ ofDid did = .error (.malformedDid did) := by
  have text := eq_of_parts? digit_key parts
  rw [ofDid, parts]
  dsimp only
  split
  · exact .inr (.inr rfl)
  · next k read =>
    obtain ⟨sized, code, spelled, written⟩ := Key.ofFingerprint_eq_ok.mp read
    by_cases point : k.kind = .ed25519 → (Suite.agreementKey? k.bytes).isSome = true
    · obtain ⟨d, made⟩ := ofKey_made sized point
      rw [made, Outcome.ok_bind]
      split
      · next same => exact .inl ⟨_, rfl, same ▸ .key sized point⟩
      · exact .inr (.inr rfl)
    · obtain ⟨kind, none⟩ := Classical.not_imp.mp point
      rw [Bool.not_eq_true, Option.isSome_eq_false_iff, Option.isNone_iff_eq_none] at none
      rw [ofKey_pointless sized kind none]
      exact .inr (.inl ⟨rfl, code, k, spelled, sized, kind, none, written ▸ text⟩)

/-- Form 1 is read if its hash is, however the code and the length in front are spelled. -/
theorem ofDid_genesis_cases {did : String} {body : List Char}
    (parts : parts? did = some (.genesisHash, body)) :
    (∃ p, ofDid did = .ok p ∧ Dialect.lenient.Identifier did) ∨
      ofDid did = .error (.malformedDid did) := by
  have text := eq_of_parts? digit_genesis parts
  have valid : isShortBody body = true := (parts?_eq_some.mp parts).2
  rw [ofDid, parts]
  dsimp only
  split
  · exact .inr rfl
  · next bytes read =>
    have written := Multibase.decode_eq_ok.mp read
    rw [← String.toList_ofList (l := body), written] at valid
    split
    · exact .inr rfl
    · next digest hash =>
      obtain ⟨code, size, spelled⟩ := Multihash.decode_eq_ok.mp hash
      rw [written] at text
      have low := (isShortBody_encode.mp valid).1
      exact .inl ⟨_, rfl, text ▸ .genesis ⟨low, code, size, digest, spelled⟩⟩

/-- Form 4 is read if it has no document, or a document behind its own hash. -/
theorem ofDid_hash_cases {did : String} {body : List Char}
    (parts : parts? did = some (.hashAndDocument, body)) :
    (∃ p, ofDid did = .ok p ∧ Dialect.lenient.Identifier did) ∨
      ofDid did = .error (.malformedDid did) := by
  have text := eq_of_parts? digit_hash parts
  rcases isHashBody_cases (parts?_eq_some.mp parts).2 with
    ⟨hash, like, rfl⟩ | ⟨hash, encoded, like, like', rfl⟩
  · rw [String.ofList_toList] at text
    subst text
    exact .inl ⟨_, ofDid_hashAlone like, .alone like⟩
  · have long : String.ofList (hash.toList ++ ':' :: encoded.toList) = hash ++ (":" ++ encoded) := by
      rw [← String.toList_inj, String.toList_ofList, String.toList_append, String.toList_append]
      rfl
    rw [long] at text
    subst text
    rw [ofDid, parts]
    dsimp only
    rw [longParts?_long like]
    dsimp only
    split
    · exact .inr rfl
    · next d told =>
      obtain ⟨rfl, code, json, spelled, rfl, read⟩ := decodeDocument?_eq_some.mp told
      refine .inl ⟨_, rfl, ?_⟩
      rw [← String.append_assoc, ← String.append_assoc]
      exact .long spelled read

/-- A text is read, or has a signing key that is no point of the curve, or is malformed. -/
theorem ofDid_cases (did : String) :
    (∃ p, ofDid did = .ok p ∧ Dialect.lenient.Identifier did) ∨
      (ofDid did = .error .notAPoint ∧ Pointless did) ∨ ofDid did = .error (.malformedDid did) := by
  cases parts : parts? did with
  | none =>
    refine .inr (.inr ?_)
    rw [ofDid, parts]
  | some part =>
    obtain ⟨form, body⟩ := part
    cases form with
    | inceptionKey => exact ofDid_key_cases parts
    | genesisHash => exact (ofDid_genesis_cases parts).imp_right .inr
    | hashAndDocument => exact (ofDid_hash_cases parts).imp_right .inr

/-- What the lenient grammar has is read. -/
theorem ofDid_of_identifier {did : String} (h : Dialect.lenient.Identifier did) :
    ∃ p, ofDid did = .ok p := by
  cases h with
  | key sized point =>
    obtain ⟨d, made⟩ := ofKey_made sized point
    have read := ofDid_ofKey sized made
    exact ⟨_, read⟩
  | @genesis hash h =>
    obtain ⟨low, code, size, digest, spelled, measured, limit, written⟩ := h
    have high : (Base58.encode hash).toList.length ≤ 200 := by
      have := Base58.length_encode_le hash
      have := spelled.length_le
      have := measured.length_le
      have : Multihash.maxLength = 64 := rfl
      have : hash.length = code.length + size.length + digest.length := by
        rw [written, List.length_append, List.length_append]
      omega
    have parts := parts?_front digit_genesis
      (isShortBody_encode.mpr ⟨low, high⟩)
    have read := Multihash.decode_eq_ok.mpr ⟨code, size, spelled, measured, limit, written⟩
    rw [ofDid, parts]
    dsimp only
    rw [String.ofList_toList, Multibase.decode_encode]
    dsimp only
    rw [read]
    exact ⟨_, rfl⟩
  | alone h => exact ⟨_, ofDid_hashAlone h⟩
  | @long code json d spelled read =>
    have like : DocumentLike (Multibase.encode (code ++ json)) :=
      ⟨_, Multibase.toList_encode _,
        five_lt_length_encode spelled (by decide) (two_le_of_read read), Base58.all_encode _⟩
    have document := decodeDocument?_eq_some.mpr ⟨rfl, code, json, spelled, rfl, read⟩
    rw [String.append_assoc, String.append_assoc, ofDid, parts?_long (hashLike_hashText _) like]
    dsimp only
    rw [longParts?_long (hashLike_hashText _)]
    dsimp only
    rw [document]
    exact ⟨_, rfl⟩

/-! ## The language -/

theorem ofDid_eq_ok {did : String} :
    (∃ p, ofDid did = .ok p) ↔ Dialect.lenient.Identifier did := by
  refine ⟨?_, ofDid_of_identifier⟩
  rintro ⟨p, read⟩
  rcases ofDid_cases did with ⟨-, -, member⟩ | ⟨failed, -⟩ | failed
  · exact member
  · cases read.symm.trans failed
  · cases read.symm.trans failed

theorem ofDid_eq_notAPoint {did : String} : ofDid did = .error .notAPoint ↔ Pointless did := by
  refine ⟨fun failed => ?_, ofDid_of_pointless⟩
  rcases ofDid_cases did with ⟨p, read, -⟩ | ⟨-, pointless⟩ | malformed
  · cases read.symm.trans failed
  · exact pointless
  · cases malformed.symm.trans failed

theorem ofDid_eq_malformed {did : String} :
    ofDid did = .error (.malformedDid did) ↔
      ¬ Dialect.lenient.Identifier did ∧ ¬ Pointless did := by
  constructor
  · intro malformed
    refine ⟨fun member => ?_, fun pointless => ?_⟩
    · obtain ⟨p, read⟩ := ofDid_of_identifier member
      cases read.symm.trans malformed
    · cases (ofDid_of_pointless pointless).symm.trans malformed
  · rintro ⟨outside, on_curve⟩
    rcases ofDid_cases did with ⟨-, -, member⟩ | ⟨-, pointless⟩ | malformed
    · exact absurd member outside
    · exact absurd pointless on_curve
    · exact malformed

/-- A text is read exactly if the strict grammar has it, and is malformed otherwise. -/
def Exact (did : String) : Prop :=
  ((∃ p, ofDid did = .ok p) ↔ Dialect.strict.Identifier did) ∧
    (¬ Dialect.strict.Identifier did → ofDid did = .error (.malformedDid did))

/-- What is read is the lenient grammar, and what is outside of it is malformed but for a signing key
that is no point of the curve, which is an error of its own. So the reader is exact but for what the
lenient grammar adds to the strict one, and for such keys. -/
theorem ofDid_language (did : String) :
    ((∃ p, ofDid did = .ok p) ↔ Dialect.lenient.Identifier did) ∧
    (ofDid did = .error .notAPoint ↔ Pointless did) ∧
    (ofDid did = .error (.malformedDid did) ↔
      ¬ Dialect.lenient.Identifier did ∧ ¬ Pointless did) ∧
    (Exact did ↔
      (Dialect.lenient.Identifier did → Dialect.strict.Identifier did) ∧ ¬ Pointless did) := by
  refine ⟨ofDid_eq_ok, ofDid_eq_notAPoint, ofDid_eq_malformed, ?_, ?_⟩
  · rintro ⟨accepted, otherwise⟩
    refine ⟨fun member => accepted.mp (ofDid_eq_ok.mpr member), fun pointless => ?_⟩
    have failed := ofDid_of_pointless pointless
    by_cases strict : Dialect.strict.Identifier did
    · obtain ⟨p, read⟩ := accepted.mpr strict
      cases read.symm.trans failed
    · cases (otherwise strict).symm.trans failed
  · rintro ⟨no_more, on_curve⟩
    refine ⟨ofDid_eq_ok.trans ⟨no_more, Dialect.lenient_of_strict⟩, fun outside => ?_⟩
    exact ofDid_eq_malformed.mpr ⟨fun member => outside (no_more member), on_curve⟩

/-- Of the texts with the form of a hash, form 4 has those that a dialect takes for one. -/
theorem Dialect.Identifier.of_hashLike {dialect : Dialect} {text : String} (like : HashLike text)
    (h : dialect.Identifier (hashScheme ++ text)) : dialect.alone text := by
  have form := form_of_parts? (parts?_hashAlone like)
  generalize e : hashScheme ++ text = did at h
  cases h with
  | key =>
    rw [e] at form
    cases form_of_digit form (toList_front digit_key _)
  | genesis =>
    rw [e] at form
    cases form_of_digit form (toList_front digit_genesis _)
  | alone h =>
    have same := congrArg (Text.after? hashScheme) e
    rw [Text.after?_append, Text.after?_append] at same
    exact Option.some.inj same ▸ h
  | long =>
    rw [String.append_assoc, String.append_assoc] at e
    have told := congrArg longParts? e
    rw [longParts?_hashAlone like, longParts?_long (hashLike_hashText _)] at told
    cases told

end Suites

/-! ## A hash of no hash function -/

section Plain

attribute [local instance] Suite.plain

/-- The short form of form 4 with a hash of zeros, of 46 bytes and with no code in front, is read. -/
theorem hash_not_always_exact :
    ¬ Exact "did:peer:4z1111111111111111111111111111111111111111111111" := by
  have like : HashLike "z1111111111111111111111111111111111111111111111" :=
    ⟨List.replicate 46 '1', by rfl, rfl, by decide⟩
  intro exact
  obtain ⟨digest, length, hash⟩ := Dialect.Identifier.of_hashLike like
    (exact.1.mp ⟨_, ofDid_hashAlone like⟩)
  have zeros : Multibase.encode (List.replicate 46 0)
      = "z1111111111111111111111111111111111111111111111" := by
    rw [← String.toList_inj, Multibase.toList_encode, Base58.toList_encode,
      show Bytes.toNatBE (List.replicate 46 0) = 0 from rfl, Base58.digits_zero]
    rfl
  have same := Multibase.encode_inj (zeros.trans hash)
  rw [Multihash.wrap_eq length] at same
  have first : (0 : UInt8) = 0x12 := Option.some.inj (congrArg List.head? same)
  exact absurd first (by decide)

end Plain

end PeerDid

end Pairwise
