import Pairwise.Did.Key
import Pairwise.Proofs.Multiformats
import Pairwise.Proofs.Outcome
import Pairwise.Proofs.Texts
/-!
# Keys that were written are read

Results:
* `ofBase58_base58`, `ofFingerprint_fingerprint`, `Did.key_did`: a key of 32 bytes is read back from
  its bare text, its fingerprint, and its DID.
* `eq_of_base58_eq`: keys of one kind have different texts.
* `ofBase58_fails`, `Document.authenticationKeys_fails`: what goes wrong with a key is wrong with the key.
* `Usable`: a signing key with its agreement key; every key that is made of a seed is one.
-/
namespace Pairwise

namespace Multibase

/-- A text in base 58 with its mark is made of digits of base 58, of which the mark is one. -/
theorem all_encode (bytes : Bytes) :
    ∀ c ∈ (encode bytes).toList, c ∈ Base58.alphabet := by
  rw [toList_encode]
  intro c hc
  rcases List.mem_cons.mp hc with rfl | hc
  · decide
  · exact List.contains_iff_mem.mp (List.all_eq_true.mp (Base58.all_encode bytes) c hc)

theorem not_mem_encode {c : Char} (h : c ∉ Base58.alphabet) (bytes : Bytes) :
    c ∉ (encode bytes).toList := fun hc => h (all_encode bytes c hc)

end Multibase

namespace Key

/-- A key has the length of all keys. -/
def Sized (k : Key) : Prop := k.bytes.length = length

theorem ofBase58_base58 {k : Key} (h : k.Sized) : ofBase58 k.base58 k.kind = .ok k := by
  rw [ofBase58, decodeBase58, base58, Base58.decode_encode]
  exact if_pos h

/-- A key that is read has the length of keys. -/
theorem sized_of_ofBase58 {text : String} {kind : KeyKind} {k : Key}
    (h : ofBase58 text kind = .ok k) : k.Sized := by
  obtain ⟨bytes, -, h⟩ := Outcome.bind_eq_ok.mp h
  split at h
  · next length =>
    cases h
    exact length
  · cases h

/-- A key that is read from the text of another has its bytes. -/
theorem eq_of_ofBase58 {k k' : Key} {kind : KeyKind} (h : ofBase58 k.base58 kind = .ok k') :
    k' = { k with kind } := by
  rw [ofBase58, decodeBase58, base58, Base58.decode_encode] at h
  obtain ⟨bytes, hbytes, h⟩ := Outcome.bind_eq_ok.mp h
  cases hbytes
  split at h
  · cases h
    rfl
  · cases h

/-- The bytes of a key are those its text is made of. -/
theorem bytes_eq_of_base58_eq {k k' : Key} (h : k.base58 = k'.base58) : k.bytes = k'.bytes :=
  Base58.encode_inj h

theorem eq_of_base58_eq {k k' : Key} (kind : k.kind = k'.kind) (h : k.base58 = k'.base58) :
    k = k' := by
  cases k
  cases k'
  cases kind
  cases bytes_eq_of_base58_eq h
  rfl

theorem code_lt (kind : KeyKind) : kind.code < UInt64.size := by cases kind <;> decide

theorem ofFingerprint_fingerprint {k : Key} (h : k.Sized) :
    ofFingerprint k.fingerprint = .ok k := by
  rw [ofFingerprint, decodeMultibase, fingerprint, Multibase.body?_encode]
  dsimp only
  rw [decodeBase58, Base58.decode_encode, tagged]
  dsimp only [bind, Except.bind, Except.mapError]
  rw [Multicodec.split_tag (code_lt k.kind)]
  simp only [KeyKind.ofCode?_code]
  exact if_pos h

theorem not_mem_fingerprint {c : Char} (h : c ∉ Base58.alphabet) (k : Key) :
    c ∉ k.fingerprint.toList := Multibase.not_mem_encode h k.tagged

theorem fingerprint_inj {k k' : Key} (h : k.Sized) (h' : k'.Sized)
    (e : k.fingerprint = k'.fingerprint) : k = k' := by
  have read : ofFingerprint k.fingerprint = ofFingerprint k'.fingerprint := congrArg ofFingerprint e
  rw [ofFingerprint_fingerprint h, ofFingerprint_fingerprint h'] at read
  exact Except.ok.inj read

end Key

namespace Did

/-- The key of a DID is read back, with any fragment behind it. -/
theorem key_did {k : Key} (h : k.Sized) : Did.key k.did = .ok k := by
  rw [key, Key.did, Text.after?_append]
  dsimp only
  rw [Text.before_eq_self (Key.not_mem_fingerprint (by decide) k), Key.ofFingerprint_fingerprint h]
  rfl

theorem key_fragment {k : Key} (h : k.Sized) (fragment : String) :
    Did.key (k.did ++ "#" ++ fragment) = .ok k := by
  have text : (k.fingerprint ++ ("#" ++ fragment)).toList
      = k.fingerprint.toList ++ '#' :: fragment.toList := by
    rw [String.toList_append, String.toList_append]
    rfl
  rw [key, Key.did, String.append_assoc, String.append_assoc, Text.after?_append]
  dsimp only
  rw [Text.before_eq_part (Key.not_mem_fingerprint (by decide) k) text,
    Key.ofFingerprint_fingerprint h]
  rfl

end Did

/-! ## What is wrong with a key -/

/-- A key cannot be read from its text, is no point of the curve, or is not where it was looked for. -/
def Error.OfKey : Error → Prop
  | .base58 _ _ | .unknownBase _ | .keyLength _ | .multicodec _ | .unsupportedKeyCode _
  | .fingerprintLength _ | .conversionKeyLength | .notAPoint | .methodWithoutKey _ _
  | .keyNotFound _ => True
  | _ => False

section Errors

open Outcome (Fails)

namespace Key

theorem ofBase58_fails (text : String) (kind : KeyKind) : Fails Error.OfKey (ofBase58 text kind) := by
  refine .bind (.mapError fun _ => trivial) fun bytes _ => ?_
  split
  · exact .ok _
  · exact .error trivial

theorem ofFingerprint_fails (text : String) : Fails Error.OfKey (ofFingerprint text) := by
  refine .bind ?_ fun bytes _ => .bind (.mapError fun _ => trivial) fun (_, _) _ => ?_
  · unfold decodeMultibase
    split
    · exact .error trivial
    · exact .mapError fun _ => trivial
  · dsimp only
    split
    · exact .error trivial
    · split
      · exact .ok _
      · exact .error trivial

theorem toX25519_fails [Suite] (k : Key) : Fails Error.OfKey k.toX25519 := by
  unfold toX25519
  split
  · exact .ok _
  · split
    · exact .error trivial
    · split
      · exact .ok _
      · exact .error trivial

theorem document_fails [Suite] (k : Key) (did : String) : Fails Error.OfKey (k.document did) := by
  unfold document
  dsimp only
  split
  · exact .bind k.toX25519_fails fun _ _ => .ok _
  · exact .ok _

end Key

theorem VerificationMethod.toKey_fails (m : VerificationMethod) : Fails Error.OfKey m.toKey := by
  have unsupported : Fails Error.OfKey (.error (.methodWithoutKey m.id m.kind) : Except Error Key) :=
    .error trivial
  unfold toKey
  dsimp only
  split
  · split
    · exact Key.ofBase58_fails _ _
    · exact unsupported
  split
  · split
    · exact Key.ofBase58_fails _ _
    · exact unsupported
  split
  · split
    · exact Key.ofFingerprint_fails _
    · exact unsupported
  · exact unsupported

namespace Document

variable (d : Document)

theorem method_fails (reference : String) : Fails Error.OfKey (d.method reference) := by
  unfold method
  split
  · exact .ok _
  · exact .error trivial

theorem authenticationKeys_fails : Fails Error.OfKey d.authenticationKeys := by
  refine .mapM fun entry _ => ?_
  cases entry with
  | reference id => exact .bind (d.method_fails _) fun m _ => m.toKey_fails
  | embedded m => exact m.toKey_fails

end Document

end Errors

/-! ## Keys that messages are sealed for -/

variable [Suite]

/-- A signing key that messages can be sealed for. -/
structure Key.Usable (k : Key) : Prop where
  signs : k.kind = .ed25519
  sized : k.Sized
  agreement : ∃ x, Suite.agreementKey? k.bytes = some x ∧ x.length = Key.length

namespace Key

/-- The agreement key of a signing key is the other kind of key on the same point. -/
theorem toX25519_signing {k : Key} (signs : k.kind = .ed25519) (sized : k.Sized) :
    k.toX25519 = match Suite.agreementKey? k.bytes with
      | some bytes => .ok ⟨bytes, .x25519⟩
      | none => .error .notAPoint := by
  rw [Key.toX25519, signs]
  exact if_neg (not_not_intro sized)

theorem Usable.toX25519 {k : Key} (h : k.Usable) :
    ∃ agreement, k.toX25519 = .ok agreement ∧ agreement.kind = .x25519 ∧ agreement.Sized ∧
      Suite.agreementKey? k.bytes = some agreement.bytes := by
  obtain ⟨x, hx, length⟩ := h.agreement
  refine ⟨⟨x, .x25519⟩, ?_, rfl, length, hx⟩
  rw [toX25519_signing h.signs h.sized, hx]

end Key

end Pairwise
