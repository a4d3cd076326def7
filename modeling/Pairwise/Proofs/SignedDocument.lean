import Pairwise.Message.SignedDocument
import Pairwise.Proofs.Outcome
/-!
# What a signed document proves

An attachment is accepted when every one of its signatures stands and every signer is entitled. A
list of signatures may be empty, and then nobody has signed: the document is accepted all the same.

Results:
* `verify_ok_iff`: an attachment gives a document exactly if it is `Authorized`, with a signature and
  none that does not stand, or `Unsigned`.
* `unsigned_accepted`: a document that nobody has signed is accepted.
-/
namespace Pairwise

/-! ## The checks apart from the cryptography -/

theorem checkSignatureAlgorithm_eq_ok {name : String} :
    checkSignatureAlgorithm name = .ok () ↔ name = signatureAlgorithm := by
  unfold checkSignatureAlgorithm
  split
  · next h => exact ⟨fun _ => h, fun _ => rfl⟩
  · next h => exact ⟨fun e => (nomatch e), fun e => absurd e h⟩

theorem Jws.signatures_eq_nil {jws : Jws} : jws.signatures = [] ↔ jws = .general [] := by
  cases jws <;> simp [Jws.signatures]

/-- No stranger is found among the signers exactly if each of them is entitled. -/
theorem find?_stranger_eq_none {signers keys : List Key} :
    (signers.find? fun s => !keys.contains s) = none ↔ ∀ s ∈ signers, s ∈ keys := by
  simp [List.find?_eq_none]

/-! ## Keys and signatures -/

variable [Suite]

/-- Only a signing key verifies, and only a whole one. -/
theorem Key.verify_eq_true {key : Key} {text value : Bytes} :
    key.verify text value = .ok true ↔
      key.kind = .ed25519 ∧ key.bytes.length = Key.length ∧
        (Suite.agreementKey? key.bytes).isSome ∧ Suite.verify key.bytes text value = true := by
  obtain ⟨bytes, kind⟩ := key
  cases kind with
  | x25519 => exact ⟨fun h => (nomatch h), fun h => (nomatch h.1)⟩
  | ed25519 =>
    simp only [Key.verify, Key.verifyBytes, true_and]
    by_cases hl : bytes.length = Key.length
    · rw [if_neg (not_not_intro hl)]
      cases hp : Suite.agreementKey? bytes with
      | none => simp
      | some point => simp [hl]
    · rw [if_pos hl]
      exact ⟨fun h => (nomatch h), fun h => absurd h.1 hl⟩

namespace SignedDocument

/-- A signature stands under a key: the key is an Ed25519 key, it is the one in the signature's own
header, and it verifies the text of the header and the payload with a point between them. -/
structure Stands (payload : String) (s : Signature) (key : Key) : Prop where
  header : ∃ h, s.decodeHeader = .ok h ∧ h.alg = signatureAlgorithm ∧ h.jwk.toKey = .ok key
  kid : checkKid s.kid key = .ok ()
  kind : key.kind = .ed25519
  whole : key.bytes.length = Key.length ∧ (Suite.agreementKey? key.bytes).isSome
  verifies : ∃ value, Base64Url.read s.value = .ok value ∧
    Suite.verify key.bytes (Utf8.ofString (s.header ++ "." ++ payload)) value = true

/-- The attachment holds the document, there is a signature, and every signature stands under a key
that is an authentication key of the document or one of the allowed keys. -/
def Authorized (a : Attachment) (allowed : List Key) (document : Document) : Prop :=
  ∃ jws payload keys, a.data.jws = some jws ∧ a.data.base64 = some payload ∧
    decodePayload payload = .ok document ∧ document.authenticationKeys = .ok keys ∧
    jws.signatures ≠ [] ∧
    ∀ s ∈ jws.signatures, ∃ key, Stands payload s key ∧ (key ∈ keys ∨ key ∈ allowed)

/-- The attachment holds the document, whose authentication keys can be read, and an empty list of
signatures. -/
def Unsigned (a : Attachment) (document : Document) : Prop :=
  ∃ payload keys, a.data.jws = some (.general []) ∧ a.data.base64 = some payload ∧
    decodePayload payload = .ok document ∧ document.authenticationKeys = .ok keys

/-! ## One signature -/

/-- A signature has a signer exactly if it stands under the signer's key. -/
theorem signer_eq_ok {payload : String} {s : Signature} {key : Key} :
    signer payload s = .ok key ↔ Stands payload s key := by
  simp only [signer, Outcome.bind_eq_ok]
  constructor
  · rintro ⟨h, hh, ⟨⟩, halg, key', hkey, ⟨⟩, hkid, value, hvalue, stands, hstands, hres⟩
    cases stands with
    | false => cases hres
    | true =>
      cases hres
      obtain ⟨kind, length, point, verifies⟩ := Key.verify_eq_true.mp hstands
      exact ⟨⟨h, hh, checkSignatureAlgorithm_eq_ok.mp halg, Outcome.mapError_eq_ok.mp hkey⟩, hkid,
        kind, ⟨length, point⟩, value, Outcome.mapError_eq_ok.mp hvalue, verifies⟩
  · rintro ⟨⟨h, hh, halg, hkey⟩, hkid, kind, ⟨length, point⟩, value, hvalue, verifies⟩
    exact ⟨h, hh, (), checkSignatureAlgorithm_eq_ok.mpr halg, key, Outcome.mapError_eq_ok.mpr hkey,
      (), hkid, value, Outcome.mapError_eq_ok.mpr hvalue, true,
      Key.verify_eq_true.mpr ⟨kind, length, point, verifies⟩, rfl⟩

/-! ## The whole attachment -/

/-- What `verify` asks of an attachment. -/
theorem verify_eq_ok {a : Attachment} {allowed : List Key} {document : Document} :
    verify a allowed = .ok document ↔
      ∃ jws payload keys, a.data.jws = some jws ∧ a.data.base64 = some payload ∧
        decodePayload payload = .ok document ∧ document.authenticationKeys = .ok keys ∧
        ∀ s ∈ jws.signatures, ∃ key, Stands payload s key ∧ key ∈ keys ++ allowed := by
  unfold verify
  constructor
  · intro h
    split at h
    · cases h
    · cases h
    · next jws payload hjws hpayload =>
      obtain ⟨signers, hsigners, h⟩ := Outcome.bind_eq_ok.mp h
      obtain ⟨document', hdocument, h⟩ := Outcome.bind_eq_ok.mp h
      obtain ⟨keys, hkeys, h⟩ := Outcome.bind_eq_ok.mp h
      dsimp only at h
      split at h
      · cases h
      · next hnone =>
        cases h
        refine ⟨jws, payload, keys, hjws, hpayload, hdocument, hkeys, ?_⟩
        have stands := (Outcome.mapM_eq_ok.mp hsigners).imp fun _ _ => signer_eq_ok.mp
        exact Outcome.exists_forall₂_iff.mp ⟨signers, stands, find?_stranger_eq_none.mp hnone⟩
  · rintro ⟨jws, payload, keys, hjws, hpayload, hdocument, hkeys, hall⟩
    obtain ⟨signers, stands, entitled⟩ := Outcome.exists_forall₂_iff.mpr hall
    have hsigners := Outcome.mapM_eq_ok.mpr (stands.imp fun _ _ => signer_eq_ok.mpr)
    rw [hjws, hpayload]
    refine Outcome.bind_eq_ok.mpr ⟨signers, hsigners, ?_⟩
    refine Outcome.bind_eq_ok.mpr ⟨document, hdocument, ?_⟩
    refine Outcome.bind_eq_ok.mpr ⟨keys, hkeys, ?_⟩
    dsimp only
    rw [find?_stranger_eq_none.mpr entitled]
    rfl

/-- An attachment gives a document exactly if it is authorized, or if its list of signatures is
empty. -/
theorem verify_ok_iff (a : Attachment) (allowed : List Key) (document : Document) :
    verify a allowed = .ok document ↔ Authorized a allowed document ∨ Unsigned a document := by
  rw [verify_eq_ok]
  constructor
  · rintro ⟨jws, payload, keys, hjws, hpayload, hdocument, hkeys, hall⟩
    by_cases hempty : jws.signatures = []
    · rw [Jws.signatures_eq_nil.mp hempty] at hjws
      exact .inr ⟨payload, keys, hjws, hpayload, hdocument, hkeys⟩
    · refine .inl ⟨jws, payload, keys, hjws, hpayload, hdocument, hkeys, hempty, ?_⟩
      intro s hs
      obtain ⟨key, stands, entitled⟩ := hall s hs
      exact ⟨key, stands, List.mem_append.mp entitled⟩
  · rintro (⟨jws, payload, keys, hjws, hpayload, hdocument, hkeys, -, hall⟩ |
      ⟨payload, keys, hjws, hpayload, hdocument, hkeys⟩)
    · refine ⟨jws, payload, keys, hjws, hpayload, hdocument, hkeys, ?_⟩
      intro s hs
      obtain ⟨key, stands, entitled⟩ := hall s hs
      exact ⟨key, stands, List.mem_append.mpr entitled⟩
    · refine ⟨.general [], payload, keys, hjws, hpayload, hdocument, hkeys, ?_⟩
      exact fun s hs => absurd hs List.not_mem_nil

/-- The attachment of the empty document with an empty list of signatures. -/
def unsignedAttachment : Attachment := .ofBase64 "unsigned" "e30" (some (.general []))

omit [Suite] in
/-- A document that nobody has signed is accepted. -/
theorem unsigned_accepted :
    @verify Suite.standard unsignedAttachment [] = .ok {} ∧
      ¬ @Authorized Suite.standard unsignedAttachment [] {} := by
  constructor
  · rfl
  · rintro ⟨jws, payload, keys, hjws, -, -, -, hsigned, -⟩
    cases hjws
    exact hsigned rfl

end SignedDocument

end Pairwise
