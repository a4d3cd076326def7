import Pairwise.Proofs.Sealing
import Pairwise.Proofs.SignedDocument
/-!
# Documents that were signed

A document that is signed with a key of the wallet is accepted by whoever knows the key: because it is
an authentication key of the document, or because it is allowed.

Results:
* `Suite.Lawful.acceptsSigned`: the keys of a lawful suite accept what their seeds sign.
* `SignedDocument.sign_stands`: the signature of a document stands under the key.
* `SignedDocument.verify_attach`: the attachment of a signed document gives the document.
-/
namespace Pairwise

namespace Jwk

theorem toKey_ofKey {k : Key} (h : k.Sized) : (ofKey k).toKey = .ok k := by
  obtain ⟨bytes, kind⟩ := k
  have kind? : (ofKey ⟨bytes, kind⟩).kind? = some kind := by cases kind <;> rfl
  rw [toKey, kind?]
  change (do
    let bytes ← (Base64Url.decode (Base64Url.encode bytes)).mapError Error.base64
    if bytes.length = Key.length then return (⟨bytes, kind⟩ : Key) else .error .jwkLength) = _
  rw [Base64Url.decode_encode]
  exact if_pos h

end Jwk

theorem Signature.decodeHeader_encode (h : ProtectedHeader) (kid value : String) :
    decodeHeader ⟨kid, Base64Url.encode h.toJson.bytes, value⟩ = .ok h := by
  have read : Json.Reader.ofBytes ProtectedHeader.reader.read h.toJson.bytes = .ok h := by
    rw [Json.Reader.ofBytes_bytes _ (h.fits _), h.reads.given]
  exact Outcome.bind_eq_ok.mpr ⟨_, Outcome.mapError_eq_ok.mpr (Base64Url.decode_encode _),
    Outcome.mapError_eq_ok.mpr read⟩

theorem SignedDocument.decodePayload_payload {d : Document} (h : d.Ordered) :
    decodePayload (payload d) = .ok d := by
  have read : Json.Reader.ofBytes Document.reader.read d.toJson.bytes = .ok d := by
    rw [Json.Reader.ofBytes_bytes _ (Document.fits h _), (Document.reads h).given]
  exact Outcome.bind_eq_ok.mpr ⟨_, Outcome.mapError_eq_ok.mpr (Base64Url.decode_encode _),
    Outcome.mapError_eq_ok.mpr read⟩

variable [suite : Suite]

/-- A key accepts what its seed signs. -/
def Suite.AcceptsSigned (suite : Suite) : Prop :=
  ∀ seed text, (Wallet.keyOf seed).verify text (suite.sign seed text) = .ok true

theorem Suite.Lawful.acceptsSigned (lawful : suite.Lawful) : suite.AcceptsSigned := by
  intro seed text
  have usable := Key.usable_keyOf lawful seed
  obtain ⟨x, hx, -⟩ := usable.agreement
  exact Key.verify_eq_true.mpr ⟨rfl, usable.sized, by rw [hx]; rfl, lawful.verify_sign seed text⟩

namespace SignedDocument

theorem sign_stands (accepts : suite.AcceptsSigned) {w : Wallet} {k : Key} (signs : k.kind = .ed25519)
    (held : w.holds k = true) (d : Document) :
    ∃ s, sign w d k = .ok (.flattened s) ∧ Stands (payload d) s k := by
  obtain ⟨seed, hseed⟩ := Option.isSome_iff_exists.mp held
  obtain rfl := Wallet.eq_keyOf signs hseed
  have signed (text : Bytes) : w.sign (Wallet.keyOf seed) text = .ok (suite.sign seed text) := by
    rw [Wallet.sign, Wallet.seedOf, hseed]
    rfl
  let text := Base64Url.encode (header (Wallet.keyOf seed)).toJson.bytes
  let value := suite.sign seed (Utf8.ofString (text ++ "." ++ payload d))
  obtain ⟨kind, sized, point, verifies⟩ := Key.verify_eq_true.mp (accepts seed _)
  refine ⟨⟨(Wallet.keyOf seed).did, text, Base64Url.encode value⟩, ?_, ?_⟩
  · unfold sign
    change (do
      let value ← w.sign (Wallet.keyOf seed) (Utf8.ofString (text ++ "." ++ payload d))
      _) = _
    rw [signed]
    rfl
  · constructor
    case header =>
      exact ⟨_, Signature.decodeHeader_encode _ _ _, rfl, Jwk.toKey_ofKey sized⟩
    case kid =>
      rw [checkKid, Did.key_did sized]
      exact if_pos rfl
    case kind => exact kind
    case whole => exact ⟨sized, point⟩
    case verifies => exact ⟨value, Base64Url.read_encode _, verifies⟩

/-- The attachment of a signed document gives the document to whoever knows the key. -/
theorem verify_attach (lawful : suite.Lawful) {w : Wallet} {k : Key} (signs : k.kind = .ed25519)
    (held : w.holds k = true) {d : Document} (ordered : d.Ordered) {keys : List Key}
    (hkeys : d.authenticationKeys = .ok keys) :
    ∃ jws, sign w d k = .ok jws ∧ ∀ id allowed, k ∈ keys ++ allowed →
      verify (attach id d jws) allowed = .ok d := by
  obtain ⟨s, hs, stands⟩ := sign_stands lawful.acceptsSigned signs held d
  refine ⟨_, hs, fun id allowed known => verify_eq_ok.mpr ?_⟩
  refine ⟨_, _, keys, rfl, rfl, decodePayload_payload ordered, hkeys, ?_⟩
  exact List.forall_mem_singleton.mpr ⟨k, stands, known⟩

end SignedDocument

end Pairwise
