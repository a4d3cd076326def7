import Mathlib.Data.List.Perm.Basic
import Pairwise.Proofs.PlainSuite
import Pairwise.Proofs.RoutingDocuments
import Pairwise.Proofs.Signing
/-!
# Documents with several signers

A document may be signed with several keys of a wallet. Its signatures are put together in any order, and
whoever reads the attachment judges it by the signers alone: it gives the document if all of them are
entitled, and is refused for one that is not.

Results:
* `SignedDocument.verify_of_stands`: an attachment whose signatures stand is judged by its signers.
* `SignedDocument.judged_by_signers`: so is every attachment that is made of signatures of the wallet.
-/
namespace Pairwise

/-- Several signatures, or one, are put together as they are. -/
theorem Jws.ofSignatures_ok {signatures : List Signature} (some : signatures ≠ []) :
    ∃ jws, ofSignatures signatures = .ok jws ∧ jws.signatures = signatures := by
  match signatures with
  | [] => exact absurd rfl some
  | [_] => exact ⟨_, rfl, rfl⟩
  | _ :: _ :: _ => exact ⟨_, rfl, rfl⟩

namespace SignedDocument

/-! ## Judgements -/

/-- A result is the document if all its signers are entitled, and otherwise it is that one of them is
not. -/
structure Judged (d : Document) (signers entitled : List Key) (result : Except Error Document) :
    Prop where
  accepted : (∀ k ∈ signers, k ∈ entitled) → result = .ok d
  refused : (∃ k ∈ signers, k ∉ entitled) →
    ∃ k ∈ signers, k ∉ entitled ∧ result = .error (.unauthorizedSigner k.fingerprint)

theorem judged_find? (d : Document) (signers entitled : List Key) :
    Judged d signers entitled (match signers.find? fun k => !entitled.contains k with
      | some stranger => .error (.unauthorizedSigner stranger.fingerprint)
      | none => .ok d) := by
  cases found : signers.find? fun k => !entitled.contains k with
  | none =>
    have all := find?_stranger_eq_none.mp found
    exact ⟨fun _ => rfl, fun ⟨k, signer, stranger⟩ => absurd (all k signer) stranger⟩
  | some k =>
    have signer := List.mem_of_find?_eq_some found
    have stranger : k ∉ entitled := by simpa using List.find?_some found
    exact ⟨fun all => absurd (all k signer) stranger, fun _ => ⟨k, signer, stranger, rfl⟩⟩

/-- The order of the signers does not matter to the judgement. -/
theorem Judged.perm {d : Document} {signers signers' entitled : List Key}
    {result : Except Error Document} (h : Judged d signers entitled result)
    (same : signers.Perm signers') : Judged d signers' entitled result where
  accepted all := h.accepted fun k signer => all k (same.subset signer)
  refused := by
    rintro ⟨k, signer, stranger⟩
    obtain ⟨k', signer', refused⟩ := h.refused ⟨k, same.symm.subset signer, stranger⟩
    exact ⟨k', same.subset signer', refused⟩

/-! ## Signatures of a wallet -/

section Suites

variable [suite : Suite]

/-- Where all signatures stand, only the signers are looked at. -/
theorem verify_of_stands {a : Attachment} {jws : Jws} {payload : String} (hjws : a.data.jws = some jws)
    (hpayload : a.data.base64 = some payload) {d : Document} (holds : decodePayload payload = .ok d)
    {authentication : List Key} (resolved : d.authenticationKeys = .ok authentication)
    {signers : List Key} (stand : List.Forall₂ (Stands payload) jws.signatures signers)
    (allowed : List Key) :
    verify a allowed = match signers.find? fun k => !(authentication ++ allowed).contains k with
      | some stranger => .error (.unauthorizedSigner stranger.fingerprint)
      | none => .ok d := by
  have found := Outcome.mapM_eq_ok.mpr (stand.imp fun _ _ => signer_eq_ok.mpr)
  rw [verify, hjws, hpayload]
  dsimp only
  rw [found, Outcome.ok_bind, holds, Outcome.ok_bind, resolved, Outcome.ok_bind]
  rfl

/-- A document is signed with every key of a list. -/
theorem exists_signatures (accepts : suite.AcceptsSigned) {w : Wallet} {keys : List Key}
    (held : ∀ k ∈ keys, k.kind = .ed25519 ∧ w.holds k = true) (d : Document) :
    ∃ signatures, List.Forall₂ (fun k s => sign w d k = .ok (.flattened s)) keys signatures ∧
      List.Forall₂ (Stands (payload d)) signatures keys := by
  induction keys with
  | nil => exact ⟨[], .nil, .nil⟩
  | cons k keys ih =>
    obtain ⟨⟨signs, holds⟩, others⟩ := List.forall_mem_cons.mp held
    obtain ⟨s, made, stands⟩ := sign_stands accepts signs holds d
    obtain ⟨signatures, mades, stand⟩ := ih others
    exact ⟨s :: signatures, .cons made mades, .cons stands stand⟩

/-- Signatures of the wallet's keys, put together in any order, make an attachment that is judged by its
signers: with any keys allowed beside the authentication keys of the document, it gives the document if
every signer is among them, and otherwise names a signer that is not. -/
theorem judged_by_signers (accepts : suite.AcceptsSigned) {w : Wallet} {keys : List Key}
    (signed : keys ≠ []) (held : ∀ k ∈ keys, k.kind = .ed25519 ∧ w.holds k = true) {d : Document}
    (ordered : d.Ordered) {authentication : List Key}
    (resolved : d.authenticationKeys = .ok authentication) :
    ∃ signatures, List.Forall₂ (fun k s => sign w d k = .ok (.flattened s)) keys signatures ∧
      ∀ order, order.Perm signatures → ∃ jws, Jws.ofSignatures order = .ok jws ∧
        ∀ id allowed,
          Judged d keys (authentication ++ allowed) (verify (attach id d jws) allowed) := by
  obtain ⟨signatures, made, stand⟩ := exists_signatures accepts held d
  refine ⟨signatures, made, fun order same => ?_⟩
  -- the signers in the order in which their signatures are put together
  obtain ⟨signers, stand', same'⟩ := List.perm_comp_forall₂ same stand
  have some : order ≠ [] := by
    rintro rfl
    cases stand'
    exact signed (List.nil_perm.mp same')
  obtain ⟨jws, put, rfl⟩ := Jws.ofSignatures_ok some
  refine ⟨jws, put, fun id allowed => Judged.perm ?_ same'⟩
  rw [verify_of_stands rfl rfl (decodePayload_payload ordered) resolved stand' allowed]
  exact judged_find? d signers _

end Suites

section Plain

attribute [local instance] Suite.plain

/-- A document with one authentication key, signed with that and with another one, is accepted where the
other one is allowed, and refused for it where it is not. -/
theorem judged_by_signers_plain : ∃ (w : Wallet) (d : Document) (one other : Key) (s s' : Signature)
    (jws : Jws), d.authenticationKeys = .ok [one] ∧ sign w d one = .ok (.flattened s) ∧
      sign w d other = .ok (.flattened s') ∧ Jws.ofSignatures [s', s] = .ok jws ∧
      verify (attach "signed" d jws) [other] = .ok d ∧
      verify (attach "signed" d jws) [] = .error (.unauthorizedSigner other.fingerprint) := by
  let one := Wallet.keyOf [1]
  let other := Wallet.keyOf [2]
  let w : Wallet := (Wallet.add {} [1]).add [2]
  let d : Document := { authentication := [.embedded (.ofKey "#key" "#id" one)] }
  have held : ∀ k ∈ [one, other], k.kind = .ed25519 ∧ w.holds k = true := by
    intro k member
    obtain rfl | rfl := List.mem_pair.mp member
    · exact ⟨rfl, Wallet.holds_add (Wallet.holds_add_self _ _) _⟩
    · exact ⟨rfl, Wallet.holds_add_self _ _⟩
  have resolved : d.authenticationKeys = .ok [one] := by
    change [MethodRef.embedded (.ofKey "#key" "#id" one)].mapM d.entryKey = _
    have sized : one.Sized := Bytes.length_block [1]
    rw [List.mapM_cons, Document.entryKey, Document.toKey_ofKey _ _ sized]
    rfl
  have ordered : d.Ordered := fun s member => absurd member List.not_mem_nil
  obtain ⟨signatures, made, put⟩ := judged_by_signers Suite.plain_lawful.acceptsSigned
    (List.cons_ne_nil _ _) held ordered resolved
  obtain _ | ⟨made, _ | ⟨made', ⟨⟩⟩⟩ := made
  obtain ⟨jws, together, judged⟩ := put [_, _] (.swap _ _ [])
  refine ⟨w, d, one, other, _, _, jws, resolved, made, made', together, ?_, ?_⟩
  · exact (judged "signed" [other]).accepted (by decide)
  · obtain ⟨k, signer, stranger, refused⟩ := (judged "signed" []).refused (by decide)
    obtain rfl | rfl := List.mem_pair.mp signer
    · exact absurd List.mem_cons_self stranger
    · exact refused

end Plain

end SignedDocument

end Pairwise
