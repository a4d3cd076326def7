import Pairwise.Did.Document
/-!
# DIDs that are keys

A `did:key` is the fingerprint of a key; its document follows from it.
-/
namespace Pairwise

namespace Key

/-- The DID of a key. -/
def did (k : Key) : String := Did.keyScheme ++ k.fingerprint

/-- The reference to the only method of a key's own document. -/
def didReference (k : Key) : String := k.did ++ "#" ++ k.fingerprint

/-- The reference to a mediator's key: the DID of the key and its agreement key. -/
def routingReference [Suite] (k : Key) : Except Error String := do
  let agreement ← k.toX25519
  return k.did ++ "#" ++ agreement.fingerprint

/-- The document of a DID that stands for a key: a signing key is there for authentication and
assertions, and its agreement key for key agreement; an agreement key is there for that only. -/
def document [Suite] (k : Key) (did : String) : Except Error Document := do
  let method := VerificationMethod.ofKey (did ++ "#" ++ k.fingerprint) did k
  match k.kind with
  | .ed25519 =>
    let agreement ← k.toX25519
    let other := VerificationMethod.ofKey (did ++ "#" ++ agreement.fingerprint) did agreement
    return { Document.new did with
      verificationMethod := [method, other]
      authentication := [.reference method.id]
      assertionMethod := [.reference method.id]
      keyAgreement := [.reference other.id] }
  | .x25519 =>
    return { Document.new did with
      verificationMethod := [method]
      keyAgreement := [.reference method.id] }

end Key

end Pairwise
