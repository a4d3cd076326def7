import Pairwise.Did.Document
import Pairwise.Proofs.JsonReaders
/-!
# Documents that were written are read

Results:
* `Document.reads`: a document is read back as it was written, whatever the order of its members.
* `Document.fits`: a document has a text.
* `Document.eq_of_canonicalBytes_eq`: its canonical text is that of no other document.
-/
namespace Pairwise

open Json Json.Record

namespace VerificationMethod

theorem reads (m : VerificationMethod) : Reader.Reads reader.read m.toJson m := by
  refine Builds.reads ?_ rfl (.append (.append (.given _) (.optional _ _)) (.optional _ _)) (by simp)
  refine .seq (.seq (.seq (.seq (.map _ (.text ?_)) (.text ?_)) (.text ?_)) (.nullableText ?_))
    (.nullableText ?_) <;> simp

theorem fits (m : VerificationMethod) (room : Nat) : m.toJson.fits (room + 1) = true := by
  simp [toJson]

end VerificationMethod

namespace MethodRef

theorem reads (r : MethodRef) : Reader.Reads reader r.toJson r := by
  cases r with
  | reference id =>
    refine .orElse_first fun inOrder => ?_
    rw [toJson, arranged_str]
    rfl
  | embedded m =>
    refine .orElse_second (fun inOrder => ?_) fun inOrder => ?_
    · cases inOrder <;> exact ⟨_, rfl⟩
    · rw [toJson, m.reads inOrder]
      rfl

theorem fits (r : MethodRef) (room : Nat) : r.toJson.fits (room + 1) = true := by
  cases r with
  | reference id => rfl
  | embedded m => exact m.fits room

end MethodRef

namespace Service

theorem reads {s : Service} (h : s.priority ≤ priorityLimit) :
    Reader.Reads reader.read s.toJson s := by
  refine Builds.reads ?_ rfl (.append (.append (.append (.given _) (.unlessEmpty _ _)) (.given _))
    (.unlessEmpty _ _)) (by simp)
  refine .seq (.seq (.seq (.seq (.seq (.seq (.map _ (.text ?_)) (.text ?_))
    (.general_some ?_ (.natUpTo h))) (.general_some ?_ (.list fun s _ => .string s)))
    (.listedTexts ?_)) (.general_some ?_ (.string _))) (.listedTexts ?_) <;> simp [strings]

theorem fits {s : Service} (h : s.priority ≤ priorityLimit) (room : Nat) :
    s.toJson.fits (room + 2) = true := by
  have number : (Json.int s.priority).fits (room + 1) = true := by
    simp only [Json.fits, Bool.and_eq_true, decide_eq_true_eq, Nat.pow_eq]
    have : (Source.significandLimit : Int) = 18446744073709551615 := rfl
    have : priorityLimit = 4294967295 := rfl
    omega
  simp [toJson, strings, number]

end Service

namespace Document

/-- The numbers of the services can be written. -/
def Ordered (d : Document) : Prop := ∀ s ∈ d.service, s.priority ≤ Service.priorityLimit

theorem reads {d : Document} (h : d.Ordered) : Reader.Reads reader.read d.toJson d := by
  refine Builds.reads ?_ rfl (.append (.append (.append (.append (.append (.append (.append
    (.unlessEmpty _ _) (.unlessBlank _ _)) (.unlessEmpty _ _)) (.unlessEmpty _ _)) (.unlessEmpty _ _))
    (.unlessEmpty _ _)) (.unlessEmpty _ _)) (.unlessEmpty _ _)) (by simp)
  refine .seq (.seq (.seq (.seq (.seq (.seq (.seq (.map _ (.listedTexts ?_)) (.textOr ?_))
    (.listedTexts ?_)) (.listed (fun m _ => m.reads) ?_)) (.listed (fun r _ => r.reads) ?_))
    (.listed (fun r _ => r.reads) ?_)) (.listed (fun r _ => r.reads) ?_))
    (.listed (fun s hs => Service.reads (h s hs)) ?_) <;> simp

theorem fits {d : Document} (h : d.Ordered) (room : Nat) : d.toJson.fits (room + 4) = true := by
  have services : ∀ s ∈ d.service, s.toJson.fits (room + 2) = true :=
    fun s hs => Service.fits (h s hs) room
  unfold toJson
  split
  · simp [VerificationMethod.fits, MethodRef.fits]
    exact .inr services
  · simp [VerificationMethod.fits, MethodRef.fits]
    exact .inr services

theorem ofBytes_canonicalBytes {d : Document} (h : d.Ordered) :
    Reader.ofBytes reader.read d.toJson.canonicalBytes = .ok d := by
  rw [canonicalBytes, Reader.ofBytes_bytes _ (fits_sorted (fits h 123))]
  exact (reads h).sorted

/-- Documents have one canonical text only if they are equal. -/
theorem eq_of_canonicalBytes_eq {d e : Document} (hd : d.Ordered) (he : e.Ordered)
    (h : d.toJson.canonicalBytes = e.toJson.canonicalBytes) : d = e :=
  Except.ok.inj ((ofBytes_canonicalBytes hd).symm.trans (h ▸ ofBytes_canonicalBytes he))

end Document

end Pairwise
