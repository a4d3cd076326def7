import Mathlib.Algebra.Order.Group.Multiset
import Mathlib.Data.Multiset.Filter
import Pairwise.Proofs.RotationTurns
/-!
# The phases of a rotation

The rotation of a connection is settled until a new DID is announced. The announcement is under way
then, until the other side follows it or refuses it; then the answer is, and when that has come the
rotation is settled again. Where the announcement is lost the rotation waits for good, and so does
the other side.

Results:
* `Phase`: how far a rotation has come, with the messages that are under way.
* `Phase.tracks`, `Phase.agree`: which DID the other side goes by.
* `Phase.announces`, `Phase.hears`, `Phase.of_answer`: from one phase to the next.
-/
namespace Pairwise

/-! ## What is under way -/

namespace Message

/-- The announcements among some messages. -/
def announcementsOf (M : Multiset Message) : Multiset Message := M.filter fun m => m.announces = true

/-- The messages that announce nothing. -/
def answersOf (M : Multiset Message) : Multiset Message := M.filter fun m => m.announces = false

variable {M N : Multiset Message} {m : Message}

theorem announcementsOf_cons (h : m.announces = true) :
    announcementsOf (m ::ₘ M) = m ::ₘ announcementsOf M := Multiset.filter_cons_of_pos M h

theorem announcementsOf_cons_of_silent (h : m.announces = false) :
    announcementsOf (m ::ₘ M) = announcementsOf M :=
  Multiset.filter_cons_of_neg M (Bool.eq_false_iff.mp h)

theorem answersOf_cons (h : m.announces = true) : answersOf (m ::ₘ M) = answersOf M :=
  Multiset.filter_cons_of_neg M fun silent => Bool.eq_false_iff.mp silent h

theorem answersOf_cons_of_silent (h : m.announces = false) :
    answersOf (m ::ₘ M) = m ::ₘ answersOf M := Multiset.filter_cons_of_pos M h

theorem announcementsOf_add (h : ∀ n ∈ N, n.announces = false) :
    announcementsOf (M + N) = announcementsOf M := by
  have none : N.filter (fun n => n.announces = true) = 0 :=
    Multiset.filter_eq_nil.mpr fun n mem => Bool.eq_false_iff.mp (h n mem)
  rw [announcementsOf, Multiset.filter_add, none, add_zero]
  rfl

theorem answersOf_add (h : ∀ n ∈ N, n.announces = false) :
    answersOf (M + N) = answersOf M + N := by
  rw [answersOf, Multiset.filter_add, Multiset.filter_eq_self.mpr h]
  rfl

end Message

/-! ## The phases -/

/-- The second connection is that of the counterparty of the first, and goes by its DID, or by the one
that it is rotated to. -/
def Connection.Tracks (c d : Connection) : Prop :=
  d.theirDid = c.did ∨ ∃ ρ, c.pendingRotation = .ok (some ρ) ∧ d.theirDid = some ρ.did

/-- How far the rotation of a connection has come, with the connection of the other side, the
announcements that are under way to it, and its answers that are under way back. -/
inductive Phase (c d : Connection) (forth back : Multiset Message) : Prop
  | settled (pending : c.pendingRotation = .ok none) (agree : d.theirDid = c.did)
      (announced : forth = 0) (answered : back = 0)
  | asked {ρ : PendingRotation} {m : Rotate} (pending : c.pendingRotation = .ok (some ρ))
      (agree : d.theirDid = c.did) (announced : forth = {.rotate m}) (did : m.did = ρ.did)
      (thread : m.threadId = ρ.threadId) (answered : back = 0)
  | followed {ρ : PendingRotation} {n : RotateAck} (pending : c.pendingRotation = .ok (some ρ))
      (follows : d.theirDid = some ρ.did) (announced : forth = 0) (answered : back = {.rotateAck n})
      (thread : ρ.threadId = n.threadId)
  | refused {ρ : PendingRotation} {q : ProblemReport} (pending : c.pendingRotation = .ok (some ρ))
      (agree : d.theirDid = c.did) (announced : forth = 0) (answered : back = {.rotateProblem q})
  | lost {ρ : PendingRotation} (pending : c.pendingRotation = .ok (some ρ))
      (agree : d.theirDid = c.did) (announced : forth = 0) (answered : back = 0)

namespace Phase

variable {c c' d d' : Connection} {forth back : Multiset Message} {m : Message}
  {answers : List Message}

/-- In every phase the other side goes by the DID, or by the one that is announced. -/
theorem tracks (h : Phase c d forth back) : c.Tracks d := by
  cases h with
  | settled _ agree _ _ => exact .inl agree
  | asked _ agree _ _ _ _ => exact .inl agree
  | followed pending follows _ _ _ => exact .inr ⟨_, pending, follows⟩
  | refused _ agree _ _ => exact .inl agree
  | lost _ agree _ _ => exact .inl agree

/-- When nothing is under way the other side goes by the DID. -/
theorem agree (h : Phase c d 0 0) : d.theirDid = c.did := by
  cases h with
  | settled _ agree _ _ => exact agree
  | asked _ agree _ _ _ _ => exact agree
  | followed _ _ _ answered _ => exact absurd answered.symm (Multiset.singleton_ne_zero _)
  | refused _ agree _ _ => exact agree
  | lost _ agree _ _ => exact agree

/-- The phase depends on nothing else of the connections. -/
theorem congr (h : Phase c d forth back) (pending : c'.pendingRotation = c.pendingRotation)
    (did : c'.did = c.did) (theirs : d'.theirDid = d.theirDid) : Phase c' d' forth back := by
  cases h with
  | settled waits agree announced answered =>
    exact .settled (pending.trans waits) (by rw [theirs, agree, did]) announced answered
  | asked waits agree announced told thread answered =>
    exact .asked (pending.trans waits) (by rw [theirs, agree, did]) announced told thread answered
  | followed waits follows announced answered thread =>
    exact .followed (pending.trans waits) (theirs.trans follows) announced answered thread
  | refused waits agree announced answered =>
    exact .refused (pending.trans waits) (by rw [theirs, agree, did]) announced answered
  | lost waits agree announced answered =>
    exact .lost (pending.trans waits) (by rw [theirs, agree, did]) announced answered

/-- A rotation begins when no other waits. -/
theorem announces (h : Phase c d forth back) (free : c.pendingRotation = .ok none)
    {ρ : PendingRotation} {m : Rotate} (pending : c'.pendingRotation = .ok (some ρ))
    (same : c'.did = c.did) (did : m.did = ρ.did) (thread : m.threadId = ρ.threadId) :
    Phase c' d (.rotate m ::ₘ forth) back := by
  cases h with
  | settled _ agree announced answered =>
    exact .asked pending (agree.trans same.symm) (announced ▸ rfl) did thread answered
  | asked waits _ _ _ _ _ => cases free.symm.trans waits
  | followed waits _ _ _ _ => cases free.symm.trans waits
  | refused waits _ _ _ => cases free.symm.trans waits
  | lost waits _ _ _ => cases free.symm.trans waits

/-- The rotation that an announcement under way belongs to. -/
theorem asked_of_cons {m : Rotate} (h : Phase c d (.rotate m ::ₘ forth) back) :
    ∃ ρ, c.pendingRotation = .ok (some ρ) ∧ d.theirDid = c.did ∧ m.did = ρ.did ∧
      m.threadId = ρ.threadId ∧ forth = 0 ∧ back = 0 := by
  cases h with
  | settled _ _ announced _ => exact absurd announced Multiset.cons_ne_zero
  | asked waits agree announced did thread answered =>
    obtain ⟨same, none⟩ := (Multiset.singleton_eq_cons_iff _).mp announced.symm
    cases same
    exact ⟨_, waits, agree, did, thread, none, answered⟩
  | followed _ _ announced _ _ => exact absurd announced Multiset.cons_ne_zero
  | refused _ _ announced _ => exact absurd announced Multiset.cons_ne_zero
  | lost _ _ announced _ => exact absurd announced Multiset.cons_ne_zero

/-- The other side has received the announcement. -/
theorem hears [Suite] {m : Rotate} (h : Phase c d (.rotate m ::ₘ forth) back)
    (takes : d.Takes (.rotate m) d' answers) : Phase c d' forth (back + ↑answers) := by
  obtain ⟨ρ, waits, agree, did, thread, rfl, rfl⟩ := h.asked_of_cons
  cases takes with
  | drops => exact .lost waits agree rfl rfl
  | refuses kind thread => exact .refused waits agree rfl rfl
  | follows announced => exact .followed waits (congrArg some did) rfl rfl thread.symm

/-- The rotation that an answer under way belongs to. -/
theorem of_answer (h : Phase c d forth (m ::ₘ back)) :
    forth = 0 ∧ back = 0 ∧ ∃ ρ, c.pendingRotation = .ok (some ρ) ∧
      ((∃ n, m = .rotateAck n ∧ d.theirDid = some ρ.did ∧ ρ.threadId = n.threadId) ∨
        (∃ q, m = .rotateProblem q) ∧ d.theirDid = c.did) := by
  cases h with
  | settled _ _ _ answered => exact absurd answered Multiset.cons_ne_zero
  | asked _ _ _ _ _ answered => exact absurd answered Multiset.cons_ne_zero
  | followed waits follows announced answered thread =>
    obtain ⟨same, none⟩ := (Multiset.singleton_eq_cons_iff _).mp answered.symm
    exact ⟨announced, none, _, waits, .inl ⟨_, same.symm, follows, thread⟩⟩
  | refused waits agree announced answered =>
    obtain ⟨same, none⟩ := (Multiset.singleton_eq_cons_iff _).mp answered.symm
    exact ⟨announced, none, _, waits, .inr ⟨⟨_, same.symm⟩, agree⟩⟩
  | lost _ _ _ answered => exact absurd answered Multiset.cons_ne_zero

end Phase

end Pairwise
