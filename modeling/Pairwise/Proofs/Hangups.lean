import Pairwise.Proofs.Lifecycle
import Pairwise.Proofs.RotationRefusals
/-!
# Hanging up

An agent that hangs up takes its own DID off the connection, but not the rotation that may wait there.
As long as it only listens from then on, the connection has no DID of its own, unless the late
acknowledgement of that rotation comes in: it puts the DID on the connection that was announced before
the agent hung up.

Results:
* `Connection.Ended`, `Ended.goes`: what stays true of a connection after its agent has hung up.
* `Agent.Listens.ended`: how it is after any run in which the agent only listens.
* `Agent.hangup_final_iff`: hanging up is final exactly if no rotation waits.
-/
namespace Pairwise

open Connection (Deed)

namespace Connection

/-- A connection that has come of one on which its agent hung up. Nothing waits on it that did not wait
then, and the own DID is gone, or is the one that waited and might be committed. -/
structure Ended (c : Connection) (may : PendingRotation → Prop) (c' : Connection) : Prop where
  completed : c'.state = .completed
  waits : ∀ r, c'.pendingRotation = .ok (some r) → c.pendingRotation = .ok (some r)
  did : c'.did = none ∨ ∃ r, c.pendingRotation = .ok (some r) ∧ may r ∧ c'.did = some r.did

namespace Ended

variable {c c₁ c₂ : Connection} {may : PendingRotation → Prop} {d : Deed} {ds : List Deed}

theorem hangup (completed : c.state = .completed) :
    c.Ended may ({ c with did := none } : Connection).next where
  completed := completed
  waits := fun _ pending => pending
  did := .inl rfl

/-- Every move leaves it so but an announcement, and a commitment that might not be. -/
theorem move (h : c.Ended may c₁) (move : c₁.Move d c₂) (silent : d ≠ .announces)
    (commits : d = .commits → ∀ r, c.pendingRotation = .ok (some r) → may r) : c.Ended may c₂ := by
  cases move with
  | exchanges turn =>
    have open_ := turn.source_open
    rw [h.completed] at open_
    cases open_
  | announces => exact absurd rfl silent
  | follows | hungUp => exact ⟨h.completed, h.waits, h.did⟩
  | commits r completed pending =>
    have waited := h.waits r pending
    refine ⟨completed, fun r' pending' => ?_, .inr ⟨r, waited, commits rfl r waited, rfl⟩⟩
    cases c₁.pendingRotation_dropRotation.symm.trans pending'
  | drops completed =>
    refine ⟨completed, fun r' pending' => ?_, h.did⟩
    cases c₁.pendingRotation_dropRotation.symm.trans pending'
  | hangsUp completed => exact ⟨completed, h.waits, .inl rfl⟩

theorem goes (h : c.Ended may c₁) (goes : c₁.Goes ds c₂) (silent : .announces ∉ ds)
    (commits : .commits ∈ ds → ∀ r, c.pendingRotation = .ok (some r) → may r) : c.Ended may c₂ := by
  induction goes with
  | refl _ => exact h
  | move first _ ih =>
    obtain ⟨other, silent⟩ := not_or.mp (mt List.mem_cons.mpr silent)
    have now := h.move first (Ne.symm other) fun same => commits (same ▸ List.mem_cons_self)
    exact ih now silent fun mem => commits (List.mem_cons_of_mem _ mem)

end Ended

end Connection

section Hangups

variable [suite : Suite] [chance : Chance]

/-- Whether the agent makes a message of its own. -/
def Action.creates : Action → Bool
  | .createRequest .. | .createResponse _ | .createComplete | .createRotate _ | .createHangup => true
  | _ => false

open Agent

variable {a a' : Agent} {c c₁ : Connection} {xs ys : List Operation} {x : Operation} {id : String}

/-- An acknowledgement that is taken in answers a rotation that waits on the stored connection. -/
theorem Operation.Performs.pending {q : RotateAck} (h : x.Performs a id (.processRotateAck q))
    (faithful : ∀ c y, x = .on c y → a.Faithful id c) :
    ∃ c r, a.connections.find? id = some c ∧ c.pendingRotation = .ok (some r) ∧
      r.threadId = q.threadId := by
  obtain ⟨c, calls, own, done⟩ := h
  have copy : a.Faithful id c := by
    cases calls with
    | on => exact faithful c _ rfl
    | receives brings =>
      obtain ⟨opened, -, -, found⟩ := brings
      exact faithful_of_stored (connectionOfKey_stored found) id
  rcases run : ((Action.processRotateAck q).step c).run a with ⟨result, a'⟩
  rw [run] at done
  obtain rfl : result = .ok () := done
  obtain ⟨next, run⟩ := Step.done_ok.mp run
  obtain ⟨-, r, pending, thread, stores⟩ := processRotateAck_ok run
  exact ⟨c, r, stores.source copy ⟨rfl, rfl⟩ own, pending, thread⟩

namespace Agent

/-- From a point of a run on, the agent only listens on a connection: it makes no message of its own
there. All copies of the connection were read in the run. -/
structure Listens (a : Agent) (c : Connection) (xs : List Operation) (m : Nat) : Prop where
  copies : a.CopiesRead c.id xs
  silent : ∀ n c' y, m ≤ n → xs[n]? = some (.on c' y) → c'.id = c.id → y.creates = false

/-- Nothing is announced where the agent only listens. -/
theorem Listens.unannounced {m n : Nat} (listens : a.Listens c xs m) :
    ¬ a.Accounted xs c.id m n .announces := by
  intro announces
  obtain ⟨t, k, later, -, x, at_, c', calls, own, -⟩ := announces.announces
  cases calls with
  | on => cases listens.silent k c' _ later at_ own
  | @receives e m' _ _ brings asks => cases m' <;> cases asks

/-- However long the agent only listens, the connection stays as its hangup left it, but that the
acknowledgement of the rotation that waited may come in. -/
theorem Listens.ended {m n : Nat} (listens : a.Listens c xs m) (completed : c.state = .completed)
    (stored : (a.after (xs.take m)).connections.find? c.id
      = some ({ c with did := none } : Connection).next)
    (from_ : m ≤ n) (until_ : n ≤ xs.length) :
    ∃ c', (a.after (xs.take n)).connections.find? c.id = some c' ∧ c.Ended (fun r => ∃ q : RotateAck,
      q.threadId = r.threadId ∧ a.Performed xs c.id m n (.processRotateAck q)) c' := by
  obtain ⟨ds, c', found, goes, -, all⟩ := after_leads listens.copies until_ m from_ _ stored
  have silent : .announces ∉ ds := fun mem => listens.unannounced (all _ mem)
  refine ⟨c', found, (Connection.Ended.hangup completed).goes goes silent fun mem r waited => ?_⟩
  -- what was acknowledged waited then, and so it did before
  obtain ⟨q, k, later, earlier, x, at_, performs⟩ := (all _ mem).commits
  obtain ⟨c₁, r₁, found₁, pending, thread⟩ :=
    performs.pending fun c'' y asks => listens.copies.faithful (asks ▸ at_)
  have until₁ : k ≤ xs.length := Nat.le_trans (Nat.le_of_lt earlier) until_
  obtain ⟨ds₁, c₂, found₂, goes₁, -, all₁⟩ := after_leads listens.copies until₁ m later _ stored
  obtain rfl : c₁ = c₂ := Option.some.inj (found₁.symm.trans found₂)
  have silent₁ : .announces ∉ ds₁ := fun mem => listens.unannounced (all₁ _ mem)
  have ended : c.Ended (fun _ => True) c₁ :=
    (Connection.Ended.hangup completed).goes goes₁ silent₁ fun _ _ _ => trivial
  cases (ended.waits r₁ pending).symm.trans waited
  exact ⟨q, thread.symm, k, later, earlier, x, at_, performs⟩

/-- An agent can hang up on every completed connection of its store. -/
theorem createHangup_run (stored : a.connections.find? c.id = some c) (completed : c.state = .completed) :
    ∃ h a', (createHangup c).run a = (.ok (h, ({ c with did := none } : Connection).next), a') := by
  obtain ⟨a₁, updated, -⟩ := updateConnection_found stored { c with did := none } rfl rfl
  refine ⟨.new (chance.uuid a₁.draws.ids), (drawId.run a₁).2, ?_⟩
  rw [createHangup, Step.bind_lift (requireCompleted_eq_ok.mpr completed), Step.bind_ok updated,
    Step.bind_ok (drawId_run a₁)]
  rfl

section Run

variable {h : Hangup} (hangs : (createHangup c).run (a.after xs) = (.ok (h, c₁), a'))

include hangs

/-- The connection is stored without an own DID when the agent has hung up, and the run goes on from
there. -/
theorem hangup_stored :
    c.state = .completed ∧ a'.connections.find? c.id = some ({ c with did := none } : Connection).next ∧
      ∀ ys, a.after (xs ++ .on c .createHangup :: ys) = a'.after ys := by
  obtain ⟨completed, stores⟩ := createHangup_ok hangs
  refine ⟨completed, stores.find?_next, fun ys => ?_⟩
  have after : (((createHangup c).done).run (a.after xs)).2 = a' := by rw [Step.done_run, hangs]
  rw [after_append, ← after]
  rfl

/-- The late acknowledgement of the rotation that waits puts its DID on the connection. -/
theorem hangup_undone (copies : a.CopiesRead c.id (xs ++ [.on c .createHangup])) {r : PendingRotation}
    (pending : c.pendingRotation = .ok (some r)) :
    ∃ ys c', a.Listens c (xs ++ .on c .createHangup :: ys) (xs.length + 1) ∧
      (a'.after ys).connections.find? c.id = some c' ∧ c'.did = some r.did := by
  obtain ⟨completed, stored, after⟩ := hangup_stored hangs
  let c₁ := ({ c with did := none } : Connection).next
  let q : RotateAck := .new "ack" r.threadId .ok
  obtain ⟨next, a₁, taken⟩ := processRotateAck_run (c := c₁) (n := q) completed pending rfl stored
  refine ⟨[.on c₁ (.processRotateAck q)], (c₁.commitRotation r).next, ⟨?_, ?_⟩, ?_, rfl⟩
  · have read : (a.after (xs ++ [.on c .createHangup])).connections.find? c.id = some c₁ := by
      rw [after []]
      exact stored
    have goesOn := copies.snoc read (.processRotateAck q)
    rwa [List.append_assoc] at goesOn
  · intro n c' y later asks _
    rw [List.append_cons, List.getElem?_append_right (by rwa [List.length_append])] at asks
    cases List.mem_singleton.mp (List.mem_of_getElem? asks)
    rfl
  · obtain ⟨-, r', pending', -, stores⟩ := processRotateAck_ok taken
    cases pending.symm.trans pending'
    change ((processRotateAck c₁ q).done.run a').2.connections.find? c.id = _
    rw [Step.done_run, taken]
    exact stores.find?_next

/-- After the hangup, a run in which the agent only listens leaves the connection without an own DID, or
the acknowledgement of the rotation that waited was taken in. -/
theorem hangup_listened (listens : a.Listens c (xs ++ .on c .createHangup :: ys) (xs.length + 1)) :
    ∃ c', (a'.after ys).connections.find? c.id = some c' ∧ (c'.did = none ∨
      ∃ r q, c.pendingRotation = .ok (some r) ∧ c'.did = some r.did ∧ q.threadId = r.threadId ∧
        a.Performed (xs ++ .on c .createHangup :: ys) c.id (xs.length + 1)
          (xs.length + 1 + ys.length) (.processRotateAck q)) := by
  obtain ⟨completed, stored, after⟩ := hangup_stored hangs
  let zs := xs ++ .on c .createHangup :: ys
  have length : zs.length = xs.length + 1 + ys.length := by
    rw [List.length_append, List.length_cons, Nat.add_comm ys.length, Nat.add_assoc]
  have start : a.after (zs.take (xs.length + 1)) = a' := by
    rw [show zs = (xs ++ [.on c .createHangup]) ++ ys from List.append_cons ..,
      List.take_left' (by rw [List.length_append, List.length_singleton])]
    exact after []
  rw [← start] at stored
  obtain ⟨c', found, -, -, did⟩ :=
    listens.ended completed stored (Nat.le_add_right _ ys.length) (Nat.le_of_eq length.symm)
  rw [← length, List.take_length, after] at found
  refine ⟨c', found, did.imp_right ?_⟩
  rintro ⟨r, waited, ⟨q, thread, performed⟩, did⟩
  exact ⟨r, q, waited, did, thread, performed⟩

/-- An agent that has hung up has no DID on the connection as long as it only listens, unless the
acknowledgement of a rotation comes in that waited when it hung up: then it has the DID that it announced
before. So its hangup is final exactly if no rotation waited. -/
theorem hangup_final_iff (copies : a.CopiesRead c.id (xs ++ [.on c .createHangup])) :
    (∀ ys, a.Listens c (xs ++ .on c .createHangup :: ys) (xs.length + 1) →
      ∃ c', (a'.after ys).connections.find? c.id = some c' ∧ (c'.did = none ∨
        ∃ r q, c.pendingRotation = .ok (some r) ∧ c'.did = some r.did ∧ q.threadId = r.threadId ∧
          a.Performed (xs ++ .on c .createHangup :: ys) c.id (xs.length + 1)
            (xs.length + 1 + ys.length) (.processRotateAck q))) ∧
    ((∀ ys, a.Listens c (xs ++ .on c .createHangup :: ys) (xs.length + 1) →
        ∀ c', (a'.after ys).connections.find? c.id = some c' → c'.did = none) ↔
      ∀ r, c.pendingRotation ≠ .ok (some r)) := by
  refine ⟨fun ys listens => hangup_listened hangs listens, fun final r pending => ?_,
    fun free ys listens c' found => ?_⟩
  · obtain ⟨ys, c', listens, found, did⟩ := hangup_undone hangs copies pending
    cases did.symm.trans (final ys listens c' found)
  · obtain ⟨c'', found', gone | ⟨r, -, pending, -⟩⟩ := hangup_listened hangs listens
    · cases found.symm.trans found'
      exact gone
    · exact absurd pending (free r)

end Run

end Agent

end Hangups

/-! ## A hangup that is undone -/

section Plain

attribute [local instance] Suite.plain Chance.counting

namespace Agent

/-- An agent has announced a DID of its own on a completed connection, and hangs up. -/
theorem plain_hangup : ∃ (a a' : Agent) (c c₁ : Connection) (h : Hangup) (r : PendingRotation),
    a.CopiesRead c.id [.on c .createHangup] ∧ c.state = .completed ∧ c.did.isSome = true ∧
      c.pendingRotation = .ok (some r) ∧ (createHangup c).run (a.after []) = (.ok (h, c₁), a') := by
  obtain ⟨-, a, c, t, r, -, completed, known, -, stored⟩ := plain_announcing
  have pending : (c.noteRotation r).next.pendingRotation = .ok (some r) := c.pendingRotation_noteRotation r
  obtain ⟨h, a', hangs⟩ := createHangup_run (c := (c.noteRotation r).next) stored completed
  exact ⟨a, a', _, _, h, r, (CopiesRead.nil).snoc stored _, completed, known, pending, hangs⟩

/-- While the rotation waits, the hangup is not final. -/
theorem hangup_final_iff_plain : ∃ (a a' : Agent) (c c₁ : Connection) (h : Hangup),
    a.CopiesRead c.id [.on c .createHangup] ∧ (createHangup c).run (a.after []) = (.ok (h, c₁), a') ∧
      ¬ ∀ ys, a.Listens c ([] ++ .on c .createHangup :: ys) 1 →
        ∀ c', (a'.after ys).connections.find? c.id = some c' → c'.did = none := by
  obtain ⟨a, a', c, c₁, h, r, copies, -, -, pending, hangs⟩ := plain_hangup
  refine ⟨a, a', c, c₁, h, copies, hangs, fun final => ?_⟩
  exact (hangup_final_iff hangs copies).2.mp final r pending

/-- It is not so that an agent that has hung up has no DID on the connection as long as it only
listens. -/
theorem hangup_not_final :
    ¬ ∀ (a a' : Agent) (xs ys : List Operation) (c c₁ c' : Connection) (h : Hangup),
      c.state = .completed → (createHangup c).run (a.after xs) = (.ok (h, c₁), a') →
      a.Listens c (xs ++ .on c .createHangup :: ys) (xs.length + 1) →
      (a'.after ys).connections.find? c.id = some c' → c'.did = none := by
  intro final
  obtain ⟨a, a', c, c₁, h, r, copies, completed, -, pending, hangs⟩ := plain_hangup
  obtain ⟨ys, c', listens, found, did⟩ := hangup_undone hangs copies pending
  cases did.symm.trans (final a a' [] ys c c₁ c' h completed hangs listens found)

end Agent

end Plain

end Pairwise
