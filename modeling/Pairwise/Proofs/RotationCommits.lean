import Pairwise.Proofs.Lifecycle
import Pairwise.Proofs.RotationRefusals
/-!
# Which rotation an acknowledgement commits

A completed connection goes on under another DID of its own only when an acknowledgement is taken in. It
is taken in if it answers the rotation that was announced last and that was neither acknowledged nor
refused since, whatever copies of the connection the agent works with. So every announcement is
committed once at most, and none after another has taken its place.

Results:
* `Operation.Treats`, `Operation.treats`: what an operation does to a completed connection.
* `Agent.Outstanding`: the rotation that is still to be answered at a point of a run, and where it was
  announced.
* `Agent.outstanding_of_pending`: what is noted on the connection is outstanding.
* `Agent.rotation_commits`: the own DID changes by acknowledgements of what is outstanding, or is gone
  when the agent hangs up.
-/
namespace Pairwise

open Connection (Deed)

section Commits

variable [suite : Suite] [chance : Chance]

open Agent

/-! ## What waits -/

/-- Once the action has succeeded, another rotation waits than before, or none. -/
def Action.settles : Action → Bool
  | .createRotate _ | .processRotateAck _ | .processRotateProblem _ => true
  | _ => false

/-- A connection stays completed. What waits on it afterwards has waited before, unless it was announced
just now. -/
theorem Action.Makes.pending {a : Agent} {c c' : Connection} {y : Action} {d : Deed}
    (h : y.Makes a c d c') (completed : c.state = .completed) :
    c'.state = .completed ∧ ∀ r, c'.pendingRotation = .ok (some r) →
      y.settles = false ∧ c.pendingRotation = .ok (some r) ∨
      ∃ t, y = .createRotate t ∧
        ((Agent.createRotate c t).run a).1 = .ok (.new r.threadId r.did, c') ∧
        ((rotationDid t).run a).1 = .ok (r.did, r.mediatorId) := by
  cases h with
  | exchanges turn =>
    have open_ := turn.source_open
    rw [completed] at open_
    cases open_
  | @announces t r _ told chosen =>
    refine ⟨completed, fun r' pending => .inr ⟨t, rfl, ?_⟩⟩
    obtain rfl : r = r' := by
      cases (c.pendingRotation_noteRotation r).symm.trans pending
      rfl
    exact ⟨told, chosen⟩
  | follows => exact ⟨completed, fun r pending => .inl ⟨rfl, pending⟩⟩
  | commits => exact ⟨completed, fun r pending => nomatch c.pendingRotation_dropRotation.symm.trans pending⟩
  | drops => exact ⟨completed, fun r pending => nomatch c.pendingRotation_dropRotation.symm.trans pending⟩
  | hangsUp => exact ⟨completed, fun r pending => .inl ⟨rfl, pending⟩⟩
  | hungUp => exact ⟨completed, fun r pending => .inl ⟨rfl, pending⟩⟩

/-! ## One operation -/

namespace Operation

variable {a a' : Agent} {c c' : Connection} {x : Operation} {y y' : Action} {id : String}

theorem performs_on : (on c y).Performs a id y' ↔
    y = y' ∧ c.id = id ∧ ((y.step c).run a).1 = .ok () := by
  constructor
  · rintro ⟨_, ⟨⟩, own, done⟩
    exact ⟨rfl, own, done⟩
  · rintro ⟨rfl, own, done⟩
    exact ⟨c, .on c y, own, done⟩

/-- How an operation treats a completed connection of the store: it leaves it as it is, and what waits on
it; or it performs an action on it. -/
inductive Treats (a : Agent) (c : Connection) (a' : Agent) (x : Operation) : Prop
  | leaves (same : a'.connections.find? c.id = some c)
      (idle : ∀ y, x.Performs a c.id y → y.settles = false)
  | makes {y : Action} {d : Deed} {c' : Connection} (asks : x = .on c y)
      (done : ((y.step c).run a).1 = .ok ()) (makes : y.Makes a c d c')
      (stored : a'.connections.find? c.id = some c')

/-- An operation with a copy of a connection leaves the stored one as it is, if the copy is an old one or
of another connection. -/
theorem treats (direct : ∀ e, x ≠ .receive e) (stored : a.connections.find? c.id = some c)
    (faithful : ∀ c' y, x = .on c' y → a.Faithful c.id c') : Treats a c (x.step.run a).2 x := by
  have adds (h : Adds a (x.step.run a).2)
      (idle : ∀ y, x.Performs a c.id y → y.settles = false) : Treats a c (x.step.run a).2 x :=
    .leaves (h _ _ stored) idle
  cases x with
  | invite r multiUse label =>
    exact adds ((createInvitation_adds r multiUse label).done a) fun _ ⟨_, calls, _⟩ => nomatch calls
  | accept i autoAccept =>
    exact adds ((receiveInvitation_adds i autoAccept).done a) fun _ ⟨_, calls, _⟩ => nomatch calls
  | receive e => exact absurd rfl (direct e)
  | route mediator =>
    refine .leaves ?_ fun _ ⟨_, calls, _⟩ => nomatch calls
    change ((freshRouting mediator).done.run a).2.connections.find? c.id = some c
    rw [Step.done_run, freshRouting_connections]
    exact stored
  | package o => exact adds ((package_quiet o).done a).adds fun _ ⟨_, calls, _⟩ => nomatch calls
  | on c' y =>
    clear adds
    rcases run : (y.step c').run a with ⟨result, a'⟩
    change Treats a c ((y.step c').run a).2 _
    rw [run]
    cases Action.does run with
    | fails quiet =>
      refine .leaves (quiet.connections ▸ stored) fun y' performs => ?_
      obtain ⟨-, -, done⟩ := performs_on.mp performs
      rw [run] at done
      cases done
    | refuses quiet =>
      refine .leaves (quiet.connections ▸ stored) fun y' performs => ?_
      obtain ⟨rfl, -⟩ := performs_on.mp performs
      rfl
    | forks adds =>
      refine .leaves (adds _ _ stored) fun y' performs => ?_
      obtain ⟨rfl, -⟩ := performs_on.mp performs
      rfl
    | makes stores same makes =>
      by_cases own : c'.id = c.id
      · have source := stores.source (faithful c' y rfl) same own
        obtain rfl : c' = c := Option.some.inj (source.symm.trans stored)
        exact .makes rfl (by rw [run]) makes (same.1 ▸ stores.find?_next)
      · refine .leaves ?_ fun y' performs => absurd (performs_on.mp performs).2.1 own
        rw [stores.find?_of_ne fun e => own (same.1.symm.trans e.symm)]
        exact stored

end Operation

namespace Agent

/-! ## Runs -/

/-- At a point of a run it was done with success on the connection of an id. -/
def PerformedAt (a : Agent) (xs : List Operation) (id : String) (n : Nat) (y : Action) : Prop :=
  ∃ x, xs[n]? = some x ∧ x.Performs (a.after (xs.take n)) id y

/-- At a point of a run a rotation was announced on the connection of an id: the message that was made
has the id of the rotation's thread, and the DID and the mediator are the ones that were chosen then. -/
def AnnouncedAt (a : Agent) (xs : List Operation) (id : String) (n : Nat) (r : PendingRotation) : Prop :=
  ∃ c t next, xs[n]? = some (.on c (.createRotate t)) ∧ c.id = id ∧
    ((createRotate c t).run (a.after (xs.take n))).1 = .ok (.new r.threadId r.did, next) ∧
    ((rotationDid t).run (a.after (xs.take n))).1 = .ok (r.did, r.mediatorId)

/-- The rotation is still to be answered at a point of a run. It was announced at an earlier point, or
waited on the connection when the run began, and no other was announced since, and none was acknowledged
or refused. -/
inductive Outstanding (a : Agent) (xs : List Operation) (c : Connection) (n : Nat) :
    Option Nat → PendingRotation → Prop
  | waited {r : PendingRotation} (pending : c.pendingRotation = .ok (some r))
      (since : ∀ k < n, ∀ y, a.PerformedAt xs c.id k y → y.settles = false) :
      Outstanding a xs c n none r
  | announced {j : Nat} {r : PendingRotation} (before : j < n) (made : a.AnnouncedAt xs c.id j r)
      (since : ∀ k, j < k → k < n → ∀ y, a.PerformedAt xs c.id k y → y.settles = false) :
      Outstanding a xs c n (some j) r

/-- What becomes of the own DID of a connection from one point of a run to the next. -/
structure Commits (a : Agent) (xs : List Operation) (c : Connection) (n : Nat) (c₁ c₂ : Connection) :
    Prop where
  changes : c₂.did ≠ c₁.did → c₂.did = none ∧ a.PerformedAt xs c.id n .createHangup ∨
    ∃ q, a.PerformedAt xs c.id n (.processRotateAck q)
  /-- An acknowledgement that is taken in answers what is outstanding, and commits that. -/
  commits : ∀ q, a.PerformedAt xs c.id n (.processRotateAck q) → ∃ j r, Outstanding a xs c n j r ∧
    r.threadId = q.threadId ∧ c₂.did = some r.did ∧ c₂.mediatorId = r.mediatorId ∧
    ∀ old, c₁.did = some old → old ∈ c₂.previousDids
  /-- Any other acknowledgement changes nothing. -/
  others : ∀ c' q, xs[n]? = some (.on c' (.processRotateAck q)) → c'.id = c.id →
    (∀ j r, Outstanding a xs c n j r → r.threadId ≠ q.threadId) →
    a.after (xs.take (n + 1)) = a.after (xs.take n)

variable {a : Agent} {xs : List Operation} {c c' : Connection} {n : Nat} {x : Operation} {y : Action}

theorem PerformedAt.performs (h : a.PerformedAt xs c.id n y) (at_ : xs[n]? = some x) :
    x.Performs (a.after (xs.take n)) c.id y := by
  obtain ⟨x', at', performs⟩ := h
  cases at_.symm.trans at'
  exact performs

/-- An acknowledgement that is not taken in leaves the agent as it was. -/
theorem after_unacknowledged {q : RotateAck} (asks : xs[n]? = some (.on c' (.processRotateAck q)))
    (own : c'.id = c.id) (fails : ¬ a.PerformedAt xs c.id n (.processRotateAck q)) :
    a.after (xs.take (n + 1)) = a.after (xs.take n) := by
  obtain ⟨hn, at_⟩ := List.getElem?_eq_some_iff.mp asks
  rw [after_take_succ a hn, at_]
  change ((processRotateAck c' q).done.run _).2 = _
  rw [Step.done_run]
  rcases run : (processRotateAck c' q).run (a.after (xs.take n)) with ⟨error | next, a'⟩
  · exact processRotateAck_error run
  · have done : ((processRotateAck c' q).done.run (a.after (xs.take n))).1 = .ok () := by
      rw [Step.done_ok.mpr ⟨next, run⟩]
    exact absurd ⟨_, asks, Operation.performs_on.mpr ⟨rfl, own, done⟩⟩ fails

namespace Outstanding

variable {j : Option Nat} {r : PendingRotation}

/-- What is outstanding stays so until it is settled. -/
theorem later (h : Outstanding a xs c n j r)
    (idle : ∀ y, a.PerformedAt xs c.id n y → y.settles = false) :
    Outstanding a xs c (n + 1) j r := by
  cases h with
  | waited pending since =>
    refine .waited pending fun k lt y performed => ?_
    rcases Nat.lt_succ_iff_lt_or_eq.mp lt with earlier | rfl
    · exact since k earlier y performed
    · exact idle y performed
  | announced before made since =>
    refine .announced (Nat.lt_succ_of_lt before) made fun k later lt y performed => ?_
    rcases Nat.lt_succ_iff_lt_or_eq.mp lt with earlier | rfl
    · exact since k later earlier y performed
    · exact idle y performed

/-- What is outstanding at a point of a run was not settled before. -/
theorem unsettled {m : Nat} {r' : PendingRotation} (h : Outstanding a xs c n j r)
    (earlier : Outstanding a xs c m j r') (settles : y.settles = true)
    (performed : a.PerformedAt xs c.id m y) : n ≤ m := by
  by_contra lt
  have unsettled : y.settles = false := by
    cases h with
    | waited pending since => exact since m (Nat.lt_of_not_le lt) y performed
    | announced before made since =>
      cases earlier with
      | announced before' => exact since m before' (Nat.lt_of_not_le lt) y performed
  cases settles.symm.trans unsettled

end Outstanding

section Run

variable (stored : a.connections.find? c.id = some c) (completed : c.state = .completed)
  (copies : a.CopiesRead c.id xs) (direct : ∀ e, .receive e ∉ xs)

include stored completed copies direct

omit stored completed in
/-- At every point of the run the next operation leaves the connection that is stored there, or makes a
move of it. -/
theorem treats_at {c₁ : Connection} (hn : n < xs.length)
    (found : (a.after (xs.take n)).connections.find? c.id = some c₁) :
    Operation.Treats (a.after (xs.take n)) c₁ (a.after (xs.take (n + 1))) xs[n] := by
  have id : c₁.id = c.id := (Store.find?_eq_some.mp found).2
  rw [after_take_succ a hn]
  refine Operation.treats (fun e receives => ?_) (id ▸ found) fun c' y asks => ?_
  · exact direct e (receives ▸ List.getElem_mem hn)
  · rw [id]
    exact copies.faithful (asks ▸ List.getElem?_eq_getElem hn)

/-- What waits on a completed connection is outstanding. By induction on the run. -/
theorem outstanding_of_pending (hn : n ≤ xs.length) :
    ∃ c', (a.after (xs.take n)).connections.find? c.id = some c' ∧ c'.state = .completed ∧
      ∀ r, c'.pendingRotation = .ok (some r) → ∃ j, Outstanding a xs c n j r := by
  induction n with
  | zero =>
    exact ⟨c, stored, completed, fun r pending =>
      ⟨none, .waited pending fun k lt => absurd lt (Nat.not_lt_zero k)⟩⟩
  | succ n ih =>
    obtain ⟨c₁, found, completed₁, outstanding⟩ := ih (Nat.le_of_lt hn)
    have at_ : xs[n]? = some xs[n] := List.getElem?_eq_getElem hn
    have id : c₁.id = c.id := (Store.find?_eq_some.mp found).2
    cases treats_at copies direct hn found with
    | leaves same idle =>
      refine ⟨c₁, id ▸ same, completed₁, fun r pending => ?_⟩
      obtain ⟨j, before⟩ := outstanding r pending
      exact ⟨j, before.later fun y performed => idle y (id ▸ performed.performs at_)⟩
    | @makes y d c₂ asks done makes stored₂ =>
      obtain ⟨completed₂, pending₂⟩ := makes.pending completed₁
      refine ⟨c₂, id ▸ stored₂, completed₂, fun r pending => ?_⟩
      rcases pending₂ r pending with ⟨idle, pending⟩ | ⟨t, rfl, told, chosen⟩
      · obtain ⟨j, before⟩ := outstanding r pending
        refine ⟨j, before.later fun y' performed => ?_⟩
        obtain ⟨rfl, -⟩ := Operation.performs_on.mp (asks ▸ performed.performs at_)
        exact idle
      · refine ⟨some n, .announced (Nat.lt_succ_self n) ⟨c₁, t, c₂, asks ▸ at_, id, told, chosen⟩ ?_⟩
        exact fun k later lt => absurd later (Nat.not_lt_of_le (Nat.le_of_lt_succ lt))

/-- From one point of the run to the next, an acknowledgement commits what is outstanding, or changes
nothing. -/
theorem commits_at (hn : n < xs.length) :
    ∃ c₁ c₂, (a.after (xs.take n)).connections.find? c.id = some c₁ ∧
      (a.after (xs.take (n + 1))).connections.find? c.id = some c₂ ∧ Commits a xs c n c₁ c₂ := by
  obtain ⟨c₁, found, completed₁, outstanding⟩ :=
    outstanding_of_pending stored completed copies direct (Nat.le_of_lt hn)
  have at_ : xs[n]? = some xs[n] := List.getElem?_eq_getElem hn
  have id : c₁.id = c.id := (Store.find?_eq_some.mp found).2
  -- what is not outstanding cannot be taken in
  have others (answers : ∀ q, a.PerformedAt xs c.id n (.processRotateAck q) →
      ∃ j r, Outstanding a xs c n j r ∧ r.threadId = q.threadId) (c' : Connection) (q : RotateAck)
      (asks : xs[n]? = some (.on c' (.processRotateAck q))) (own : c'.id = c.id)
      (unasked : ∀ j r, Outstanding a xs c n j r → r.threadId ≠ q.threadId) :
      a.after (xs.take (n + 1)) = a.after (xs.take n) := by
    refine after_unacknowledged asks own fun performed => ?_
    obtain ⟨j, r, before, thread⟩ := answers q performed
    exact unasked j r before thread
  cases treats_at copies direct hn found with
  | leaves same idle =>
    have untaken (q : RotateAck) : ¬ a.PerformedAt xs c.id n (.processRotateAck q) := by
      intro performed
      have unsettled : (Action.processRotateAck q).settles = false :=
        idle _ (id ▸ performed.performs at_)
      cases unsettled
    exact ⟨c₁, c₁, found, id ▸ same, fun other => absurd rfl other,
      fun q performed => absurd performed (untaken q),
      others fun q performed => absurd performed (untaken q)⟩
  | @makes y d c₂ asks done makes stored₂ =>
    have performed : a.PerformedAt xs c.id n y :=
      ⟨_, at_, asks ▸ Operation.performs_on.mpr ⟨rfl, id, done⟩⟩
    have only {q : RotateAck} (taken : a.PerformedAt xs c.id n (.processRotateAck q)) :
        y = .processRotateAck q := (Operation.performs_on.mp (asks ▸ taken.performs at_)).1
    refine ⟨c₁, c₂, found, id ▸ stored₂, ?_⟩
    cases makes with
    | exchanges turn =>
      have open_ := turn.source_open
      rw [completed₁] at open_
      cases open_
    | @commits q r _ pending answers =>
      obtain ⟨j, before⟩ := outstanding r pending
      refine ⟨fun _ => .inr ⟨q, performed⟩, fun q' taken => ?_, others fun q' taken => ?_⟩
      · cases only taken
        exact ⟨j, r, before, answers, rfl, rfl, fun old there =>
          Connection.mem_remember.mpr (.inl there)⟩
      · cases only taken
        exact ⟨j, r, before, answers⟩
    | hangsUp =>
      exact ⟨fun _ => .inl ⟨rfl, performed⟩, fun q taken => (nomatch only taken),
        others fun q taken => (nomatch only taken)⟩
    | _ =>
      exact ⟨fun other => absurd rfl other, fun q taken => (nomatch only taken),
        others fun q taken => (nomatch only taken)⟩

/-- At every point of a run in which an agent is asked to do whatever may be with copies of a completed
connection that it has read, new or old: another DID of its own is put on the connection only when an
acknowledgement of the rotation is taken in that was announced last and neither acknowledged nor refused
since. It is the DID that was chosen then, with its mediator, and the one before it is remembered. An
acknowledgement of anything else changes nothing, and no announcement is committed twice. -/
theorem rotation_commits :
    (∀ n < xs.length, ∃ c₁ c₂, (a.after (xs.take n)).connections.find? c.id = some c₁ ∧
      (a.after (xs.take (n + 1))).connections.find? c.id = some c₂ ∧ Commits a xs c n c₁ c₂) ∧
    ∀ m n j r r' q q', Outstanding a xs c m j r → a.PerformedAt xs c.id m (.processRotateAck q) →
      Outstanding a xs c n j r' → a.PerformedAt xs c.id n (.processRotateAck q') → m = n := by
  refine ⟨fun n hn => commits_at stored completed copies direct hn, ?_⟩
  intro m n j r r' q q' outstanding performed outstanding' performed'
  exact Nat.le_antisymm (outstanding.unsettled outstanding' rfl performed')
    (outstanding'.unsettled outstanding rfl performed)

end Run

end Agent

end Commits

/-! ## A rotation that is committed -/

section Plain

attribute [local instance] Suite.plain Chance.counting

namespace Agent

/-- A rotation is announced and acknowledged, and the connection goes on under the DID that was chosen. -/
theorem rotation_commits_plain : ∃ a c xs q c₂ j r,
    a.connections.find? c.id = some c ∧ c.state = .completed ∧ a.CopiesRead c.id xs ∧
      (∀ e, .receive e ∉ xs) ∧ a.PerformedAt xs c.id 1 (.processRotateAck q) ∧
      (a.after xs).connections.find? c.id = some c₂ ∧ Outstanding a xs c 1 j r ∧
      r.threadId = q.threadId ∧ c₂.did = some r.did := by
  obtain ⟨a, a₁, c, t, r, stored, completed, -, run, stored₁⟩ := plain_announcing
  let c₁ := (c.noteRotation r).next
  let q : RotateAck := .new "ack" r.threadId .ok
  let xs : List Operation := [.on c (.createRotate t), .on c₁ (.processRotateAck q)]
  have after : a.after (xs.take 1) = a₁ := by
    change ((createRotate c t).done.run a).2 = a₁
    rw [Step.done_run, run]
  have copies : a.CopiesRead c.id xs :=
    ((CopiesRead.nil).snoc stored (.createRotate t)).snoc (after ▸ stored₁) (.processRotateAck q)
  have direct (e : Envelope) : .receive e ∉ xs := by
    intro mem
    rcases List.mem_pair.mp mem with receives | receives
    · cases receives
    · cases receives
  have pending : c₁.pendingRotation = .ok (some r) := c.pendingRotation_noteRotation r
  obtain ⟨next, a₂, taken⟩ := processRotateAck_run (c := c₁) (n := q) completed pending rfl stored₁
  have performed : a.PerformedAt xs c.id 1 (.processRotateAck q) := by
    refine ⟨_, rfl, Operation.performs_on.mpr ⟨rfl, rfl, ?_⟩⟩
    rw [after]
    change ((processRotateAck c₁ q).done.run a₁).1 = .ok ()
    rw [Step.done_ok.mpr ⟨next, taken⟩]
  obtain ⟨before, c₂, -, found₂, commits⟩ :=
    (rotation_commits stored completed copies direct).1 1 (Nat.lt_succ_self 1)
  obtain ⟨j, r', outstanding, thread, did, -⟩ := commits.commits q performed
  exact ⟨a, c, xs, q, c₂, j, r', stored, completed, copies, direct, performed, found₂, outstanding,
    thread, did⟩

end Agent

end Plain

end Pairwise
