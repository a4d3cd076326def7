import Pairwise.Proofs.RotationReplay
import Pairwise.Proofs.RotationTurns
/-!
# Rotations that are refused

Announcements take each other's place: only the last one waits. An acknowledgement is taken in if it
answers the announcement that waits. A refusal is not asked which announcement it answers. It drops
the one that waits, also if it refuses an earlier one, and the acknowledgement of the one that waited
finds nothing then.

Results:
* `RotationEvent`, `waitingAfter`: which announcement waits after what has come.
* `Meets.awaits`, `Undergoes.awaits`: that one is noted on the connection, after one event and after a
  run of them.
* `refusal_drops_waiting`: a refusal drops whatever waits.
-/
namespace Pairwise

open Step

/-! ## What waits -/

/-- What comes about the rotations of one connection. -/
inductive RotationEvent where
  | announced (m : Rotate)
  /-- A DID was to be announced and was not. -/
  | unannounced
  | acked (n : RotateAck)
  | refused (q : ProblemReport)

namespace RotationEvent

/-- The announcement that waits after the event. -/
def next (waiting : Option Rotate) : RotationEvent → Option Rotate
  | announced m => some m
  | unannounced => waiting
  | acked n => waiting.filter fun m => m.threadId ≠ n.threadId
  | refused _ => none

end RotationEvent

/-- The announcement that waits after some events. -/
def waitingAfter (waiting : Option Rotate) (es : List RotationEvent) : Option Rotate :=
  es.foldl RotationEvent.next waiting

/-- The rotation that the connection notes is the one that was announced, if one was. -/
def Connection.Notes (c : Connection) : Option Rotate → Prop
  | none => c.pendingRotation = .ok none
  | some m => ∃ mediator, c.pendingRotation = .ok (some ⟨m.threadId, m.did, mediator⟩)

section Rotation

variable [suite : Suite]

namespace Agent

/-- The connection is stored and completed, and the announcement waits on it, if there is one. -/
structure Awaits (a : Agent) (c : Connection) (waiting : Option Rotate) : Prop where
  stored : a.connections.find? c.id = some c
  completed : c.state = .completed
  notes : c.Notes waiting

variable [chance : Chance]

/-- What the agent does with an event on a connection. -/
inductive Meets (a : Agent) (c : Connection) : RotationEvent → Agent → Prop
  | announces {t : RotationTarget} {m : Rotate} {c' : Connection} {a' : Agent}
      (run : (createRotate c t).run a = (.ok (m, c'), a')) : Meets a c (.announced m) a'
  | fails {t : RotationTarget} {e : Error} {a' : Agent}
      (run : (createRotate c t).run a = (.error e, a')) : Meets a c .unannounced a'
  | hears {n : RotateAck} {result : Except Error Connection} {a' : Agent}
      (run : (processRotateAck c n).run a = (result, a')) : Meets a c (.acked n) a'
  | hearsRefusal {q : ProblemReport} {result : Except Error Connection} {a' : Agent}
      (run : (processRotateProblem c q).run a = (result, a')) : Meets a c (.refused q) a'

/-- The agent meets one event after another on the connection that is stored under an id. -/
inductive Undergoes (id : String) (a : Agent) : List RotationEvent → Agent → Prop
  | nil : Undergoes id a [] a
  | snoc {es : List RotationEvent} {x : RotationEvent} {a₁ a' : Agent} {c : Connection}
      (run : Undergoes id a es a₁) (stored : a₁.connections.find? id = some c)
      (meets : Meets a₁ c x a') : Undergoes id a (es ++ [x]) a'

variable {a a' : Agent} {c stored : Connection} {waiting : Option Rotate}

/-! ## One event -/

/-- An announcement waits from then on, whatever waited before. -/
theorem createRotate_awaits {t : RotationTarget} {m : Rotate}
    (h : (createRotate c t).run a = (.ok (m, stored), a')) :
    ∃ c', c'.id = c.id ∧ a'.Awaits c' (some m) := by
  obtain ⟨completed, mediator, stores⟩ := createRotate_notes h
  exact ⟨(c.noteRotation ⟨m.threadId, m.did, mediator⟩).next, rfl, stores.find?_next, completed,
    mediator, c.pendingRotation_noteRotation _⟩

omit chance in
/-- A rotation that waits is dropped for any report. -/
theorem processRotateProblem_run (stored : a.connections.find? c.id = some c)
    (completed : c.state = .completed) {r : PendingRotation}
    (pending : c.pendingRotation = .ok (some r)) (q : ProblemReport) :
    ∃ a', (processRotateProblem c q).run a = (.ok c.dropRotation.next, a') := by
  obtain ⟨a', updated, -⟩ := updateConnection_found stored c.dropRotation rfl rfl
  refine ⟨a', ?_⟩
  rw [processRotateProblem, bind_lift (requireCompleted_eq_ok.mpr completed),
    bind_lift ((c.requireRotation_eq_ok).mpr pending)]
  exact updated

omit chance in
/-- Neither an acknowledgement nor a report finds anything where nothing waits. -/
theorem answer_missing (completed : c.state = .completed) (none : c.pendingRotation = .ok none) :
    (∀ q, (processRotateProblem c q).run a = (.error (.missingRotation c.id), a)) ∧
      ∀ n, (processRotateAck c n).run a = (.error (.missingRotation c.id), a) := by
  have missing : c.requireRotation = .error (.missingRotation c.id) := by
    rw [Connection.requireRotation, none]
    rfl
  constructor
  · intro q
    rw [processRotateProblem, bind_lift (requireCompleted_eq_ok.mpr completed), run_bind, run_lift,
      missing]
  · intro n
    rw [processRotateAck, bind_lift (requireCompleted_eq_ok.mpr completed), run_bind, run_lift,
      missing]

namespace Awaits

variable (before : a.Awaits c waiting)

include before

omit chance in
theorem of_quiet (quiet : Quiet a a') : a'.Awaits c waiting where
  stored := quiet.connections ▸ before.stored
  completed := before.completed
  notes := before.notes

omit chance in
/-- An acknowledgement is taken in exactly if it answers the announcement that waits. -/
theorem ack {n : RotateAck} {result : Except Error Connection}
    (run : (processRotateAck c n).run a = (result, a')) :
    ∃ c', c'.id = c.id ∧ a'.Awaits c' (waiting.filter fun m => m.threadId ≠ n.threadId) := by
  cases waiting with
  | none =>
    rw [(answer_missing before.completed before.notes).2 n] at run
    cases run
    exact ⟨c, rfl, before⟩
  | some m =>
    obtain ⟨mediator, noted⟩ := before.notes
    rw [Option.filter_some]
    by_cases thread : m.threadId = n.threadId
    · obtain ⟨c', a₁, taken⟩ := processRotateAck_run before.completed noted thread before.stored
      cases run.symm.trans taken
      obtain ⟨completed, r, -, -, stores⟩ := processRotateAck_ok taken
      rw [if_neg (by simpa using thread)]
      exact ⟨(c.commitRotation r).next, rfl, stores.find?_next, completed,
        c.pendingRotation_dropRotation⟩
    · rw [if_pos (by simpa using thread)]
      cases result with
      | ok c' =>
        obtain ⟨-, r, pending, answers, -⟩ := processRotateAck_ok run
        cases pending.symm.trans noted
        exact absurd answers thread
      | error e => exact ⟨c, rfl, before.of_quiet (processRotateAck_failsQuietly n _ _ _ run)⟩

omit chance in
/-- A refusal leaves nothing that waits. -/
theorem refusal {q : ProblemReport} {result : Except Error Connection}
    (run : (processRotateProblem c q).run a = (result, a')) :
    ∃ c', c'.id = c.id ∧ a'.Awaits c' none := by
  cases waiting with
  | none =>
    rw [(answer_missing before.completed before.notes).1 q] at run
    cases run
    exact ⟨c, rfl, before⟩
  | some m =>
    obtain ⟨mediator, noted⟩ := before.notes
    obtain ⟨a₁, dropped⟩ := processRotateProblem_run before.stored before.completed noted q
    cases run.symm.trans dropped
    obtain ⟨completed, stores⟩ := processRotateProblem_ok dropped
    exact ⟨c.dropRotation.next, rfl, stores.find?_next, completed, c.pendingRotation_dropRotation⟩

end Awaits

/-- What waits after an event is noted on the connection, which stays completed. -/
theorem Meets.awaits {x : RotationEvent} (h : Meets a c x a') (before : a.Awaits c waiting) :
    ∃ c', c'.id = c.id ∧ a'.Awaits c' (x.next waiting) := by
  cases h with
  | announces run => exact createRotate_awaits run
  | fails run => exact ⟨c, rfl, before.of_quiet (createRotate_failsQuietly _ _ _ _ run)⟩
  | hears run => exact before.ack run
  | hearsRefusal run => exact before.refusal run

/-! ## Whole runs -/

/-- What waits after a run of events is noted on the connection. -/
theorem Undergoes.awaits {es : List RotationEvent} (run : Undergoes c.id a es a')
    (start : a.Awaits c waiting) :
    ∃ c', c'.id = c.id ∧ a'.Awaits c' (waitingAfter waiting es) := by
  induction run with
  | nil => exact ⟨c, rfl, start⟩
  | snoc run stored meets ih =>
    obtain ⟨c₁, id, before⟩ := ih
    rw [← id, before.stored] at stored
    cases stored
    obtain ⟨c', id', after⟩ := meets.awaits before
    refine ⟨c', id'.trans id, ?_⟩
    rw [waitingAfter, List.foldl_append]
    exact after

/-- After any announcements, acknowledgements and refusals on a completed connection, a report drops
the announcement that waits, whichever one it refuses, and no acknowledgement is taken in then. Where
nothing waits, it is refused itself. -/
theorem refusal_drops_waiting {es : List RotationEvent} (start : a.Awaits c waiting)
    (run : Undergoes c.id a es a') :
    ∃ c', c'.id = c.id ∧ a'.Awaits c' (waitingAfter waiting es) ∧ ∀ q,
      (waitingAfter waiting es = none →
        (processRotateProblem c' q).run a' = (.error (.missingRotation c.id), a')) ∧
      (waitingAfter waiting es ≠ none →
        ∃ a'', (processRotateProblem c' q).run a' = (.ok c'.dropRotation.next, a'') ∧
          a''.connections.find? c.id = some c'.dropRotation.next ∧
          ∀ n, (processRotateAck c'.dropRotation.next n).run a''
            = (.error (.missingRotation c.id), a'')) := by
  obtain ⟨c', id, after⟩ := run.awaits start
  refine ⟨c', id, after, fun q => ⟨fun nothing => ?_, fun something => ?_⟩⟩
  · have notes := after.notes
    rw [nothing] at notes
    rw [← id]
    exact (answer_missing after.completed notes).1 q
  · obtain ⟨m, waits⟩ := Option.ne_none_iff_exists'.mp something
    have notes := after.notes
    rw [waits] at notes
    obtain ⟨mediator, noted⟩ := notes
    obtain ⟨a'', dropped⟩ := processRotateProblem_run after.stored after.completed noted q
    obtain ⟨-, stores⟩ := processRotateProblem_ok dropped
    rw [← id]
    exact ⟨a'', dropped, stores.find?_next,
      (answer_missing (c := c'.dropRotation.next) after.completed
        c'.pendingRotation_dropRotation).2⟩

/-! ## Announcing a DID that is there -/

omit suite chance in
/-- A rotation that waits is in nobody's way if the settings do not say so. -/
theorem checkRotation_lenient {r : Option PendingRotation} {settings : Settings}
    (pending : c.pendingRotation = .ok r) (lenient : settings.strictRotation = false) :
    checkRotation c settings = .ok () := by
  rw [checkRotation, pending, lenient, Outcome.ok_bind, Bool.and_false]
  rfl

/-- A DID of the agent's own is announced without a new one being made. -/
theorem createRotate_existing {did : String} {record : DidRecord} {d : Document}
    (known : a.dids.get did = .ok record) (own : record.role = .created)
    (resolved : a.resolve did = .ok d) {front : List Connection}
    (last : a.connections.records = front ++ [c]) (completed : c.state = .completed)
    (allowed : checkRotation c a.settings = .ok ()) :
    ∃ c' a', (createRotate c (.existing did [])).run a
        = (.ok (.new (chance.uuid a.draws.ids) did, c'), a') ∧
      c' = (c.noteRotation ⟨chance.uuid a.draws.ids, did, none⟩).next ∧
      Moves a a' 1 [] (front ++ [c']) := by
  have told : (rotationDid (.existing did [])).run a = (.ok (did, none), a) := by
    rw [rotationDid, bind_ask known, if_neg (not_not_intro own), bind_ask resolved]
    rfl
  obtain ⟨a', updated, moves⟩ := updateConnection_run (a := (drawId.run a).2) last
    (c.noteRotation ⟨chance.uuid a.draws.ids, did, none⟩) rfl rfl
  refine ⟨_, a', ?_, rfl, moves.settings, moves.wallet, moves.ids, moves.seeds, moves.dids,
    moves.connections⟩
  rw [createRotate_told completed allowed told]
  exact bind_ok updated

end Agent

end Rotation

/-! ## A refusal that comes too late -/

section Plain

attribute [local instance] Suite.plain Chance.counting

namespace Agent

/-- A completed connection is all that is stored, and nothing waits on it. The agent has a DID of its own
that it can announce. -/
theorem plain_owning : ∃ (a : Agent) (c : Connection) (did : String) (record : DidRecord),
    a.settings.strictRotation = false ∧ a.draws.ids = 0 ∧ a.connections.records = [c] ∧
      c.state = .completed ∧ c.pendingRotation = .ok none ∧ c.did.isSome = true ∧
      a.dids.records = [record] ∧ record.did = did ∧ record.role = .created ∧
      ∀ b : Agent, ∃ d, b.resolve did = .ok d := by
  obtain ⟨own, -, -, -⟩ := Announced.plain [2]
  obtain ⟨did, d, announced, tells⟩ := Announced.plain [1]
  let c : Connection := {
    id := "connection", createdAt := .epoch, role := .requester, state := .completed, did := some own }
  let record : DidRecord := {
    did, role := .created, document := some d, createdAt := .epoch, fingerprints := [],
    alternatives := [] }
  obtain ⟨connections, hsave⟩ : ∃ s, (Store.empty : Store Connection).save c = .ok s := ⟨_, rfl⟩
  obtain ⟨dids, hdids⟩ : ∃ s, (Store.empty : Store DidRecord).save record = .ok s := ⟨_, rfl⟩
  exact ⟨{ plain .hashAndDocument [3] with connections, dids }, c, did, record, rfl, rfl,
    (Store.save_eq_ok.mp hsave).2, rfl, rfl, rfl, (Store.save_eq_ok.mp hdids).2, rfl, rfl,
    fun b => ⟨d, announced.resolve _⟩⟩

/-- It announces it. -/
theorem plain_announcing : ∃ (a a₁ : Agent) (c : Connection) (t : RotationTarget) (r : PendingRotation),
    a.connections.find? c.id = some c ∧ c.state = .completed ∧ c.did.isSome = true ∧
      (createRotate c t).run a = (.ok (.new r.threadId r.did, (c.noteRotation r).next), a₁) ∧
      a₁.connections.find? c.id = some (c.noteRotation r).next := by
  obtain ⟨a, c, did, record, lenient, -, last, completed, free, known, dids, rfl, own, resolves⟩ :=
    plain_owning
  have stored : a.connections.find? c.id = some c :=
    Store.find?_eq_some.mpr ⟨last ▸ List.mem_cons_self, rfl⟩
  have owned : a.dids.get record.did = .ok record :=
    Store.get_eq_ok.mpr (Store.find?_eq_some.mpr ⟨dids ▸ List.mem_cons_self, rfl⟩)
  obtain ⟨d, resolved⟩ := resolves a
  have last : a.connections.records = [] ++ [c] := last
  obtain ⟨c₁, a₁, run, rfl, -⟩ := createRotate_existing owned own resolved last completed
    (checkRotation_lenient free lenient)
  obtain ⟨-, mediator, stores⟩ := createRotate_notes run
  exact ⟨a, a₁, c, _, ⟨Chance.uuid a.draws.ids, record.did, none⟩, stored, completed, known, run,
    stores.stored_eq ▸ stores.find?_self⟩

/-- A DID of the agent's own is announced twice on a completed connection, in two threads. -/
theorem plain_announced : ∃ (a a' : Agent) (c c' : Connection) (x y : Rotate),
    a.settings.strictRotation = false ∧ a.Awaits c none ∧
      Undergoes c.id a [.announced x, .announced y] a' ∧ x.threadId ≠ y.threadId ∧ c'.id = c.id ∧
      a'.Awaits c' (some y) := by
  obtain ⟨a, c, did, record, lenient, first, last, completed, free, -, dids, rfl, own, resolves⟩ :=
    plain_owning
  have known {b : Agent} (only : b.dids.records = [record]) : b.dids.get record.did = .ok record := by
    refine Store.get_eq_ok.mpr (Store.find?_eq_some.mpr ⟨?_, rfl⟩)
    rw [only]
    exact List.mem_cons_self
  obtain ⟨d, resolved⟩ := resolves a
  have last : a.connections.records = [] ++ [c] := last
  obtain ⟨c₁, a₁, run, hc₁, moves⟩ := createRotate_existing (known dids) own resolved last completed
    (checkRotation_lenient free lenient)
  have waits : c₁.pendingRotation = .ok (some ⟨Chance.uuid a.draws.ids, record.did, none⟩) :=
    hc₁ ▸ c.pendingRotation_noteRotation _
  have lenient₁ : a₁.settings.strictRotation = false :=
    (congrArg Settings.strictRotation moves.settings).trans lenient
  have dids₁ : a₁.dids.records = [record] := moves.dids.trans (by rw [dids, List.append_nil])
  obtain ⟨d₁, resolved₁⟩ := resolves a₁
  obtain ⟨c₂, a₂, run', hc₂, -⟩ := createRotate_existing (known dids₁) own resolved₁ moves.connections
    (hc₁ ▸ completed) (checkRotation_lenient waits lenient₁)
  have id : c₁.id = c.id := hc₁ ▸ rfl
  have alone {b : Agent} {x : Connection} (only : b.connections.records = [x]) :
      b.connections.find? x.id = some x := by
    refine Store.find?_eq_some.mpr ⟨?_, rfl⟩
    rw [only]
    exact List.mem_singleton.mpr rfl
  obtain ⟨c₃, id', awaits⟩ := createRotate_awaits run'
  have apart : Chance.uuid a.draws.ids ≠ Chance.uuid a₁.draws.ids := by
    rw [moves.ids, first]
    decide
  exact ⟨a, a₂, c, c₃, _, _, lenient, ⟨alone last, completed, free⟩,
    .snoc (.snoc .nil (alone last) (.announces run)) (id ▸ alone moves.connections)
      (.announces run'), apart, id'.trans id, awaits⟩

/-- The first announcement is refused, and the second one, which waits, is dropped. -/
theorem refusal_drops_waiting_plain : ∃ (a a' a'' : Agent) (c c' : Connection) (x y : Rotate)
    (q : ProblemReport), Undergoes c.id a [.announced x, .announced y] a' ∧ q.threadId = x.threadId ∧
      q.threadId ≠ y.threadId ∧ a'.Awaits c' (some y) ∧
      (processRotateProblem c' q).run a' = (.ok c'.dropRotation.next, a'') ∧
      ∀ n, (processRotateAck c'.dropRotation.next n).run a''
        = (.error (.missingRotation c.id), a'') := by
  obtain ⟨a, a', c, -, x, y, -, start, run, apart, -⟩ := plain_announced
  obtain ⟨c', -, after, refusals⟩ := refusal_drops_waiting start run
  let q : ProblemReport := {
    kind := .rotateProblem, id := "report", description := .ofKnown .didUnresolvable
    thread := some (.reply x.threadId) }
  obtain ⟨a'', dropped, -, missing⟩ := (refusals q).2 (Option.some_ne_none y)
  exact ⟨a, a', a'', c, c', x, y, q, run, rfl, apart, after, dropped, missing⟩

/-- It is not so that a refusal leaves the connection as it is if it refuses another announcement than
the one that waits. -/
theorem refusal_not_bound :
    ¬ ∀ (a a' a'' : Agent) (c c' : Connection) (es : List RotationEvent) (x : Rotate)
        (r : PendingRotation) (q : ProblemReport) (result : Except Error Connection),
      a.settings.strictRotation = false → a.Awaits c none → Undergoes c.id a es a' →
      a'.connections.find? c.id = some c' → c'.pendingRotation = .ok (some r) →
      .announced x ∈ es → q.threadId = x.threadId → q.threadId ≠ r.threadId →
      (processRotateProblem c' q).run a' = (result, a'') →
      a''.connections.find? c.id = some c' := by
  intro bound
  obtain ⟨a, a', c, c', x, y, lenient, start, run, apart, id, awaits⟩ := plain_announced
  let q : ProblemReport := {
    kind := .rotateProblem, id := "report", description := .ofKnown .didUnresolvable
    thread := some (.reply x.threadId) }
  obtain ⟨mediator, noted⟩ := awaits.notes
  obtain ⟨a'', dropped⟩ := processRotateProblem_run awaits.stored awaits.completed noted q
  obtain ⟨-, stores⟩ := processRotateProblem_ok dropped
  have kept := bound a a' a'' c c' _ x _ q _ lenient start run (id ▸ awaits.stored) noted
    List.mem_cons_self rfl apart dropped
  have after : a''.connections.find? c'.id = some c'.dropRotation.next := stores.find?_next
  rw [id, kept] at after
  have same : c' = c'.dropRotation.next := Option.some.inj after
  have none : c'.pendingRotation = .ok none :=
    (congrArg Connection.pendingRotation same).trans c'.pendingRotation_dropRotation
  cases noted.symm.trans none

end Agent

end Plain

end Pairwise
