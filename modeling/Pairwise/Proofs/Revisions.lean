import Pairwise.Proofs.Lifecycle
/-!
# What an action makes of its connection

An action makes a move of the connection that it is given, or stores a new connection beside it. What it
puts on the connection it does not take from nowhere: a DID of the agent's own is one that the agent has
made for it or was asked to use, and a thread begins with the request that was made or taken in.

Results:
* `Connection.Holds`: the DIDs of a connection, the one that waits among them.
* `Action.Tells`, `Action.Gives`, `Action.Opens`: the routing that an action tells, the DID that it puts
  on its connection, and the thread that begins with it.
* `Action.Leaves`, `Action.leaves`: all that an action can leave behind.
-/
namespace Pairwise

open Step
open Connection (Deed)

namespace Connection

/-- The DID is one that the connection goes or went by, or the one that waits on it. -/
def Holds (c : Connection) (did : String) : Prop :=
  did ∈ c.ownDids ∨ ∃ r, c.pendingRotation = .ok (some r) ∧ r.did = did

/-- Nothing has been done on the connection by the agent itself. -/
structure Blank (c : Connection) : Prop where
  did : c.did = none
  previous : c.previousDids = []
  notes : c.metadata = {}

variable {c c' : Connection} {did new : String} {r : PendingRotation}

/-- A connection without a DID holds none, if nothing waits on it. -/
theorem Blank.holds (h : c.Blank) : ¬ c.Holds did := by
  rintro (mem | ⟨r, pending, -⟩)
  · rw [ownDids, h.did, h.previous] at mem
    cases mem
  · rw [pendingRotation, h.notes] at pending
    cases pending

/-- Whoever goes by another DID holds that, and none else that it did not hold. -/
theorem Holds.of_did (h : c'.Holds did) (own : c'.did = some new)
    (previous : c'.previousDids = c.previousDids) (notes : c'.metadata = c.metadata) :
    c.Holds did ∨ new = did := by
  rcases h with mem | pending
  · rw [ownDids, own, previous] at mem
    rcases List.mem_cons.mp mem with rfl | before
    · exact .inr rfl
    · exact .inl (.inl (List.mem_append_right _ before))
  · refine .inl (.inr ?_)
    rwa [pendingRotation, notes] at pending

theorem Holds.of_noteRotation (h : (c.noteRotation r).Holds did) : c.Holds did ∨ r.did = did := by
  rcases h with mem | ⟨r', pending, same⟩
  · exact .inl (.inl mem)
  · cases (c.pendingRotation_noteRotation r).symm.trans pending
    exact .inr same

theorem Holds.of_dropRotation (h : c.dropRotation.Holds did) : c.Holds did := by
  rcases h with mem | ⟨r, pending, -⟩
  · exact .inl mem
  · cases c.pendingRotation_dropRotation.symm.trans pending

/-- The DID that waited is held before and after. -/
theorem Holds.of_commitRotation (pending : c.pendingRotation = .ok (some r))
    (h : (c.commitRotation r).Holds did) : c.Holds did := by
  rcases h with mem | ⟨r', pending', -⟩
  · rcases mem_ownDids_commitRotation.mp mem with rfl | before
    · exact .inr ⟨r, pending, rfl⟩
    · exact .inl before
  · cases c.pendingRotation_dropRotation.symm.trans pending'

/-- What the connection went by is held without what it goes by. -/
theorem Holds.of_hungUp (h : ({ c with did := none } : Connection).Holds did) : c.Holds did :=
  h.imp_left (List.mem_append_right _)

end Connection

section Steps

variable [suite : Suite] [chance : Chance]

namespace Action

/-! ## What an action puts on its connection -/

/-- The action comes to make a DID of a form that tells a routing. -/
inductive Tells (a : Agent) (c : Connection) : Action → Routing → PeerForm → Prop
  | request {r : Routing} {options : RequestOptions} {i : Invitation} {state : ExchangeState}
      (invitation : c.requireInvitation = .ok i)
      (advance : c.advance .create .exchangeRequest = .ok state) :
      Tells a c (.createRequest r options) r a.settings.exchangeForm
  | response {given : Option Routing} {r : Routing} {thread : String} {i : Invitation} {key : Key}
      {state : ExchangeState} (advance : c.advance .create .exchangeResponse = .ok state)
      (threadId : c.requireThread = .ok thread) (invitation : c.requireInvitation = .ok i)
      (answered : i.requireKey = .ok key)
      (routing : Agent.responseRouting c i key a.settings given = .ok r) :
      Tells a c (.createResponse given) r a.settings.exchangeForm
  | rotation {r : Routing} (completed : c.requireCompleted = .ok ())
      (allowed : Agent.checkRotation c a.settings = .ok ()) :
      Tells a c (.createRotate (.routing r)) r a.settings.rotationForm

/-- The action puts a DID of the agent's own on its connection: one that it makes, or one that was
made before. -/
inductive Gives (a : Agent) (c : Connection) : Action → String → Prop
  | makes {y : Action} {r : Routing} {form : PeerForm} {p : PeerDid} (tells : y.Tells a c r form)
      (made : ((Agent.createPeerDid r form).run a).1 = .ok p) : Gives a c y p.did
  | chooses {did : String} {mediators : List Mediator} {record : DidRecord}
      (found : a.dids.find? did = some record) (created : record.role = .created) :
      Gives a c (.createRotate (.existing did mediators)) did

/-- A request is made or taken in, with success, and its thread begins. -/
inductive Opens (a : Agent) (c : Connection) : Action → String → Prop
  | makes {r : Routing} {options : RequestOptions} {m : Request} {c' : Connection}
      (made : ((Agent.createRequest c r options).run a).1 = .ok (m, c')) :
      Opens a c (.createRequest r options) m.id
  | takes {m : Request} {r : Option Routing} {c' : Connection}
      (taken : ((Agent.processRequest c m r).run a).1 = .ok c') : Opens a c (.processRequest m r) m.id

/-- What an action makes of its connection, before that is stored. -/
structure Revises (a : Agent) (c : Connection) (y : Action) (next : Connection) : Prop where
  move : ∃ d, c.Move d next.next
  holds : ∀ did, next.Holds did → c.Holds did ∨ y.Gives a c did
  thread : (∃ t, y.Opens a c t ∧ c.state.isFresh = true ∧ next.threadId = some t) ∨
    (∀ t, ¬ y.Opens a c t) ∧ next.threadId = c.threadId

/-- All that an action can leave behind, and its result. -/
inductive Leaves (a : Agent) (c : Connection) (a' : Agent) : Action → Except Error Unit → Prop
  | fails {y : Action} {e : Error} (quiet : Agent.Quiet a a') : Leaves a c a' y (.error e)
  | refuses {m : Rotate} (quiet : Agent.Quiet a a') : Leaves a c a' (.processRotate m) (.ok ())
  | forks {m : Request} {r : Option Routing} {fork : Connection} (many : c.multiUse = true)
      (taken : (Agent.processRequest c m r).run a = (.ok fork, a'))
      (saved : a.connections.save fork = .ok a'.connections) (blank : fork.Blank)
      (tags : fork.customTags = c.customTags) (thread : fork.threadId = some m.id)
      (state : fork.state = .requestReceived) :
      Leaves a c a' (.processRequest m r) (.ok ())
  | revises {y : Action} {next stored : Connection} (stores : Agent.Stores a next stored a')
      (same : next.id = c.id ∧ next.version = c.version) (revises : y.Revises a c next) :
      Leaves a c a' y (.ok ())

variable {a a' : Agent} {c stored : Connection} {y : Action} {t : String}

/-- A thread begins only with an action that succeeds. -/
theorem Opens.succeeds (h : y.Opens a c t) : ((y.step c).run a).1 = .ok () := by
  cases h with
  | @makes r options m c' made =>
    change ((Agent.createRequest c r options).done.run a).1 = _
    rw [done_ok.mpr ⟨_, Prod.ext made rfl⟩]
  | @takes m r c' taken =>
    change ((Agent.processRequest c m r).done.run a).1 = _
    rw [done_ok.mpr ⟨_, Prod.ext taken rfl⟩]

/-- One thread begins at most. -/
theorem Opens.unique {t' : String} (h : y.Opens a c t) (h' : y.Opens a c t') : t = t' := by
  cases h with
  | makes made =>
    cases h' with
    | makes made' => cases made.symm.trans made'; rfl
  | takes => cases h'; rfl

/-! ## Where it comes from -/

/-- A request tells a DID that was made for it. -/
theorem gives_request {r : Routing} {options : RequestOptions} {m : Request}
    (h : (Agent.createRequest c r options).run a = (.ok (m, stored), a')) :
    (createRequest r options).Gives a c m.did := by
  simp only [Agent.createRequest, bind_run_ok, lift_run_ok, view_run_ok, pure_run_ok,
    Prod.mk.injEq] at h
  obtain ⟨i, _, ⟨invitation, rfl⟩, state, _, ⟨advance, rfl⟩, _, _, ⟨rfl, rfl⟩, p, a₁, made, _, _, -, _,
    _, -, _, _, -, ⟨rfl, -⟩, -⟩ := h
  exact .makes (.request invitation advance) (by rw [made])

/-- So does a response. -/
theorem gives_response {given : Option Routing} {m : Response}
    (h : (Agent.createResponse c given).run a = (.ok (m, stored), a')) :
    (createResponse given).Gives a c m.did := by
  simp only [Agent.createResponse, bind_run_ok, lift_run_ok, view_run_ok, pure_run_ok,
    Prod.mk.injEq] at h
  obtain ⟨state, _, ⟨advance, rfl⟩, thread, _, ⟨threadId, rfl⟩, i, _, ⟨invitation, rfl⟩, key, _,
    ⟨answered, rfl⟩, _, _, ⟨rfl, rfl⟩, r, _, ⟨routing, rfl⟩, p, a₁, made, _, _, -, _, _, -, _, _, -,
    ⟨rfl, -⟩, -⟩ := h
  exact .makes (.response advance threadId invitation answered routing) (by rw [made])

/-- An announcement tells a DID that was made for it, or one that it was asked to tell. -/
theorem gives_rotate {target : RotationTarget} {m : Rotate}
    (h : (Agent.createRotate c target).run a = (.ok (m, stored), a')) :
    (createRotate target).Gives a c m.did := by
  simp only [Agent.createRotate, bind_run_ok, lift_run_ok, view_run_ok, pure_run_ok,
    Prod.mk.injEq] at h
  obtain ⟨⟨⟩, _, ⟨completed, rfl⟩, _, _, ⟨rfl, rfl⟩, ⟨⟩, _, ⟨allowed, rfl⟩, told, a₁, chosen, _, _, -,
    _, _, -, ⟨rfl, -⟩, -⟩ := h
  cases target with
  | routing r =>
    simp only [Agent.rotationDid, bind_run_ok, view_run_ok, pure_run_ok] at chosen
    obtain ⟨_, _, ⟨rfl, rfl⟩, p, a₂, made, rfl, -⟩ := chosen
    exact .makes (.rotation completed allowed) (by rw [made])
  | existing did mediators =>
    simp only [Agent.rotationDid, bind_run_ok, ask_run_ok] at chosen
    obtain ⟨record, _, ⟨found, rfl⟩, chosen⟩ := chosen
    split at chosen
    · cases chosen
    next created =>
    simp only [bind_run_ok, ask_run_ok, lift_run_ok, pure_run_ok] at chosen
    obtain ⟨_, _, -, _, _, -, rfl, -⟩ := chosen
    exact .chooses (Store.get_eq_ok.mp found) (not_not.mp created)

/-! ## What is left behind -/

/-- An action that ends with one step fails with it. -/
theorem Leaves.of_done {α : Type} {f : Step α} {result : Except Error Unit} (fails : f.FailsQuietly)
    (succeeds : ∀ r, f.run a = (.ok r, a') → y.Leaves a c a' (.ok ()))
    (run : f.done.run a = (result, a')) : y.Leaves a c a' result := by
  obtain ⟨e, rfl, failed⟩ | ⟨r, rfl, done⟩ := done_cases run
  · exact .fails (fails _ _ _ failed)
  · exact succeeds r done

/-- An action that makes and takes in no request revises its connection in its thread. -/
theorem Revises.of_move {next : Connection} {d : Deed} (other : ∀ t, ¬ y.Opens a c t)
    (thread : next.threadId = c.threadId) (move : c.Move d next.next)
    (holds : ∀ did, next.Holds did → c.Holds did ∨ y.Gives a c did) : y.Revises a c next :=
  ⟨⟨d, move⟩, holds, .inr ⟨other, thread⟩⟩

theorem leaves {result : Except Error Unit} (run : (y.step c).run a = (result, a')) :
    y.Leaves a c a' result := by
  cases y with
  | createRequest r options =>
    refine .of_done (Agent.createRequest_failsQuietly r options) (fun ⟨m, stored⟩ h => ?_) run
    have gives := gives_request h
    obtain ⟨i, p, thread, attachment, invitation, role, state, rfl, stores⟩ := Agent.createRequest_ok h
    refine .revises stores ⟨rfl, rfl⟩ ⟨⟨_, .exchanges
      (.makesRequest r p.did thread "" options attachment role state invitation)⟩, ?_, ?_⟩
    · intro did held
      refine (held.of_did (c := c) rfl rfl rfl).imp_right fun own => ?_
      rw [← own]
      exact gives
    · refine .inl ⟨thread, .makes (by rw [h]), ?_, rfl⟩
      rcases state with state | state <;> rw [state] <;> rfl
  | processRequest m r =>
    refine .of_done (Agent.processRequest_failsQuietly m r) (fun fork h => ?_) run
    obtain ⟨role, state, parent, ⟨-, stores⟩ | ⟨many, -, a₁, answer, answers, rfl, saved⟩⟩ :=
      Agent.processRequest_ok h
    · refine .revises stores ⟨rfl, rfl⟩
        ⟨⟨_, .exchanges (.takesRequest m role state parent)⟩, fun did held => .inl held, ?_⟩
      refine .inl ⟨m.id, .takes (by rw [h]), ?_, rfl⟩
      rcases state with state | state <;> rw [state] <;> rfl
    · obtain ⟨single, -⟩ | ⟨-, own, id, -, -, rfl⟩ := Agent.answering_ok answers
      · cases many.symm.trans single
      · exact .forks many h saved ⟨rfl, rfl, rfl⟩ rfl rfl rfl
  | createResponse given =>
    refine .of_done (Agent.createResponse_failsQuietly given) (fun ⟨m, stored⟩ h => ?_) run
    have gives := gives_response h
    obtain ⟨thread, i, key, r, p, id, attachment, role, state, threadId, -, -, -, rfl, stores⟩ :=
      Agent.createResponse_ok h
    refine .revises stores ⟨rfl, rfl⟩ (.of_move (fun _ opens => by cases opens) rfl
      (.exchanges (.makesResponse r p.did id attachment role state threadId)) fun did held => ?_)
    refine (held.of_did (c := c) rfl rfl rfl).imp_right fun own => ?_
    rw [← own]
    exact gives
  | processResponse m =>
    refine .of_done (Agent.processResponse_failsQuietly m) (fun _ h => ?_) run
    obtain ⟨role, state, thread, -, stores⟩ := Agent.processResponse_ok h
    exact .revises stores ⟨rfl, rfl⟩ (.of_move (fun _ opens => by cases opens) rfl
      (.exchanges (.takesResponse m role state thread)) fun _ => .inl)
  | createComplete =>
    refine .of_done Agent.createComplete_failsQuietly (fun ⟨m, stored⟩ h => ?_) run
    obtain ⟨thread, i, id, role, state, threadId, invitation, -, stores⟩ := Agent.createComplete_ok h
    exact .revises stores ⟨rfl, rfl⟩ (.of_move (fun _ opens => by cases opens) rfl
      (.exchanges (.makesComplete id role state threadId invitation)) fun _ => .inl)
  | processComplete m =>
    refine .of_done (Agent.processComplete_failsQuietly m) (fun _ h => ?_) run
    obtain ⟨role, state, thread, parent, stores⟩ := Agent.processComplete_ok h
    exact .revises stores ⟨rfl, rfl⟩ (.of_move (fun _ opens => by cases opens) rfl
      (.exchanges (.takesComplete m role state thread parent)) fun _ => .inl)
  | processExchangeProblem m =>
    refine .of_done (Agent.processExchangeProblem_failsQuietly m) (fun _ h => ?_) run
    obtain ⟨open_, stores⟩ := Agent.processExchangeProblem_ok h
    exact .revises stores ⟨rfl, rfl⟩ (.of_move (fun _ opens => by cases opens) rfl
      (.exchanges (.takesProblem m open_)) fun _ => .inl)
  | createRotate target =>
    refine .of_done (Agent.createRotate_failsQuietly target) (fun ⟨m, stored⟩ h => ?_) run
    have gives := gives_rotate h
    obtain ⟨r, completed, rfl, -, stores⟩ := Agent.createRotate_chooses h
    refine .revises stores ⟨rfl, rfl⟩ (.of_move (fun _ opens => by cases opens) rfl
      (.announces r completed) fun did held => ?_)
    refine held.of_noteRotation.imp_right fun own => ?_
    rw [← own]
    exact gives
  | processRotate m =>
    refine .of_done Agent.processRotate_failsQuietly (fun _ h => ?_) run
    cases Agent.processRotate_heeds h with
    | refuses quiet => exact .refuses quiet
    | acknowledges completed announced readable stores =>
      exact .revises stores ⟨rfl, rfl⟩ (.of_move (fun _ opens => by cases opens) rfl
        (.follows m.did completed) fun _ => .inl)
  | processRotateAck m =>
    refine .of_done (Agent.processRotateAck_failsQuietly m) (fun _ h => ?_) run
    obtain ⟨completed, r, pending, -, stores⟩ := Agent.processRotateAck_ok h
    exact .revises stores ⟨rfl, rfl⟩ (.of_move (fun _ opens => by cases opens) rfl
      (.commits r completed pending) fun _ held => .inl (held.of_commitRotation pending))
  | processRotateProblem m =>
    refine .of_done (Agent.processRotateProblem_failsQuietly m) (fun _ h => ?_) run
    obtain ⟨completed, stores⟩ := Agent.processRotateProblem_ok h
    exact .revises stores ⟨rfl, rfl⟩ (.of_move (fun _ opens => by cases opens) rfl
      (.drops completed) fun _ held => .inl held.of_dropRotation)
  | createHangup =>
    refine .of_done Agent.createHangup_failsQuietly (fun _ h => ?_) run
    obtain ⟨completed, stores⟩ := Agent.createHangup_ok h
    exact .revises stores ⟨rfl, rfl⟩ (.of_move (fun _ opens => by cases opens) rfl
      (.hangsUp completed) fun _ held => .inl held.of_hungUp)
  | processHangup m =>
    refine .of_done (Agent.processHangup_failsQuietly m) (fun _ h => ?_) run
    obtain ⟨completed, stores⟩ := Agent.processHangup_ok h
    exact .revises stores ⟨rfl, rfl⟩ (.of_move (fun _ opens => by cases opens) rfl
      (.hungUp completed) fun _ => .inl)

end Action

end Steps

end Pairwise
