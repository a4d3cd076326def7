import Pairwise.Proofs.Moves
import Pairwise.Proofs.OpenInvitations
/-!
# What actions do

What an agent does with a copy of a connection fails quietly, or it makes one move of the connection
that it is given. Two actions may succeed without that: an announcement that is refused with a report,
and a request for an invitation for many, which is answered on a connection of its own.

Results:
* `Action.Makes`: all that an action can make of the connection that it is given.
* `Action.Does`, `Action.does`: what comes of an action.
-/
namespace Pairwise

open Step
open Connection (Deed)

variable [suite : Suite] [chance : Chance]

namespace Action

open Agent

/-- What an action makes of the connection that it is given, and what was done then. -/
inductive Makes (a : Agent) (c : Connection) : Action → Deed → Connection → Prop
  | exchanges {y : Action} {event : Event} {c' : Connection} (turn : c.Turn event c') :
      Makes a c y .exchanges c'
  | announces {t : RotationTarget} {r : PendingRotation} (completed : c.state = .completed)
      (told : ((Agent.createRotate c t).run a).1 = .ok (.new r.threadId r.did, (c.noteRotation r).next))
      (chosen : ((rotationDid t).run a).1 = .ok (r.did, r.mediatorId)) :
      Makes a c (.createRotate t) .announces (c.noteRotation r).next
  | follows {m : Rotate} (completed : c.state = .completed) :
      Makes a c (.processRotate m) .follows (c.withTheirDid (some m.did)).next
  | commits {q : RotateAck} {r : PendingRotation} (completed : c.state = .completed)
      (pending : c.pendingRotation = .ok (some r)) (answers : r.threadId = q.threadId) :
      Makes a c (.processRotateAck q) .commits (c.commitRotation r).next
  | drops {q : ProblemReport} (completed : c.state = .completed) :
      Makes a c (.processRotateProblem q) .drops c.dropRotation.next
  | hangsUp (completed : c.state = .completed) :
      Makes a c .createHangup .hangsUp ({ c with did := none } : Connection).next
  | hungUp {m : Hangup} (completed : c.state = .completed) :
      Makes a c (.processHangup m) .hungUp (c.withTheirDid none).next

/-- What comes of an action, and its result. -/
inductive Does (a : Agent) (c : Connection) (a' : Agent) : Action → Except Error Unit → Prop
  | fails {y : Action} {e : Error} (quiet : Quiet a a') : Does a c a' y (.error e)
  | refuses {m : Rotate} (quiet : Quiet a a') : Does a c a' (.processRotate m) (.ok ())
  | forks {m : Request} {r : Option Routing} (adds : Adds a a') :
      Does a c a' (.processRequest m r) (.ok ())
  | makes {y : Action} {d : Deed} {next stored : Connection} (stores : Stores a next stored a')
      (same : next.id = c.id ∧ next.version = c.version) (makes : y.Makes a c d next.next) :
      Does a c a' y (.ok ())

variable {a a' : Agent} {c c' : Connection} {y : Action} {d : Deed}

/-- Whatever an action makes is a move. -/
theorem Makes.move (h : y.Makes a c d c') : c.Move d c' := by
  cases h with
  | exchanges turn => exact .exchanges turn
  | announces completed told chosen => exact .announces _ completed
  | follows completed => exact .follows _ completed
  | commits completed pending answers => exact .commits _ completed pending
  | drops completed => exact .drops completed
  | hangsUp completed => exact .hangsUp completed
  | hungUp completed => exact .hungUp completed

/-- An action that ends with one step fails with it. -/
theorem Does.of_done {α : Type} {f : Step α} {result : Except Error Unit} (fails : f.FailsQuietly)
    (succeeds : ∀ r, f.run a = (.ok r, a') → y.Does a c a' (.ok ()))
    (run : f.done.run a = (result, a')) : y.Does a c a' result := by
  obtain ⟨e, rfl, failed⟩ | ⟨r, rfl, done⟩ := done_cases run
  · exact .fails (fails _ _ _ failed)
  · exact succeeds r done

theorem does {result : Except Error Unit} (run : (y.step c).run a = (result, a')) :
    y.Does a c a' result := by
  cases y with
  | createRequest r options =>
    refine .of_done (createRequest_failsQuietly r options) (fun _ h => ?_) run
    obtain ⟨i, p, thread, attachment, invitation, role, state, -, stores⟩ := createRequest_ok h
    exact .makes stores ⟨rfl, rfl⟩
      (.exchanges (.makesRequest r p.did thread "" options attachment role state invitation))
  | processRequest m r =>
    refine .of_done (processRequest_failsQuietly m r) (fun _ h => ?_) run
    obtain ⟨role, state, parent, ⟨-, stores⟩ | ⟨-, -, a₁, answer, -, -, saved⟩⟩ := processRequest_ok h
    · exact .makes stores ⟨rfl, rfl⟩ (.exchanges (.takesRequest m role state parent))
    · exact .forks fun _ _ found => Store.find?_save_of_some saved found
  | createResponse r =>
    refine .of_done (createResponse_failsQuietly r) (fun _ h => ?_) run
    obtain ⟨thread, i, key, s, p, mid, attachment, role, state, threadId, -, -, -, -, stores⟩ :=
      createResponse_ok h
    exact .makes stores ⟨rfl, rfl⟩
      (.exchanges (.makesResponse s p.did mid attachment role state threadId))
  | processResponse m =>
    refine .of_done (processResponse_failsQuietly m) (fun _ h => ?_) run
    obtain ⟨role, state, thread, -, stores⟩ := processResponse_ok h
    exact .makes stores ⟨rfl, rfl⟩ (.exchanges (.takesResponse m role state thread))
  | createComplete =>
    refine .of_done createComplete_failsQuietly (fun _ h => ?_) run
    obtain ⟨thread, i, mid, role, state, threadId, invitation, -, stores⟩ := createComplete_ok h
    exact .makes stores ⟨rfl, rfl⟩ (.exchanges (.makesComplete mid role state threadId invitation))
  | processComplete m =>
    refine .of_done (processComplete_failsQuietly m) (fun _ h => ?_) run
    obtain ⟨role, state, thread, parent, stores⟩ := processComplete_ok h
    exact .makes stores ⟨rfl, rfl⟩ (.exchanges (.takesComplete m role state thread parent))
  | processExchangeProblem m =>
    refine .of_done (processExchangeProblem_failsQuietly m) (fun _ h => ?_) run
    obtain ⟨open_, stores⟩ := processExchangeProblem_ok h
    exact .makes stores ⟨rfl, rfl⟩ (.exchanges (.takesProblem m open_))
  | createRotate t =>
    refine .of_done (createRotate_failsQuietly t) (fun ⟨m, stored⟩ h => ?_) run
    obtain ⟨r, completed, rfl, chosen, stores⟩ := createRotate_chooses h
    refine .makes stores ⟨rfl, rfl⟩ (.announces completed ?_ chosen)
    rw [h, stores.stored_eq]
    rfl
  | processRotate m =>
    refine .of_done processRotate_failsQuietly (fun _ h => ?_) run
    cases processRotate_heeds h with
    | refuses quiet => exact .refuses quiet
    | acknowledges completed announced readable stores =>
      exact .makes stores ⟨rfl, rfl⟩ (.follows completed)
  | processRotateAck m =>
    refine .of_done (processRotateAck_failsQuietly m) (fun _ h => ?_) run
    obtain ⟨completed, r, pending, answers, stores⟩ := processRotateAck_ok h
    exact .makes stores ⟨rfl, rfl⟩ (.commits completed pending answers)
  | processRotateProblem m =>
    refine .of_done (processRotateProblem_failsQuietly m) (fun _ h => ?_) run
    obtain ⟨completed, stores⟩ := processRotateProblem_ok h
    exact .makes stores ⟨rfl, rfl⟩ (.drops completed)
  | createHangup =>
    refine .of_done createHangup_failsQuietly (fun _ h => ?_) run
    obtain ⟨completed, stores⟩ := createHangup_ok h
    exact .makes stores ⟨rfl, rfl⟩ (.hangsUp completed)
  | processHangup m =>
    refine .of_done (processHangup_failsQuietly m) (fun _ h => ?_) run
    obtain ⟨completed, stores⟩ := processHangup_ok h
    exact .makes stores ⟨rfl, rfl⟩ (.hungUp completed)

end Action

end Pairwise
