import Pairwise.Agent.InHand
import Pairwise.Proofs.Completion
import Pairwise.Proofs.ExchangeSteps
import Pairwise.Proofs.Operations
import Pairwise.Proofs.RotationSteps
/-!
# Steps that fail

An agent makes and takes in messages with a copy of a connection in hand, which may be older than the
connection it has stored. A step that fails has stored nothing of the connection, and may have stored
DIDs on the way; the copy in hand is not given up either, whatever the step went through before.

Results:
* `InHand.createRequest_eq` and the like: to make a message with a connection in hand is to make it on
  that connection, and then to take in hand what was stored.
* `Action.inHand_error`: with a connection in hand, an action fails where it does on that connection.
* `Agent.createRotate_stale`: what a failure may leave behind, a DID that was made on the way.
* `Action.failed_unchanged`: an action that fails changes no stored connection, no stored DID, and not
  the connection in hand.
-/
namespace Pairwise

section Failures

variable [suite : Suite]

/-! ## Steps on the connection in hand -/

namespace InHand

variable {α β : Type} {c c' : Connection} {a a' : Agent} {e : Error}

/-- Takes a step with the connection in hand, which stays as it is. -/
def reading (x : Connection → Step α) : InHand α := do x (← held)

/-- Takes a step with the connection in hand, and takes in hand the one it gives. -/
def taking (x : Connection → Step (α × Connection)) : InHand α := do
  let (r, c) ← x (← held)
  hold c
  return r

/-- Does it, and forgets its result. -/
def done (x : InHand α) : InHand Unit := do
  let _ ← x
  return ()

theorem held_bind (f : Connection → InHand α) : (held >>= f).run c a = (f c).run c a := rfl

theorem reading_error {x : Connection → Step α} :
    (reading x).run c a = (.error e, c', a') ↔ c' = c ∧ (x c).run a = (.error e, a') := by
  change (((x c).run a).1, c, ((x c).run a).2) = (.error e, c', a') ↔ _
  rw [Prod.ext_iff, Prod.ext_iff, Prod.ext_iff]
  tauto

theorem taking_done_run (x : Connection → Step (α × Connection)) :
    (taking x).done.run c a = (do let (_, next) ← (x c : InHand _); hold next).run c a := by
  unfold done taking
  rw [bind_assoc, held_bind, bind_assoc]
  rfl

/-- The connection in hand is given up for one that the step gives, and for nothing else. -/
theorem taking_done_error {x : Connection → Step (α × Connection)} :
    (taking x).done.run c a = (.error e, c', a') ↔ c' = c ∧ (x c).done.run a = (.error e, a') := by
  rw [taking_done_run]
  rcases h : (x c).run a with ⟨e₁ | ⟨r, next⟩, a₁⟩
  · rw [bind_lift_error h, Step.done, Step.bind_error h]
    constructor
    · rintro ⟨⟩
      exact ⟨rfl, rfl⟩
    · rintro ⟨rfl, ⟨⟩⟩
      rfl
  · rw [bind_lift_ok h, Step.done, Step.bind_ok h]
    constructor
    · rintro ⟨⟩
    · rintro ⟨-, ⟨⟩⟩

/-- A step leaves the connection in hand, which can as well be looked at before. -/
theorem lift_held (x : Step α) (f : α → Connection → InHand β) :
    (do let r ← (x : InHand α); f r (← held)) = (do let c ← held; f (← (x : InHand α)) c) := by
  funext c a
  change (liftM x >>= fun r => held >>= f r).run c a = (liftM x >>= fun r => f r c).run c a
  rcases h : x.run a with ⟨e | r, a'⟩
  · rw [bind_lift_error h, bind_lift_error h]
  · rw [bind_lift_ok h, bind_lift_ok h, held_bind]

theorem held_held (f : Connection → Connection → InHand β) :
    (do let c ← held; f c (← held)) = (do let c ← held; f c c) := rfl

theorem lift_check (r : Except Error α) :
    (liftM r : InHand α) = liftM (Step.check r) := rfl

/-! ## Messages made with a connection in hand

What is done with the agent is done beside the connection in hand, in the same order. So both sides of
each equation become one sequence of steps, from the look at the connection to the one that is held.
-/

variable [chance : Chance]

theorem createRequest_eq (r : Routing) (options : RequestOptions) :
    createRequest r options = taking fun c => Agent.createRequest c r options := by
  simp only [createRequest, taking, Agent.createRequest, store, monadLift_bind, monadLift_pure,
    bind_assoc, pure_bind]
  rfl

theorem createResponse_eq (r : Option Routing) :
    createResponse r = taking fun c => Agent.createResponse c r := by
  simp only [createResponse, taking, Agent.createResponse, store, monadLift_bind, monadLift_pure,
    bind_assoc, pure_bind]
  rfl

theorem createComplete_eq : createComplete = taking Agent.createComplete := by
  simp only [createComplete, taking, Agent.createComplete, updateState, store, lift_check,
    monadLift_bind, monadLift_pure, bind_assoc, pure_bind, lift_held, held_held]
  rfl

theorem createRotate_eq (t : RotationTarget) :
    createRotate t = taking fun c => Agent.createRotate c t := by
  simp only [createRotate, taking, Agent.createRotate, store, monadLift_bind, monadLift_pure,
    bind_assoc, pure_bind]
  rfl

theorem createHangup_eq : createHangup = taking Agent.createHangup := by
  simp only [createHangup, taking, Agent.createHangup, store, monadLift_bind, monadLift_pure,
    bind_assoc, pure_bind]
  rfl

end InHand

/-! ## Actions that fail -/

namespace Agent

/-- A DID that was stored still is, with the same record. -/
theorem Later.find?_did {a a' : Agent} (later : Later a a') {did : String} {r : DidRecord}
    (found : a.dids.find? did = some r) : a'.dids.find? did = some r := by
  obtain ⟨mem, id⟩ := Store.find?_eq_some.mp found
  exact Store.find?_eq_some.mpr ⟨later.dids.subset mem, id⟩

/-- A copy in another version than the stored one is not stored. -/
theorem updateConnection_stale {a : Agent} {next stored : Connection}
    (found : a.connections.find? next.id = some stored) (stale : stored.version ≠ next.version) :
    (updateConnection next).run a
      = (.error (.concurrentModification next.id next.version stored.version), a) := by
  have got : a.connections.get next.id = .ok stored := Store.get_eq_ok.mpr found
  have refused : a.connections.update next
      = .error (.concurrentModification next.id next.version stored.version) := by
    unfold Store.update
    change (a.connections.get next.id >>= _) = _
    rw [got, Outcome.ok_bind]
    exact if_pos stale
  rw [Step.run, updateConnection, refused]

variable [chance : Chance]

/-- A DID that is to be announced on a stale copy is made first, and stays when the update fails. -/
theorem createRotate_stale {a : Agent} {c stored : Connection} {r : Routing} (sound : r.Sound)
    (form : a.settings.rotationForm ≠ .inceptionKey)
    (found : a.connections.find? c.id = some stored) (stale : stored.version ≠ c.version)
    (completed : c.state = .completed) (free : c.pendingRotation = .ok none)
    (new : ∀ p : PeerDid, p.Made r → a.dids.find? p.did = none) :
    ∃ (p : PeerDid) (a' : Agent) (record : DidRecord), p.Made r ∧ (createRotate c (.routing r)).run a
        = (.error (.concurrentModification c.id c.version stored.version), a') ∧
      a'.dids.find? p.did = some record := by
  obtain ⟨p, a₁, record, -, made, created, isOf, gains⟩ :=
    createPeerDid_run sound form fun p hp => new p (Routing.made_of_peerDid sound form hp)
  have found' : (drawId.run a₁).2.connections.find? c.id = some stored := by
    change a₁.connections.find? c.id = some stored
    rw [gains.connections]
    exact found
  refine ⟨p, (drawId.run a₁).2, record, made, ?_, ?_⟩
  · rw [createRotate_made completed free created]
    exact Step.bind_error (updateConnection_stale found' stale)
  · refine Store.find?_eq_some.mpr ⟨?_, isOf.did⟩
    change record ∈ a₁.dids.records
    rw [gains.dids]
    exact List.mem_append_right _ List.mem_cons_self

end Agent

namespace Action

open Agent

variable [chance : Chance] {y : Action} {c c' : Connection} {a a' : Agent} {e : Error}

/-- Does it with the connection in hand. What makes a message goes on with the connection that was
stored; what takes one in leaves the copy as it is. -/
def inHand : Action → InHand Unit
  | .createRequest r options => (InHand.createRequest r options).done
  | .createResponse r => (InHand.createResponse r).done
  | .createComplete => InHand.createComplete.done
  | .createRotate t => (InHand.createRotate t).done
  | .createHangup => InHand.createHangup.done
  | y => InHand.reading fun c => y.step c

theorem inHand_error :
    y.inHand.run c a = (.error e, c', a') ↔ c' = c ∧ (y.step c).run a = (.error e, a') := by
  cases y with
  | createRequest r options =>
    rw [inHand, InHand.createRequest_eq]
    exact InHand.taking_done_error
  | createResponse r =>
    rw [inHand, InHand.createResponse_eq]
    exact InHand.taking_done_error
  | createComplete =>
    rw [inHand, InHand.createComplete_eq]
    exact InHand.taking_done_error
  | createRotate t =>
    rw [inHand, InHand.createRotate_eq]
    exact InHand.taking_done_error
  | createHangup =>
    rw [inHand, InHand.createHangup_eq]
    exact InHand.taking_done_error
  | processRequest | processResponse | processComplete | processExchangeProblem | processRotate
  | processRotateAck | processRotateProblem | processHangup => exact InHand.reading_error

/-- Whatever an action does before it fails, it does without touching a stored connection. -/
theorem step_failsQuietly (y : Action) (c : Connection) : (y.step c).FailsQuietly := by
  cases y with
  | createRequest r options => exact .bind_pure (createRequest_failsQuietly r options) _
  | processRequest m r => exact .bind_pure (processRequest_failsQuietly m r) _
  | createResponse r => exact .bind_pure (createResponse_failsQuietly r) _
  | processResponse m => exact .bind_pure (processResponse_failsQuietly m) _
  | createComplete => exact .bind_pure createComplete_failsQuietly _
  | processComplete m => exact .bind_pure (processComplete_failsQuietly m) _
  | processExchangeProblem m => exact .bind_pure (processExchangeProblem_failsQuietly m) _
  | createRotate t => exact .bind_pure (createRotate_failsQuietly t) _
  | processRotate m => exact .bind_pure processRotate_failsQuietly _
  | processRotateAck m => exact .bind_pure (processRotateAck_failsQuietly m) _
  | processRotateProblem m => exact .bind_pure (processRotateProblem_failsQuietly m) _
  | createHangup => exact .bind_pure createHangup_failsQuietly _
  | processHangup m => exact .bind_pure (processHangup_failsQuietly m) _

/-- An action that fails changes nothing that was there: the connections are those that were stored,
every DID that was stored still is, with the same record, and the connection in hand is the same copy,
fresh or stale. -/
theorem failed_unchanged (failed : y.inHand.run c a = (.error e, c', a')) :
    c' = c ∧ a'.connections = a.connections ∧
      ∀ did r, a.dids.find? did = some r → a'.dids.find? did = some r := by
  obtain ⟨same, failed⟩ := inHand_error.mp failed
  have quiet := y.step_failsQuietly c _ _ _ failed
  exact ⟨same, quiet.connections, fun _ _ => quiet.find?_did⟩

end Action

end Failures

/-! ## A stale copy -/

section Plain

attribute [local instance] Suite.plain Chance.counting

namespace Action

open Agent

/-- A new DID is to be announced on a copy that is one version behind. The DID is made and stored, and
then the update fails. -/
theorem failed_unchanged_stale : ∃ (a a' : Agent) (c c' stored : Connection) (r : Routing)
    (own : DidRecord) (made : String) (e : Error),
    a.connections.find? c.id = some stored ∧ stored.version ≠ c.version ∧
      a.dids.find? own.did = some own ∧ a.dids.find? made = none ∧
      (createRotate (.routing r)).inHand.run c a = (.error e, c', a') ∧
      (a'.dids.find? made).isSome ∧ c' = c ∧ a'.connections = a.connections ∧
        ∀ did r, a.dids.find? did = some r → a'.dids.find? did = some r := by
  let c : Connection := {
    id := "connection", createdAt := .epoch, role := .requester, state := .completed }
  let own : DidRecord := {
    did := "did:example:own", role := .created, document := none, createdAt := .epoch
    fingerprints := [], alternatives := [] }
  let a : Agent := { Agent.plain .hashAndDocument [3] with
    connections := ⟨[c.next], by simp⟩
    dids := ⟨[own], by simp⟩ }
  have new (p : PeerDid) (made : p.Made (.plain [3] [])) : a.dids.find? p.did = none := by
    obtain ⟨rest, scheme⟩ := made.scheme
    refine Store.find?_eq_none.mpr fun r mem same => ?_
    obtain rfl := List.mem_singleton.mp mem
    have other : Text.startsWith PeerDid.scheme "did:example:own" = false := by decide
    have text : "did:example:own" = PeerDid.scheme ++ rest := same.trans scheme
    rw [text, Text.startsWith_append] at other
    cases other
  have form : PeerForm.hashAndDocument ≠ .inceptionKey := nofun
  obtain ⟨p, a', record, made, failed, kept⟩ := createRotate_stale (a := a) (c := c)
    (Agent.plain_host form [3] []).sound nofun rfl (by decide) rfl rfl new
  have failed' : (createRotate (.routing (.plain [3] []))).inHand.run c a = (.error _, c, a') :=
    inHand_error.mpr ⟨rfl, Step.bind_error failed⟩
  exact ⟨a, a', c, c, c.next, _, own, p.did, _, rfl, by decide, rfl, new p made, failed',
    Option.isSome_iff_exists.mpr ⟨record, kept⟩, failed_unchanged failed'⟩

end Action

end Plain

end Pairwise
