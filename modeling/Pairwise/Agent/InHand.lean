import Pairwise.Agent.Exchange
import Pairwise.Agent.Rotation
/-!
# Connections in hand

Whoever makes a message on a connection has a copy of it in hand, and goes on with that. The copy is
given up for the connection as it is stored then, and not before it is stored: what fails can be tried
again with the copy.

The steps that make a message are written here for the copy in hand. They are those of the exchange
and of the rotation, which give the connection together with the message.
-/
namespace Pairwise

/-- What an agent does with a connection in hand: a result or an error, and in both cases the
connection in hand and the agent afterwards. -/
def InHand [Suite] (α : Type) : Type := Connection → Agent → Except Error α × Connection × Agent

namespace InHand

variable [Suite] {α β : Type}

/-- Does it. -/
def run (x : InHand α) (c : Connection) (a : Agent) : Except Error α × Connection × Agent := x c a

/-- A result without doing anything. -/
protected def pure (r : α) : InHand α := fun c a => (.ok r, c, a)

/-- One thing, and then another from its result. -/
protected def bind (x : InHand α) (f : α → InHand β) : InHand β := fun c a =>
  match x c a with
  | (.ok r, c, a) => f r c a
  | (.error e, c, a) => (.error e, c, a)

instance : Monad InHand where
  pure := InHand.pure
  bind := InHand.bind

/-- A step is taken beside the connection in hand. -/
instance : MonadLift Step InHand where
  monadLift x := fun c a => let (r, a) := x.run a; (r, c, a)

instance : LawfulMonad InHand := LawfulMonad.mk' InHand
  (fun x => by
    funext c a
    change InHand.bind x (fun r => InHand.pure r) c a = x c a
    unfold InHand.bind
    rcases x c a with ⟨r | r, c', a'⟩ <;> rfl)
  (fun _ _ => rfl)
  (fun x f g => by
    funext c a
    change InHand.bind (InHand.bind x f) g c a = InHand.bind x (fun r => InHand.bind (f r) g) c a
    unfold InHand.bind
    rcases x c a with ⟨r | r, c', a'⟩ <;> rfl)

instance : LawfulMonadLift Step InHand where
  monadLift_pure _ := rfl
  monadLift_bind x f := by
    funext c a
    change (let (r, a) := (x >>= f).run a; (r, c, a)) = InHand.bind _ _ c a
    unfold InHand.bind
    rcases h : x.run a with ⟨e | r, a'⟩
    · simp only [MonadLift.monadLift, Step.bind_error h, h]
    · simp only [MonadLift.monadLift, Step.bind_ok h, h]

theorem bind_lift_ok {x : Step α} {f : α → InHand β} {c : Connection} {a a' : Agent} {r : α}
    (h : x.run a = (.ok r, a')) : (liftM x >>= f).run c a = (f r).run c a' := by
  change InHand.bind (fun c a => let (r, a) := x.run a; (r, c, a)) f c a = f r c a'
  simp only [InHand.bind, h]

theorem bind_lift_error {x : Step α} {f : α → InHand β} {c : Connection} {a a' : Agent} {e : Error}
    (h : x.run a = (.error e, a')) : (liftM x >>= f).run c a = (.error e, c, a') := by
  change InHand.bind (fun c a => let (r, a) := x.run a; (r, c, a)) f c a = (.error e, c, a')
  simp only [InHand.bind, h]

/-- The connection in hand. -/
def held : InHand Connection := fun c a => (.ok c, c, a)

/-- Takes another connection in hand. -/
def hold (c : Connection) : InHand Unit := fun _ a => (.ok (), c, a)

/-- Does it with a copy of a connection, and gives what is in hand afterwards. -/
def on (x : InHand α) (c : Connection) : Step (Except Error α × Connection) := fun a =>
  let (r, c, a) := x.run c a
  (.ok (r, c), a)

/-! ## Storing -/

/-- Updates a stored connection, and takes it in hand in its next version. -/
def store (c : Connection) : InHand Unit := do
  let c ← Agent.updateConnection c
  hold c

/-- Updates the stored connection with the one in hand. -/
def update : InHand Unit := do store (← held)

/-- Moves the connection in hand to a state. -/
def updateState (state : ExchangeState) : InHand Unit := do
  let c ← held
  store { c with state }

variable [Chance]

/-! ## The messages of the exchange -/

/-- Creates the request that answers the invitation of the connection in hand. -/
def createRequest (r : Routing) (options : RequestOptions) : InHand Request := do
  let c ← held
  let invitation ← c.requireInvitation
  let state ← c.advance .create .exchangeRequest
  let settings ← Step.view (·.settings)
  let peer ← Agent.createPeerDid r settings.exchangeForm
  let label := options.label.getD settings.label
  let message := Request.new (← Agent.drawId) label invitation.id peer.did
  let attachment ← Agent.attachmentFor peer r.recipientKey
  store { c with
    did := some peer.did
    verkey := some r.recipientKey.base58
    threadId := some message.id
    mediatorId := r.mediatorId
    autoAccept := options.autoAccept.or c.autoAccept
    state }
  return { message with goalCode := options.goalCode, goal := options.goal, attachment }

/-- Creates the response to the request on the connection in hand. -/
def createResponse (r : Option Routing) : InHand Response := do
  let c ← held
  let state ← c.advance .create .exchangeResponse
  let thread ← c.requireThread
  let invitation ← c.requireInvitation
  let key ← invitation.requireKey
  let settings ← Step.view (·.settings)
  let r ← Agent.responseRouting c invitation key settings r
  let peer ← Agent.createPeerDid r settings.exchangeForm
  let message := Response.new (← Agent.drawId) peer.did thread
  let attachment ← Agent.attachmentFor peer key
  store { c with did := some peer.did, mediatorId := r.mediatorId, state }
  return { message with attachment }

/-- Creates the completion of the exchange on the connection in hand. -/
def createComplete : InHand Complete := do
  let c ← held
  let state ← c.advance .create .exchangeComplete
  let thread ← c.requireThread
  let invitation ← c.requireInvitation
  let message := Complete.new (← Agent.drawId) thread (some invitation.id)
  updateState state
  return message

/-! ## The messages of the rotation -/

/-- Creates the announcement of a new DID on the connection in hand. -/
def createRotate (target : RotationTarget) : InHand Rotate := do
  let c ← held
  c.requireCompleted
  Agent.checkRotation c (← Step.view (·.settings))
  let (did, mediatorId) ← Agent.rotationDid target
  let message := Rotate.new (← Agent.drawId) did
  store (c.noteRotation { threadId := message.threadId, did, mediatorId })
  return message

/-- Creates a hangup, and takes the agent's own DID off the connection in hand. -/
def createHangup : InHand Hangup := do
  let c ← held
  c.requireCompleted
  store { c with did := none }
  return Hangup.new (← Agent.drawId)

end InHand

end Pairwise
