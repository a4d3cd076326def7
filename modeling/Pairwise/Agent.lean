import Pairwise.Chance
import Pairwise.Connection.Record
import Pairwise.Did.Record
import Pairwise.Settings
import Pairwise.Wallet
/-!
# Agents

An agent is its settings, its wallet, and its stores of connections and DIDs. What it does is a
`Step`: a function of the agent that gives a result or an error, and in both cases the agent
afterwards. A step that fails leaves behind what it did before it failed; ids that were drawn stay
drawn.

Results:
* `Step.bind_ok`, `Step.bind_error`: a sequence goes on from what a step gave, and stops at an
  error.
* `Step.attempt_run`: attempting a step never fails and leaves the same agent behind.
-/
namespace Pairwise

/-- An agent. -/
structure Agent [Suite] where
  settings : Settings := {}
  wallet : Wallet := {}
  connections : Store Connection := .empty
  dids : Store DidRecord := .empty
  draws : Draws := {}
  /-- The time at which records are made. -/
  now : Timestamp := .epoch

/-- What an agent does: a result or an error, and the agent afterwards. -/
def Step [Suite] (α : Type) : Type := Agent → Except Error α × Agent

namespace Step

variable [Suite] {α β : Type}

/-- Takes a step. -/
def run (x : Step α) (a : Agent) : Except Error α × Agent := x a

/-- A result without doing anything. -/
protected def pure (r : α) : Step α := fun a => (.ok r, a)

/-- A step, and then another from its result. -/
protected def bind (x : Step α) (f : α → Step β) : Step β := fun a =>
  match x a with
  | (.ok r, a) => f r a
  | (.error e, a) => (.error e, a)

instance : Monad Step where
  pure := Step.pure
  bind := Step.bind

/-- Fails. -/
def fail (e : Error) : Step α := fun a => (.error e, a)

/-- A result or an error without doing anything. -/
def check (r : Except Error α) : Step α := fun a => (r, a)

instance : MonadLift (Except Error) Step where
  monadLift r := check r

/-- Looks at the agent. -/
def view (f : Agent → α) : Step α := fun a => (.ok (f a), a)

/-- Asks the agent something that may have no answer. -/
def ask (f : Agent → Except Error α) : Step α := fun a => (f a, a)

/-- Changes the agent. -/
def change (f : Agent → Agent) : Step Unit := fun a => (.ok (), f a)

/-- Takes a step and gives its error as a result. -/
def attempt (x : Step α) : Step (Except Error α) := fun a =>
  let (r, a) := x a
  (.ok r, a)

theorem bind_ok {x : Step α} {f : α → Step β} {a a' : Agent} {r : α} (h : x.run a = (.ok r, a')) :
    (x >>= f).run a = (f r).run a' := by
  change Step.bind x f a = f r a'
  have h' : x a = (.ok r, a') := h
  simp only [Step.bind, h']

theorem bind_error {x : Step α} {f : α → Step β} {a a' : Agent} {e : Error}
    (h : x.run a = (.error e, a')) : (x >>= f).run a = (.error e, a') := by
  change Step.bind x f a = (.error e, a')
  have h' : x a = (.error e, a') := h
  simp only [Step.bind, h']

theorem attempt_run (x : Step α) (a : Agent) :
    x.attempt.run a = (.ok (x.run a).1, (x.run a).2) := rfl

instance : LawfulMonad Step := LawfulMonad.mk' Step
  (fun x => by
    funext a
    change Step.bind x (fun r => Step.pure r) a = x a
    unfold Step.bind
    rcases h : x a with ⟨r | r, a'⟩ <;> rfl)
  (fun _ _ => rfl)
  (fun x f g => by
    funext a
    change Step.bind (Step.bind x f) g a = Step.bind x (fun r => Step.bind (f r) g) a
    unfold Step.bind
    rcases x a with ⟨r | r, a'⟩ <;> rfl)

end Step

namespace Agent

variable [Suite] [Chance]

/-! ## Draws -/

/-- Draws an id. -/
def drawId : Step String := fun a =>
  (.ok (Chance.uuid a.draws.ids), { a with draws.ids := a.draws.ids + 1 })

/-- Draws bytes for single use. -/
def drawNoise (length : Nat) : Step Bytes := fun a =>
  (.ok (Chance.noise a.draws.noises length), { a with draws.noises := a.draws.noises + 1 })

/-- Draws a seed. -/
def drawSeed : Step Bytes := fun a =>
  (.ok (Chance.seed a.draws.seeds), { a with draws.seeds := a.draws.seeds + 1 })

/-! ## Keys -/

/-- Adds the key of a seed to the wallet. -/
def addKey (seed : Bytes) : Step Key := do
  Step.change fun a => { a with wallet := a.wallet.add seed }
  return Wallet.keyOf seed

/-- Makes a key from a seed that is drawn. -/
def freshKey : Step Key := do addKey (← drawSeed)

/-- Makes a key of a kind from a given seed. -/
def seededKey (kind : KeyKind) (seed : Bytes) : Step Key := do
  Wallet.checkSeed kind seed
  addKey seed

/-! ## Records -/

/-- Stores a new connection. -/
def saveConnection (c : Connection) : Step Connection := fun a =>
  match a.connections.save c with
  | .ok connections => (.ok c, { a with connections })
  | .error e => (.error e, a)

/-- Updates a stored connection; gives it with its next version. -/
def updateConnection (c : Connection) : Step Connection := fun a =>
  match a.connections.update c with
  | .ok (c, connections) => (.ok c, { a with connections })
  | .error e => (.error e, a)

/-- Removes a stored connection. -/
def deleteConnection (id : String) : Step Unit := fun a =>
  match a.connections.delete id with
  | .ok connections => (.ok (), { a with connections })
  | .error e => (.error e, a)

/-- A new connection with an id that is drawn; it is not stored yet. -/
def newConnection (role : ExchangeRole) (state : ExchangeState) : Step Connection := do
  return { id := ← drawId, createdAt := ← Step.view (·.now), role, state }

/-- Stores a new DID. -/
def saveDid (r : DidRecord) : Step Unit := fun a =>
  match a.dids.save r with
  | .ok dids => (.ok (), { a with dids })
  | .error e => (.error e, a)

/-- Updates a stored DID; gives it with its next version. -/
def updateDid (r : DidRecord) : Step DidRecord := fun a =>
  match a.dids.update r with
  | .ok (r, dids) => (.ok r, { a with dids })
  | .error e => (.error e, a)

/-- Removes a stored DID. -/
def deleteDid (did : String) : Step Unit := fun a =>
  match a.dids.delete did with
  | .ok dids => (.ok (), { a with dids })
  | .error e => (.error e, a)

/-- The document of a DID, as the agent can tell. -/
def resolve (did : String) (a : Agent) : Except Error Document := Did.resolve a.dids did

end Agent

end Pairwise
