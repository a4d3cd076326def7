import Pairwise.Agent.Outbound
import Pairwise.Proofs.ExchangeRuns
/-!
# The turns of an exchange

A connection moves by one turn for every message of the exchange that is made on it or taken in.

Results:
* `Connection.Turn`: what a message does to a connection.
* `Agent.Turns`: an agent takes a turn on a stored connection.
* `Agent.act_turn`: what an agent does of itself is one turn, or none.
-/
namespace Pairwise

/-- What a side does with a message. -/
inductive Event where
  | makes (m : Message)
  | takes (m : Message)

/-- What becomes of a connection when a message of the exchange is made on it or taken in. -/
inductive Connection.Turn (c : Connection) : Event → Connection → Prop
  | makesRequest {i : Invitation} (r : Routing) (did id label : String) (options : RequestOptions)
      (attachment : Option Attachment) (role : c.role = .requester)
      (state : c.state = .start ∨ c.state = .invitationReceived) (invitation : c.invitation = some i) :
      Turn c (.makes (.request { Request.new id label i.id did with
        goalCode := options.goalCode, goal := options.goal, attachment }))
        (c.requestSent r did id options).next
  | takesRequest (m : Request) (role : c.role = .responder)
      (state : c.state = .start ∨ c.state = .invitationSent)
      (parent : c.invitationId.isSome ∧ c.invitationId = Thread.parentOf m.thread) :
      Turn c (.takes (.request m)) (Agent.requested c m).next
  | makesResponse {thread : String} (r : Routing) (did id : String) (attachment : Option Attachment)
      (role : c.role = .responder) (state : c.state = .requestReceived)
      (threadId : c.threadId = some thread) :
      Turn c (.makes (.response { Response.new id did thread with attachment }))
        (c.responseSent r did).next
  | takesResponse (m : Response) (role : c.role = .requester) (state : c.state = .requestSent)
      (thread : c.threadId.isSome ∧ c.threadId = some (Thread.idOf m.id m.thread)) :
      Turn c (.takes (.response m)) (c.responseReceived m.did).next
  | makesComplete {thread : String} {i : Invitation} (id : String) (role : c.role = .requester)
      (state : c.state = .responseReceived) (threadId : c.threadId = some thread)
      (invitation : c.invitation = some i) :
      Turn c (.makes (.complete (.new id thread (some i.id)))) c.completed.next
  | takesComplete (m : Complete) (role : c.role = .responder) (state : c.state = .responseSent)
      (thread : c.threadId.isSome ∧ c.threadId = some (Thread.idOf m.id m.thread))
      (parent : c.invitationId.isSome ∧ c.invitationId = Thread.parentOf m.thread) :
      Turn c (.takes (.complete m)) c.completed.next
  | takesProblem (m : ProblemReport) (open_ : c.state.isTerminal = false) :
      Turn c (.takes (.exchangeProblem m)) ({ c with state := .abandoned } : Connection).next

namespace Connection.Turn

variable {c c' : Connection} {event : Event}

/-- A turn keeps what a connection is, and the invitation that it grew out of. -/
theorem keeps (h : c.Turn event c') :
    c'.id = c.id ∧ c'.role = c.role ∧ c'.invitation = c.invitation ∧ c'.multiUse = c.multiUse := by
  cases h <;> exact ⟨rfl, rfl, rfl, rfl⟩

theorem invitationId (h : c.Turn event c') : c'.invitationId = c.invitationId :=
  congrArg (·.map (·.id)) h.keeps.2.2.1

/-- There is no turn after the last. -/
theorem source_open (h : c.Turn event c') : c.state.isTerminal = false := by
  cases h with
  | makesRequest r did id label options attachment role state =>
    rcases state with state | state <;> rw [state] <;> rfl
  | takesRequest m role state =>
    rcases state with state | state <;> rw [state] <;> rfl
  | makesResponse r did id attachment role state => rw [state]; rfl
  | takesResponse m role state => rw [state]; rfl
  | makesComplete id role state => rw [state]; rfl
  | takesComplete m role state => rw [state]; rfl
  | takesProblem m open_ => exact open_

end Connection.Turn

variable [suite : Suite]

namespace Agent

/-- The agent has taken a turn on a stored connection, and all others are stored as they were. -/
structure Turns (a : Agent) (c : Connection) (event : Event) (c' : Connection) (a' : Agent) :
    Prop where
  before : a.connections.find? c.id = some c
  turn : c.Turn event c'
  after : a'.connections.find? c.id = some c'
  others : ∀ id ≠ c.id, a'.connections.find? id = a.connections.find? id

variable {a a₁ a' : Agent} {c c' : Connection}

/-- A connection that is stored after a turn is stored. -/
theorem Turns.of_stores {next stored : Connection} (before : a.connections.find? c.id = some c)
    (stores : Stores a next stored a') (id : next.id = c.id) {event : Event}
    (turn : c.Turn event next.next) : stored = next.next ∧ Turns a c event stored a' := by
  have eq : stored = next.next := stores.stored_eq
  refine ⟨eq, before, eq ▸ turn, ?_, fun other hne => ?_⟩
  · rw [← id]
    exact stores.find?_self
  · exact stores.find?_of_ne (id ▸ hne)

/-! ## The steps -/

section Steps

variable [chance : Chance] (before : a.connections.find? c.id = some c)

include before

theorem createRequest_turn {r : Routing} {options : RequestOptions} {m : Request}
    (h : (createRequest c r options).run a = (.ok (m, c'), a')) :
    Turns a c (.makes (.request m)) c' a' := by
  obtain ⟨i, p, id, attachment, invitation, role, state, rfl, stores⟩ := createRequest_ok h
  exact (Turns.of_stores before stores rfl
    (.makesRequest r p.did id _ options attachment role state invitation)).2

theorem processRequest_turn {m : Request} {r : Option Routing} (once : c.multiUse = false)
    (h : (processRequest c m r).run a = (.ok c', a')) : Turns a c (.takes (.request m)) c' a' := by
  obtain ⟨role, state, parent, ⟨-, stores⟩ | ⟨many, -⟩⟩ := processRequest_ok h
  · exact (Turns.of_stores before stores rfl (.takesRequest m role state parent)).2
  · rw [once] at many
    cases many

theorem createResponse_turn {r : Option Routing} {m : Response}
    (h : (createResponse c r).run a = (.ok (m, c'), a')) :
    Turns a c (.makes (.response m)) c' a' := by
  obtain ⟨thread, i, key, s, p, id, attachment, role, state, threadId, -, -, -, rfl, stores⟩ :=
    createResponse_ok h
  exact (Turns.of_stores before stores rfl
    (.makesResponse s p.did id attachment role state threadId)).2

theorem createComplete_turn {m : Complete} (h : (createComplete c).run a = (.ok (m, c'), a')) :
    Turns a c (.makes (.complete m)) c' a' := by
  obtain ⟨thread, i, id, role, state, threadId, invitation, rfl, stores⟩ := createComplete_ok h
  exact (Turns.of_stores before stores rfl (.makesComplete id role state threadId invitation)).2

omit chance

theorem processResponse_turn {m : Response} (h : (processResponse c m).run a = (.ok c', a')) :
    (∃ i, c.invitation = some i) ∧ Turns a c (.takes (.response m)) c' a' := by
  obtain ⟨role, state, thread, invitation, stores⟩ := processResponse_ok h
  exact ⟨invitation, (Turns.of_stores before stores rfl (.takesResponse m role state thread)).2⟩

theorem processComplete_turn {m : Complete} (h : (processComplete c m).run a = (.ok c', a')) :
    Turns a c (.takes (.complete m)) c' a' := by
  obtain ⟨role, state, thread, parent, stores⟩ := processComplete_ok h
  exact (Turns.of_stores before stores rfl (.takesComplete m role state thread parent)).2

theorem processExchangeProblem_turn {m : ProblemReport}
    (h : (processExchangeProblem c m).run a = (.ok c', a')) :
    Turns a c (.takes (.exchangeProblem m)) c' a' := by
  obtain ⟨open_, stores⟩ := processExchangeProblem_ok h
  exact (Turns.of_stores before stores rfl (.takesProblem m open_)).2

end Steps

/-! ## What an agent does of itself -/

section Acts

variable [chance : Chance]

/-- What an agent does of itself on a connection. -/
inductive Act where
  | request (r : Routing) (options : RequestOptions)
  | response (r : Option Routing)
  | complete

/-- Does it on a stored connection. -/
def act (id : String) (x : Act) : Step Outbound := do
  let c ← Step.ask fun a => a.connections.get id
  match x with
  | .request r options => do
    let (m, c) ← createRequest c r options
    return ⟨.request m, c⟩
  | .response r => do
    let (m, c) ← createResponse c r
    return ⟨.response m, c⟩
  | .complete => do
    let (m, c) ← createComplete c
    return ⟨.complete m, c⟩

/-- A request that is made of a stored connection is what the act gives. -/
theorem act_request {c c' : Connection} {m : Request} {r : Routing} {options : RequestOptions}
    (stored : a.connections.get c.id = .ok c)
    (run : (createRequest c r options).run a = (.ok (m, c'), a')) :
    (act c.id (.request r options)).run a = (.ok ⟨.request m, c'⟩, a') := by
  rw [act, Step.bind_ask stored]
  dsimp only
  rw [Step.bind_ok run]
  rfl

/-- Either the message is made in one turn of the connection, or none has taken place. -/
theorem act_turn {id : String} {x : Act} {result : Except Error Outbound}
    (h : (act id x).run a = (result, a')) :
    (∃ e, result = .error e) ∧ a'.connections = a.connections ∨
      ∃ c o, c.id = id ∧ result = .ok o ∧ Turns a c (.makes o.message) o.connection a' := by
  cases result with
  | error e =>
    refine .inl ⟨⟨e, rfl⟩, ?_⟩
    rcases Step.bind_run_error.mp h with h | ⟨c, a₁, hc, h⟩
    · rw [Step.run_ask] at h
      rw [(Prod.mk.inj h).2]
    · obtain ⟨-, rfl⟩ := Step.ask_run_ok.mp hc
      cases x with
      | request r options =>
        exact ((createRequest_failsQuietly r options).bind_pure _ _ _ _ h).connections
      | response r => exact ((createResponse_failsQuietly r).bind_pure _ _ _ _ h).connections
      | complete => exact (createComplete_failsQuietly.bind_pure _ _ _ _ h).connections
  | ok o =>
    obtain ⟨c, a₁, hc, h⟩ := Step.bind_run_ok.mp h
    obtain ⟨found, rfl⟩ := Step.ask_run_ok.mp hc
    obtain ⟨mem, hid⟩ := Store.find?_eq_some.mp (Store.get_eq_ok.mp found)
    have before : a.connections.find? c.id = some c := Store.find?_eq_some.mpr ⟨mem, rfl⟩
    refine .inr ⟨c, o, hid, rfl, ?_⟩
    cases x with
    | request r options =>
      obtain ⟨⟨m, c'⟩, a₂, hm, h⟩ := Step.bind_run_ok.mp h
      obtain ⟨rfl, rfl⟩ := Step.pure_run_ok.mp h
      exact createRequest_turn before hm
    | response r =>
      obtain ⟨⟨m, c'⟩, a₂, hm, h⟩ := Step.bind_run_ok.mp h
      obtain ⟨rfl, rfl⟩ := Step.pure_run_ok.mp h
      exact createResponse_turn before hm
    | complete =>
      obtain ⟨⟨m, c'⟩, a₂, hm, h⟩ := Step.bind_run_ok.mp h
      obtain ⟨rfl, rfl⟩ := Step.pure_run_ok.mp h
      exact createComplete_turn before hm

end Acts

end Agent

end Pairwise
