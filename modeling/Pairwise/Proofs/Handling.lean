import Pairwise.Proofs.Attribution
import Pairwise.Proofs.Packing
import Pairwise.Proofs.Turns
/-!
# What comes of a received message

An agent that receives a message of the exchange takes at most two turns on one connection, the second
with the answer to the message; or it refuses the message.

Results:
* `Agent.Handles`: all that can come of a message of the exchange.
* `receive_handles`: nothing else comes of one that is received.
-/
namespace Pairwise

/-- The message is one of the exchange. -/
def Message.OfExchange : Message → Prop
  | .request _ | .response _ | .complete _ | .exchangeProblem _ => True
  | _ => False

variable [suite : Suite]

namespace Agent

variable [chance : Chance] {a a₁ a' : Agent} {c c' : Connection}

/-- What an agent gives back when it cannot process a message: an error, or for a message of the
exchange that fails a report of the problem. -/
inductive Refuses (m : Message) : Except Error (Option Outbound) → Prop
  | error (e : Error) : Refuses m (.error e)
  | report {report : ProblemReport} (c : Connection) (kind : report.kind = .exchangeProblem)
      (failed : (KnownProblem.ofFailed? m.kind).isSome = true) :
      Refuses m (.ok (some ⟨.exchangeProblem report, c⟩))

/-- A request for an invitation for many has been taken in on a connection of its own. -/
structure Forks (a : Agent) (q : Request) (c : Connection) (a' : Agent) : Prop where
  many : ∃ x, a.connections.find? x.id = some x ∧ x.multiUse = true ∧
    x.invitationId = Thread.parentOf q.thread
  new : a.connections.find? c.id = none
  after : a'.connections.find? c.id = some c
  others : ∀ id ≠ c.id, a'.connections.find? id = a.connections.find? id
  role : c.role = .responder
  state : c.state = .requestReceived
  invitation : c.invitationId = Thread.parentOf q.thread

/-- All that can come of a message of the exchange that an agent receives. -/
inductive Handles (a : Agent) (m : Message) (a' : Agent) : Except Error (Option Outbound) → Prop
  | fails {result : Except Error (Option Outbound)} (same : a'.connections = a.connections)
      (refuses : Refuses m result) : Handles a m a' result
  | takes {c c' : Connection} (turn : Turns a c (.takes m) c' a') : Handles a m a' (.ok none)
  | answers {c c₁ : Connection} {a₁ : Agent} {o : Outbound} (first : Turns a c (.takes m) c₁ a₁)
      (second : Turns a₁ c₁ (.makes o.message) o.connection a') : Handles a m a' (.ok (some o))
  | stops {q : Request} {c c₁ : Connection} {a₁ : Agent} {result : Except Error (Option Outbound)}
      (request : m = .request q) (first : Turns a c (.takes m) c₁ a₁)
      (same : a'.connections = a₁.connections) (refuses : Refuses m result) : Handles a m a' result
  | forks {q : Request} {c₁ : Connection} {a₁ : Agent} {result : Except Error (Option Outbound)}
      (request : m = .request q) (fork : Forks a q c₁ a₁) (same : a'.connections = a₁.connections)
      (answer : Refuses m result ∨ result = .ok none) : Handles a m a' result
  | forksAnswers {q : Request} {c₁ : Connection} {a₁ : Agent} {o : Outbound}
      (request : m = .request q) (fork : Forks a q c₁ a₁)
      (second : Turns a₁ c₁ (.makes o.message) o.connection a') : Handles a m a' (.ok (some o))

variable {m : Message} {result answer : Except Error (Option Outbound)}

/-! ## What a message leads to -/

/-- What is given back is what the message has led to, or the message is refused. -/
theorem handle_cases (h : (handle m c).run a = (result, a')) :
    (∃ answer, result = .ok answer ∧ (dispatch m c).run a = (.ok answer, a')) ∨
      ∃ e a₁, (dispatch m c).run a = (.error e, a₁) ∧ a'.connections = a₁.connections ∧
        Refuses m result := by
  rw [handle, Step.bind_ok (Step.attempt_run _ _)] at h
  rcases hdispatch : (dispatch m c).run a with ⟨error | answer, a₁⟩
  · rw [hdispatch] at h
    refine .inr ⟨error, a₁, rfl, ?_⟩
    dsimp only at h
    split at h
    · next problem hproblem =>
      have failed : (KnownProblem.ofFailed? m.kind).isSome = true := by
        unfold Error.problem? at hproblem
        split at hproblem
        · rw [hproblem]
          rfl
        · cases hproblem
      cases h
      exact ⟨rfl, .report c rfl failed⟩
    · cases h
      exact ⟨rfl, .error error⟩
  · rw [hdispatch] at h
    cases h
    exact .inl ⟨answer, rfl, rfl⟩

/-! ## From the message to the answer -/

/-- After the response there is nothing that the completion lacks. -/
theorem createComplete_afterResponse {q : Response}
    (response : Turns a c (.takes (.response q)) c' a₁)
    {i : Invitation} (invitation : c.invitation = some i) :
    ∃ m c'' a', (createComplete c').run a₁ = (.ok (m, c''), a') := by
  obtain ⟨before, turn, after, -⟩ := response
  cases turn with
  | takesResponse _ role state thread =>
    let next : Connection := (c.responseReceived q.did).next
    have advance : next.advance .create .exchangeComplete = .ok .completed := by
      rw [Connection.advance]
      change Transition.apply _ _ c.role _ = _
      rw [role]
      rfl
    have found : (drawId.run a₁).2.connections.find? next.id = some next := after
    obtain ⟨a', hupdate, -⟩ := updateConnection_found found next.completed rfl rfl
    have threadId : next.requireThread = .ok (Thread.idOf q.id q.thread) :=
      Connection.requireThread_eq_ok.mpr thread.2
    have invited : next.requireInvitation = .ok i :=
      Connection.requireInvitation_eq_ok.mpr invitation
    have draw : drawId.run a₁ = (.ok (chance.uuid a₁.draws.ids), (drawId.run a₁).2) := rfl
    refine ⟨.new (chance.uuid a₁.draws.ids) (Thread.idOf q.id q.thread) (some i.id),
      next.completed.next, a', ?_⟩
    rw [createComplete, Step.bind_lift advance, Step.bind_lift threadId, Step.bind_lift invited,
      Step.bind_ok draw]
    exact Step.bind_ok hupdate

/-- A routing for the answer to a request does not touch the connections. -/
theorem answerRouting_run (c : Connection) (a : Agent) :
    ∃ r a₁, (answerRouting c).run a = (.ok r, a₁) ∧ a₁.connections = a.connections := by
  unfold answerRouting
  split
  · exact ⟨_, _, rfl, rfl⟩
  · exact ⟨_, _, rfl, rfl⟩

/-- What only looks at the connections is kept when a routing is found for an answer. -/
theorem answerRouting_keeps {R : Agent → Agent → Prop}
    (looks : ∀ a a' : Agent, a'.connections = a.connections → R a a') (c : Connection) :
    Step.Keeps R (answerRouting c) := by
  intro a
  obtain ⟨r, a₁, h, same⟩ := answerRouting_run c a
  rw [h]
  exact looks a a₁ same

omit chance in
/-- Only the connections count for a turn. -/
theorem Turns.of_same {event : Event} (same : a₁.connections = a.connections)
    (h : Turns a₁ c event c' a') : Turns a c event c' a' where
  before := same ▸ h.before
  turn := h.turn
  after := h.after
  others := same ▸ h.others

/-- A request that is taken in is taken in on its connection, or on a new one. -/
theorem processRequest_cases {q : Request} {r : Option Routing}
    (before : a.connections.find? c.id = some c)
    (h : (processRequest c q r).run a = (.ok c', a')) :
    Turns a c (.takes (.request q)) c' a' ∨ Forks a q c' a' := by
  obtain ⟨role, state, parent, ⟨once, -⟩ | ⟨many, -, a₁, answer, hanswer, rfl, hsave⟩⟩ :=
    processRequest_ok h
  · exact .inl (processRequest_turn before once h)
  · obtain ⟨new, records⟩ := Store.save_eq_ok.mp hsave
    have invitation : answer.invitation = c.invitation ∧ answer.role = c.role := by
      rcases answering_ok hanswer with ⟨-, rfl, -⟩ | ⟨-, r', id, -, -, rfl⟩
      · exact ⟨rfl, rfl⟩
      · exact ⟨rfl, rfl⟩
    refine .inr ⟨⟨c, before, many, parent.2⟩, new, Store.find?_save_self hsave, fun id hne => ?_,
      invitation.2.trans role, rfl, ?_⟩
    · exact Store.find?_save_of_ne hsave hne
    · rw [← parent.2, Connection.invitationId, Connection.invitationId]
      exact congrArg _ invitation.1

/-- What a message leads to: it is handled, or whatever is given back for the error refuses it. -/
def Dispatched (a : Agent) (m : Message) (a' : Agent) : Except Error (Option Outbound) → Prop
  | .ok answer => Handles a m a' (.ok answer)
  | .error _ => ∀ a'' result, a''.connections = a'.connections → Refuses m result →
      Handles a m a'' result

variable (before : a.connections.find? c.id = some c)

include before

theorem dispatch_request {q : Request} (h : (dispatch (.request q) c).run a = (answer, a')) :
    Dispatched a (.request q) a' answer := by
  rw [dispatch, Step.bind_view] at h
  dsimp only at h
  obtain ⟨r, a₀, hrouting, same⟩ := answerRouting_run c a
  rw [Step.bind_ok hrouting] at h
  rcases hprocess : (processRequest c q r).run a₀ with ⟨error | c₁, a₁⟩
  · rw [Step.bind_error hprocess] at h
    cases h
    have quiet := (processRequest_failsQuietly q r _ _ _ hprocess).connections
    exact fun _ _ after refuses => .fails (after.trans (quiet.trans same)) refuses
  rw [Step.bind_ok hprocess] at h
  have stored : a₁.connections.find? c₁.id = some c₁ := by
    rcases processRequest_cases (same ▸ before) hprocess with turn | fork
    · exact turn.turn.keeps.1 ▸ turn.after
    · exact fork.after
  have taken : Turns a c (.takes (.request q)) c₁ a₁ ∨ Forks a q c₁ a₁ := by
    rcases processRequest_cases (same ▸ before) hprocess with turn | fork
    · exact .inl (turn.of_same same)
    · exact .inr { fork with
        many := same ▸ fork.many, new := same ▸ fork.new, others := same ▸ fork.others }
  split at h
  · rcases hcreate : (createResponse c₁ r).run a₁ with ⟨error | ⟨m, c₂⟩, a₂⟩
    · rw [Step.bind_error hcreate] at h
      cases h
      have quiet := (createResponse_failsQuietly r _ _ _ hcreate).connections
      intro _ _ after refuses
      rcases taken with first | fork
      · exact .stops rfl first (after.trans quiet) refuses
      · exact .forks rfl fork (after.trans quiet) (.inl refuses)
    · rw [Step.bind_ok hcreate] at h
      cases h
      have second := createResponse_turn stored hcreate
      rcases taken with first | fork
      · exact .answers (o := ⟨.response m, c₂⟩) first second
      · exact .forksAnswers (o := ⟨.response m, c₂⟩) rfl fork second
  · cases h
    rcases taken with first | fork
    · exact .takes first
    · exact .forks rfl fork rfl (.inr rfl)

theorem dispatch_response {q : Response} (h : (dispatch (.response q) c).run a = (answer, a')) :
    Dispatched a (.response q) a' answer := by
  rw [dispatch, Step.bind_view] at h
  dsimp only at h
  rcases hprocess : (processResponse c q).run a with ⟨error | c₁, a₁⟩
  · rw [Step.bind_error hprocess] at h
    cases h
    have quiet := (processResponse_failsQuietly q _ _ _ hprocess).connections
    exact fun _ _ after refuses => .fails (after.trans quiet) refuses
  obtain ⟨⟨i, invitation⟩, first⟩ := processResponse_turn before hprocess
  rw [Step.bind_ok hprocess] at h
  split at h
  · obtain ⟨m, c'', a₂, hcreate⟩ := createComplete_afterResponse first invitation
    rw [Step.bind_ok hcreate] at h
    cases h
    have stored : a₁.connections.find? c₁.id = some c₁ := first.turn.keeps.1 ▸ first.after
    exact .answers (o := ⟨.complete m, c''⟩) first (createComplete_turn stored hcreate)
  · cases h
    exact .takes first

theorem dispatch_complete {q : Complete} (h : (dispatch (.complete q) c).run a = (answer, a')) :
    Dispatched a (.complete q) a' answer := by
  rw [dispatch, Step.bind_view] at h
  dsimp only at h
  rcases hprocess : (processComplete c q).run a with ⟨error | c₁, a₁⟩
  · rw [Step.bind_error hprocess] at h
    cases h
    have quiet := (processComplete_failsQuietly q _ _ _ hprocess).connections
    exact fun _ _ after refuses => .fails (after.trans quiet) refuses
  · rw [Step.bind_ok hprocess] at h
    cases h
    exact .takes (processComplete_turn before hprocess)

theorem dispatch_problem {q : ProblemReport}
    (h : (dispatch (.exchangeProblem q) c).run a = (answer, a')) :
    Dispatched a (.exchangeProblem q) a' answer := by
  rw [dispatch, Step.bind_view] at h
  dsimp only at h
  rcases hprocess : (processExchangeProblem c q).run a with ⟨error | c₁, a₁⟩
  · rw [Step.bind_error hprocess] at h
    cases h
    have quiet := (processExchangeProblem_failsQuietly q _ _ _ hprocess).connections
    exact fun _ _ after refuses => .fails (after.trans quiet) refuses
  · rw [Step.bind_ok hprocess] at h
    cases h
    exact .takes (processExchangeProblem_turn before hprocess)

theorem dispatch_dispatched (exchange : m.OfExchange)
    (h : (dispatch m c).run a = (answer, a')) : Dispatched a m a' answer := by
  cases m with
  | request q => exact dispatch_request before h
  | response q => exact dispatch_response before h
  | complete q => exact dispatch_complete before h
  | exchangeProblem q => exact dispatch_problem before h
  | rotate q => exact exchange.elim
  | rotateAck q => exact exchange.elim
  | hangup q => exact exchange.elim
  | rotateProblem q => exact exchange.elim
  | forward q => exact exchange.elim

omit before in
/-- Whoever receives a genuine envelope of the exchange takes the message in, answers or refuses
it. -/
theorem receive_handles {e : Envelope} (genuine : e.Genuine m) (exchange : m.OfExchange)
    (h : (receive e).run a = (result, a')) : Handles a m a' result := by
  rcases receive_cases h with ⟨⟨error, rfl⟩, rfl⟩ | ⟨opened, m', c, hopen, hm, found, -, h⟩
  · exact .fails rfl (.error error)
  have read := genuine a.wallet opened (Outcome.mapError_eq_ok.mp hopen)
  obtain rfl : m' = m := Except.ok.inj (hm.symm.trans read)
  have before := connectionOfKey_stored (connectionFor_eq_ok.mp found)
  rcases handle_cases h with ⟨answer, rfl, hdispatch⟩ | ⟨e, a₁, hdispatch, same, refuses⟩
  · exact dispatch_dispatched before exchange hdispatch
  · exact dispatch_dispatched before exchange hdispatch a' result same refuses

end Agent

end Pairwise
