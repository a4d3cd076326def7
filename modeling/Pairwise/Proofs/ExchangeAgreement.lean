import Pairwise.Proofs.Endings
/-!
# Both sides agree on the exchange

Every message of an exchange is borne out by the connection that sent it, for as long as it may be under
way: the requester's connection has the DID of its request, and is completed in the thread of its
completion; the responder's has the DID of its response. So what one side took from a message is what
the other side still has.

Results:
* `Connection.Asks`, `Connection.Answers`: how the two connections stand to the messages of both sides.
* `World.exchange_agrees`: a responder that is completed has a completed requester in its thread, and
  two sides that are completed have each other's DIDs.
-/
namespace Pairwise

section Exchange

variable {c c' : Connection} {i : Invitation} {sent told : List Outbound}

/-- The invitation of a connection is the one with its id. -/
theorem Connection.invitation_id {j : Invitation} (own : c.invitationId = some i.id)
    (invitation : c.invitation = some j) : j.id = i.id := by
  rw [Connection.invitationId, invitation] at own
  exact Option.some.inj own

/-- A completion is made in the name of the connection's invitation. -/
theorem Connection.Turn.complete_parent {m : Message} (h : c.Turn (.makes m) c') {q : Complete}
    (hq : m = .complete q) : c.invitationId = Thread.parentOf q.thread := by
  cases h with
  | makesRequest => cases hq
  | makesResponse => cases hq
  | makesComplete id role state threadId invitation =>
    cases hq
    exact Connection.invitationId_eq invitation

/-- A request is made of a connection that nothing has come of yet. -/
theorem Connection.Turn.request_state {m : Message} (h : c.Turn (.makes m) c') {q : Request}
    (hq : m = .request q) : c.state = .start ∨ c.state = .invitationReceived := by
  cases h with
  | makesRequest r did id label options attachment role state => exact state
  | makesResponse => cases hq
  | makesComplete => cases hq

/-! ## The requester's connection -/

/-- A requester's connection bears out what was sent of it: one request at most, whose DID it has, and
completions only once it is completed. What it takes the responder's DID to be was told in a
response. -/
structure Connection.Asks (c : Connection) (i : Invitation) (sent told : List Outbound) : Prop where
  unasked : c.state = .start ∨ c.state = .invitationReceived →
    ∀ o ∈ sent, ∀ q, o.message ≠ .request q
  asked : ∀ o ∈ sent, ∀ q, o.message = .request q →
    Thread.parentOf q.thread = some i.id ∧ c.did = some q.did
  completes : ∀ o ∈ sent, ∀ q, o.message = .complete q → Thread.parentOf q.thread = some i.id →
    c.state = .completed ∧ c.threadId = some (Thread.idOf q.id q.thread)
  answered : c.state.isAnswered = true →
    ∃ o ∈ told, ∃ r, o.message = .response r ∧ c.theirDid = some r.did

namespace Connection.Asks

theorem told_more (h : c.Asks i sent told) (more : List Outbound) : c.Asks i sent (told ++ more) where
  unasked := h.unasked
  asked := h.asked
  completes := h.completes
  answered state := by
    obtain ⟨o, ho, told⟩ := h.answered state
    exact ⟨o, List.mem_append_left _ ho, told⟩

/-- What is no request and no completion of this exchange need not be borne out. -/
theorem sends_other (h : c.Asks i sent told) {o : Outbound} (noRequest : ∀ q, o.message ≠ .request q)
    (noComplete : ∀ q, o.message = .complete q → Thread.parentOf q.thread ≠ some i.id) :
    c.Asks i (sent ++ [o]) told where
  unasked state := List.forall_mem_append.mpr ⟨h.unasked state, List.forall_mem_singleton.mpr noRequest⟩
  asked := List.forall_mem_append.mpr
    ⟨h.asked, List.forall_mem_singleton.mpr fun q hq => absurd hq (noRequest q)⟩
  completes := List.forall_mem_append.mpr
    ⟨h.completes, List.forall_mem_singleton.mpr fun q hq own => absurd own (noComplete q hq)⟩
  answered := h.answered

/-- An open connection has sent no completion. -/
theorem not_completed (h : c.Asks i sent told) (open_ : c.state.isTerminal = false) {o : Outbound}
    (ho : o ∈ sent) {q : Complete} (hq : o.message = .complete q) :
    Thread.parentOf q.thread ≠ some i.id := by
  intro own
  rw [(h.completes o ho q hq own).1] at open_
  cases open_

variable (h : c.Asks i sent told) (role : c.role = .requester)

include h role

theorem takes {m : Message} (turn : c.Turn (.takes m) c') (there : ∃ o ∈ told, o.message = m) :
    c'.Asks i sent told := by
  have open_ := turn.source_open
  cases turn with
  | takesRequest m responder =>
    rw [role] at responder
    cases responder
  | takesResponse m =>
    obtain ⟨o, ho, message⟩ := there
    exact {
      unasked := nofun
      asked := h.asked
      completes := fun o ho q hq own => absurd own (h.not_completed open_ ho hq)
      answered := fun _ => ⟨o, ho, m, message, rfl⟩ }
  | takesComplete m responder =>
    rw [role] at responder
    cases responder
  | takesProblem m =>
    exact {
      unasked := nofun
      asked := h.asked
      completes := fun o ho q hq own => absurd own (h.not_completed open_ ho hq)
      answered := nofun }

theorem makes (own : c.invitationId = some i.id) {o : Outbound}
    (turn : c.Turn (.makes o.message) c') : c'.Asks i (sent ++ [o]) told := by
  obtain ⟨message, connection⟩ := o
  have open_ := turn.source_open
  cases turn with
  | makesRequest r did id label options attachment requester state invitation =>
    have parent := congrArg some (invitation_id own invitation)
    exact {
      unasked := nofun
      asked := List.forall_mem_append.mpr ⟨fun o ho q hq => absurd hq (h.unasked state o ho q),
        List.forall_mem_singleton.mpr (by rintro q ⟨⟩; exact ⟨parent, rfl⟩)⟩
      completes := List.forall_mem_append.mpr
        ⟨fun o ho q hq own => absurd own (h.not_completed open_ ho hq),
          List.forall_mem_singleton.mpr nofun⟩
      answered := nofun }
  | makesResponse r did id attachment responder =>
    rw [role] at responder
    cases responder
  | @makesComplete thread j id requester state threadId invitation =>
    have borne (q : Complete) (hq : Message.complete (.new id thread (some j.id)) = .complete q) :
        c.threadId = some (Thread.idOf q.id q.thread) := by
      cases hq
      exact threadId
    have noRequest (q : Request) :
        Message.complete (.new id thread (some j.id)) ≠ .request q := nofun
    exact {
      unasked := nofun
      asked := List.forall_mem_append.mpr
        ⟨h.asked, List.forall_mem_singleton.mpr fun q hq => absurd hq (noRequest q)⟩
      completes := List.forall_mem_append.mpr
        ⟨fun o ho q hq own => absurd own (h.not_completed open_ ho hq),
          List.forall_mem_singleton.mpr fun q hq _ => ⟨rfl, borne q hq⟩⟩
      answered := fun _ => h.answered (by rw [state]; rfl) }

end Connection.Asks

/-! ## The responder's connection -/

/-- The responder has taken in a request, and does not refuse it. -/
def ExchangeState.isAsked : ExchangeState → Bool
  | .requestReceived | .responseSent | .completed => true
  | _ => false

/-- A responder's connection bears out what was sent of it: one response at most, whose DID it has. What
it takes the requester's DID to be was told in a request, and it is completed by a completion. -/
structure Connection.Answers (c : Connection) (i : Invitation) (sent told : List Outbound) : Prop where
  unanswered : c.state = .start ∨ c.state = .invitationSent ∨ c.state = .requestReceived →
    ∀ o ∈ sent, ∀ r, o.message ≠ .response r
  answers : ∀ o ∈ sent, ∀ r, o.message = .response r → c.did = some r.did
  asked : c.state.isAsked = true → ∃ o ∈ told, ∃ q, o.message = .request q ∧ c.theirDid = some q.did
  completed : c.state = .completed → ∃ o ∈ told, ∃ q, o.message = .complete q ∧
    Thread.parentOf q.thread = some i.id ∧ c.threadId = some (Thread.idOf q.id q.thread)

namespace Connection.Answers

theorem told_more (h : c.Answers i sent told) (more : List Outbound) :
    c.Answers i sent (told ++ more) where
  unanswered := h.unanswered
  answers := h.answers
  asked state := by
    obtain ⟨o, ho, told⟩ := h.asked state
    exact ⟨o, List.mem_append_left _ ho, told⟩
  completed state := by
    obtain ⟨o, ho, told⟩ := h.completed state
    exact ⟨o, List.mem_append_left _ ho, told⟩

theorem sends_other (h : c.Answers i sent told) {o : Outbound}
    (noResponse : ∀ r, o.message ≠ .response r) : c.Answers i (sent ++ [o]) told where
  unanswered state := List.forall_mem_append.mpr
    ⟨h.unanswered state, List.forall_mem_singleton.mpr noResponse⟩
  answers := List.forall_mem_append.mpr
    ⟨h.answers, List.forall_mem_singleton.mpr fun r hr => absurd hr (noResponse r)⟩
  asked := h.asked
  completed := h.completed

variable (h : c.Answers i sent told) (role : c.role = .responder)

include h role

theorem takes (own : c.invitationId = some i.id) {m : Message} (turn : c.Turn (.takes m) c')
    (there : ∃ o ∈ told, o.message = m) : c'.Answers i sent told := by
  obtain ⟨o, ho, message⟩ := there
  cases turn with
  | takesRequest m responder state =>
    have none := h.unanswered (state.imp_right .inl)
    exact {
      unanswered := fun _ => none
      answers := fun o ho r hr => absurd hr (none o ho r)
      asked := fun _ => ⟨o, ho, m, message, rfl⟩
      completed := nofun }
  | takesResponse m requester =>
    rw [role] at requester
    cases requester
  | takesComplete m responder state thread parent =>
    exact {
      unanswered := nofun
      answers := h.answers
      asked := fun _ => h.asked (by rw [state]; rfl)
      completed := fun _ => ⟨o, ho, m, message, parent.2.symm.trans own, thread.2⟩ }
  | takesProblem m =>
    exact { unanswered := nofun, answers := h.answers, asked := nofun, completed := nofun }

theorem makes {o : Outbound} (turn : c.Turn (.makes o.message) c') :
    c'.Answers i (sent ++ [o]) told := by
  obtain ⟨message, connection⟩ := o
  cases turn with
  | makesRequest r did id label options attachment requester =>
    rw [role] at requester
    cases requester
  | makesResponse r did id attachment responder state =>
    exact {
      unanswered := nofun
      answers := List.forall_mem_append.mpr
        ⟨fun o ho r hr => absurd hr (h.unanswered (.inr (.inr state)) o ho r),
          List.forall_mem_singleton.mpr (by rintro r ⟨⟩; rfl)⟩
      asked := fun _ => h.asked (by rw [state]; rfl)
      completed := nofun }
  | makesComplete id requester =>
    rw [role] at requester
    cases requester

end Connection.Answers

variable [suite : Suite]

namespace Agent

variable {a a' : Agent} {id : String}

/-! ## The requester -/

/-- The agent asks on one connection, the only one that grew out of the invitation. -/
structure Requests (a : Agent) (id : String) (i : Invitation) (sent told : List Outbound) : Prop where
  own : ∃ c, a.connections.find? id = some c ∧ c.role = .requester ∧ c.invitationId = some i.id ∧
    c.Asks i sent told
  only : ∀ id' c, a.connections.find? id' = some c → c.invitationId = some i.id → id' = id

namespace Requests

theorem same (h : Requests a id i sent told) (same : a'.connections = a.connections) :
    Requests a' id i sent told := ⟨same ▸ h.own, same ▸ h.only⟩

theorem told_more (h : Requests a id i sent told) (more : List Outbound) :
    Requests a id i sent (told ++ more) := by
  obtain ⟨c, found, role, own, asks⟩ := h.own
  exact ⟨⟨c, found, role, own, asks.told_more more⟩, h.only⟩

theorem takes (h : Requests a id i sent told) {m : Message} (turn : Turns a c (.takes m) c' a')
    (there : ∃ o ∈ told, o.message = m) : Requests a' id i sent told := by
  obtain ⟨x, found, role, own, asks⟩ := h.own
  refine ⟨?_, turn.only h.only⟩
  rcases turn.kept found with ⟨rfl, rfl⟩ | ⟨-, found'⟩
  · exact ⟨c', turn.after, turn.turn.keeps.2.1.trans role, turn.turn.invitationId.trans own,
      asks.takes role turn.turn there⟩
  · exact ⟨x, found', role, own, asks⟩

/-- A report of a problem is no message that has to be borne out. -/
theorem refuses (h : Requests a id i sent told) {m : Message}
    {result : Except Error (Option Outbound)} (refuses : Refuses m result) :
    Requests a id i (sent ++ Side.answerOf result) told := by
  cases refuses with
  | error e => exact (List.append_nil sent).symm ▸ h
  | @report report c kind failed =>
    obtain ⟨x, found, role, own, asks⟩ := h.own
    have noRequest (q : Request) : Message.exchangeProblem report ≠ .request q := nofun
    have noComplete (q : Complete) : Message.exchangeProblem report ≠ .complete q := nofun
    have reported : x.Asks i (sent ++ [⟨.exchangeProblem report, c⟩]) told :=
      asks.sends_other noRequest fun q hq => absurd hq (noComplete q)
    exact ⟨⟨x, found, role, own, reported⟩, h.only⟩

theorem makes (h : Requests a id i sent told) {o : Outbound}
    (turn : Turns a c (.makes o.message) o.connection a')
    (noRequest : c.id ≠ id → ∀ q, o.message ≠ .request q) :
    Requests a' id i (sent ++ [o]) told := by
  obtain ⟨x, found, role, own, asks⟩ := h.own
  refine ⟨?_, turn.only h.only⟩
  rcases turn.kept found with ⟨same, rfl⟩ | ⟨other, found'⟩
  · exact ⟨o.connection, same ▸ turn.after, turn.turn.keeps.2.1.trans role,
      turn.turn.invitationId.trans own, asks.makes role own turn.turn⟩
  refine ⟨x, found', role, own, asks.sends_other (noRequest (Ne.symm other)) fun q hq parent => ?_⟩
  -- the completion of another connection grew out of another invitation
  exact other (h.only c.id c turn.before ((turn.turn.complete_parent hq).trans parent)).symm

/-- A requester that gets something from the responder takes it in, answers it or refuses it. -/
theorem receives (h : Requests a id i sent told) {m : Message} (responder : m.OfResponder)
    (there : ∃ o ∈ told, o.message = m) {result : Except Error (Option Outbound)}
    (handles : Handles a m a' result) :
    Requests a' id i (sent ++ Side.answerOf result) told := by
  cases handles with
  | fails same refuses => exact (h.same same).refuses refuses
  | takes turn => exact (List.append_nil sent).symm ▸ h.takes turn there
  | @answers c c₁ a₁ o first second =>
    refine (h.takes first there).makes second fun _ q hq => ?_
    -- no request is made where a response or a problem was taken in
    have state := second.turn.request_state hq
    cases first.turn with
    | takesRequest q => exact responder.elim
    | takesResponse q => rcases state with state | state <;> cases state
    | takesComplete q => exact responder.elim
    | takesProblem q => rcases state with state | state <;> cases state
  | stops request => exact (request ▸ responder : Message.OfResponder (.request _)).elim
  | forks request => exact (request ▸ responder : Message.OfResponder (.request _)).elim
  | forksAnswers request => exact (request ▸ responder : Message.OfResponder (.request _)).elim

end Requests

/-! ## The responder -/

/-- The agent answers on one connection for one requester, the only one that grew out of the
invitation. -/
structure Responds (a : Agent) (id : String) (i : Invitation) (sent told : List Outbound) : Prop where
  own : ∃ c, a.connections.find? id = some c ∧ c.role = .responder ∧ c.invitationId = some i.id ∧
    c.multiUse = false ∧ c.Answers i sent told
  only : ∀ id' c, a.connections.find? id' = some c → c.invitationId = some i.id → id' = id

namespace Responds

theorem same (h : Responds a id i sent told) (same : a'.connections = a.connections) :
    Responds a' id i sent told := ⟨same ▸ h.own, same ▸ h.only⟩

theorem told_more (h : Responds a id i sent told) (more : List Outbound) :
    Responds a id i sent (told ++ more) := by
  obtain ⟨c, found, role, own, once, answers⟩ := h.own
  exact ⟨⟨c, found, role, own, once, answers.told_more more⟩, h.only⟩

theorem takes (h : Responds a id i sent told) {m : Message} (turn : Turns a c (.takes m) c' a')
    (there : ∃ o ∈ told, o.message = m) : Responds a' id i sent told := by
  obtain ⟨x, found, role, own, once, answers⟩ := h.own
  refine ⟨?_, turn.only h.only⟩
  rcases turn.kept found with ⟨rfl, rfl⟩ | ⟨-, found'⟩
  · exact ⟨c', turn.after, turn.turn.keeps.2.1.trans role, turn.turn.invitationId.trans own,
      turn.turn.keeps.2.2.2.trans once, answers.takes role own turn.turn there⟩
  · exact ⟨x, found', role, own, once, answers⟩

theorem refuses (h : Responds a id i sent told) {m : Message}
    {result : Except Error (Option Outbound)} (refuses : Refuses m result) :
    Responds a id i (sent ++ Side.answerOf result) told := by
  cases refuses with
  | error e => exact (List.append_nil sent).symm ▸ h
  | @report report c kind failed =>
    obtain ⟨x, found, role, own, once, answers⟩ := h.own
    have noResponse (r : Response) : Message.exchangeProblem report ≠ .response r := nofun
    have reported : x.Answers i (sent ++ [⟨.exchangeProblem report, c⟩]) told :=
      answers.sends_other noResponse
    exact ⟨⟨x, found, role, own, once, reported⟩, h.only⟩

/-- What is made on the connection of the exchange is borne out by it. -/
theorem makes (h : Responds a id i sent told) {o : Outbound} (own : c.id = id)
    (turn : Turns a c (.makes o.message) o.connection a') : Responds a' id i (sent ++ [o]) told := by
  obtain ⟨x, found, role, grew, once, answers⟩ := h.own
  obtain rfl : x = c := Option.some.inj (found.symm.trans (own ▸ turn.before))
  exact ⟨⟨o.connection, own ▸ turn.after, turn.turn.keeps.2.1.trans role,
    turn.turn.invitationId.trans grew, turn.turn.keeps.2.2.2.trans once, answers.makes role turn.turn⟩,
    turn.only h.only⟩

/-- There is no connection to fork from. -/
theorem not_forks (h : Responds a id i sent told) {q : Request}
    (parent : Thread.parentOf q.thread = some i.id) : ¬ Forks a q c a' := by
  rintro ⟨⟨x, found, many, grew⟩, -⟩
  obtain ⟨y, found', -, -, once, -⟩ := h.own
  have same := h.only x.id x found (grew.trans parent)
  rw [same] at found
  obtain rfl : x = y := Option.some.inj (found.symm.trans found')
  rw [once] at many
  cases many

/-- A responder that gets something from the requester takes it in, answers it or refuses it. -/
theorem receives (h : Responds a id i sent told) {m : Message} (requester : m.OfRequester)
    (parent : ∀ q, m = .request q → Thread.parentOf q.thread = some i.id)
    (there : ∃ o ∈ told, o.message = m) {result : Except Error (Option Outbound)}
    (handles : Handles a m a' result) :
    Responds a' id i (sent ++ Side.answerOf result) told := by
  cases handles with
  | fails same refuses => exact (h.same same).refuses refuses
  | takes turn => exact (List.append_nil sent).symm ▸ h.takes turn there
  | @answers c c₁ a₁ o first second =>
    refine (h.takes first there).makes ?_ second
    rw [first.turn.keeps.1]
    cases hfirst : first.turn with
    | takesRequest q role state reference =>
      exact h.only c.id c first.before (reference.2.trans (parent q rfl))
    | takesResponse q => exact requester.elim
    | takesComplete q =>
      have open_ := second.turn.source_open
      cases open_
    | takesProblem q =>
      have open_ := second.turn.source_open
      cases open_
  | stops request first same refuses => exact ((h.takes first there).same same).refuses refuses
  | forks request fork => exact absurd fork (h.not_forks (parent _ request))
  | forksAnswers request fork => exact absurd fork (h.not_forks (parent _ request))

end Responds

end Agent

/-! ## What the sides do -/

namespace Side.Does

variable [chance : Chance] {mediators : Wallet} {id : String} {s s' : Side} {parcels : List Parcel}

theorem requests (h : s.Does mediators id parcels s') (inv : s.agent.Requests id i s.outbox told)
    (genuine : ∀ p ∈ s.inbox, p.envelope.Genuine p.message ∧ p.message.OfResponder ∧
      ∃ o ∈ told, o.message = p.message) : s'.agent.Requests id i s'.outbox told := by
  cases h with
  | @makes x result a run =>
    rcases Agent.act_turn run with ⟨⟨e, rfl⟩, same⟩ | ⟨c, o, hid, rfl, turn⟩
    · exact (List.append_nil s.outbox).symm ▸ inv.same same
    · exact inv.makes turn fun other => absurd hid other
  | sends mem run => exact inv.same ((Agent.post_quiet _ _).of_run run).connections
  | fails mem run => exact inv.same ((Agent.post_quiet _ _).of_run run).connections
  | receives mem run =>
    obtain ⟨opens, responder, there⟩ := genuine _ mem
    exact inv.receives responder there (Agent.receive_handles opens responder.ofExchange run)

theorem responds (h : s.Does mediators id parcels s') (inv : s.agent.Responds id i s.outbox told)
    (genuine : ∀ p ∈ s.inbox, p.envelope.Genuine p.message ∧ p.message.OfRequester ∧
      ∃ o ∈ told, o.message = p.message)
    (parent : ∀ o ∈ told, ∀ q, o.message = .request q → Thread.parentOf q.thread = some i.id) :
    s'.agent.Responds id i s'.outbox told := by
  cases h with
  | @makes x result a run =>
    rcases Agent.act_turn run with ⟨⟨e, rfl⟩, same⟩ | ⟨c, o, hid, rfl, turn⟩
    · exact (List.append_nil s.outbox).symm ▸ inv.same same
    · exact inv.makes hid turn
  | sends mem run => exact inv.same ((Agent.post_quiet _ _).of_run run).connections
  | fails mem run => exact inv.same ((Agent.post_quiet _ _).of_run run).connections
  | @receives p result a mem run =>
    obtain ⟨opens, requester, o, ho, message⟩ := genuine p mem
    exact inv.receives requester (fun q hq => parent o ho q (message.trans hq)) ⟨o, ho, message⟩
      (Agent.receive_handles opens requester.ofExchange run)

end Side.Does

/-! ## The whole exchange -/

namespace World

variable [chance : Chance] {mediators : Wallet}

/-- The sides begin an exchange, and no other connection of the responder grew out of the
invitation. -/
structure Begins (w : World) (i : Invitation) (c d : Connection) : Prop extends w.Starts i c d where
  alone : ∀ x ∈ w.responder.agent.connections.records, x.invitationId = some i.id → x.id = d.id

/-- Each side's connection bears out what it has sent, and goes by what it was told. -/
structure Agreement (c d : String) (i : Invitation) (w : World) : Prop where
  requests : w.requester.agent.Requests c i w.requester.outbox w.responder.outbox
  responds : w.responder.agent.Responds d i w.responder.outbox w.requester.outbox

omit chance in
theorem Begins.agreement {w : World} {c d : Connection} (h : w.Begins i c d) :
    w.Agreement c.id d.id i := by
  have stored {s : Side} {x : Connection}
      (only : ∀ y ∈ s.agent.connections.records, y.invitationId = some i.id → y.id = x.id) (id : String)
      (y : Connection) (found : s.agent.connections.find? id = some y)
      (grew : y.invitationId = some i.id) : id = x.id := by
    obtain ⟨mem, hid⟩ := Store.find?_eq_some.mp found
    exact hid.symm.trans (only y mem grew)
  constructor
  · refine ⟨⟨c, h.requester, h.asking.role, Connection.invitationId_eq h.asking.invitation, ?_⟩,
      stored h.only⟩
    rw [h.requesterNew.1]
    refine ⟨fun _ => List.forall_mem_nil _, List.forall_mem_nil _, List.forall_mem_nil _, ?_⟩
    rw [h.asking.state]
    exact nofun
  · refine ⟨⟨d, h.responder, h.waiting.role, Connection.invitationId_eq h.waiting.invitation, h.once,
      ?_⟩, stored h.alone⟩
    rw [h.responderNew.1]
    refine ⟨fun _ => List.forall_mem_nil _, List.forall_mem_nil _, ?_, ?_⟩
    · rw [h.waiting.state]
      exact nofun
    · rw [h.waiting.state]
      exact nofun

omit chance in
/-- All requests that were sent answer the invitation. -/
theorem Agreement.parent {w : World} {c d : String} (h : w.Agreement c d i) :
    ∀ o ∈ w.requester.outbox, ∀ q, o.message = .request q → Thread.parentOf q.thread = some i.id := by
  obtain ⟨c, -, -, -, asks⟩ := h.requests.own
  exact fun o ho q hq => (asks.asked o ho q hq).1

theorem Agreement.next {w w' : World} {c d : String} (h : w.Agreement c d i) (mail : w.Invariant c d i)
    (next : w.Next mediators c d w') : w'.Agreement c d i := by
  cases next with
  | @requester parcels s does =>
    obtain ⟨⟨more, outbox⟩, -, -⟩ := does.grows
    refine ⟨does.requests h.requests fun p hp => ?_, ?_⟩
    · obtain ⟨genuine, o, ho, message⟩ := mail.toRequester p hp
      exact ⟨genuine, message ▸ mail.answering.sends o ho, o, ho, message⟩
    · change w.responder.agent.Responds d i w.responder.outbox s.outbox
      rw [outbox]
      exact h.responds.told_more more
  | @responder parcels s does =>
    obtain ⟨⟨more, outbox⟩, -, -⟩ := does.grows
    refine ⟨?_, does.responds h.responds (fun p hp => ?_) h.parent⟩
    · change w.requester.agent.Requests c i w.requester.outbox s.outbox
      rw [outbox]
      exact h.requests.told_more more
    · obtain ⟨genuine, o, ho, message⟩ := mail.toResponder p hp
      exact ⟨genuine, message ▸ mail.asking.sends o ho, o, ho, message⟩

theorem Reachable.agreement {w w' : World} {c d : Connection}
    (h : Reachable mediators c.id d.id w w') (begins : w.Begins i c d) :
    w'.Agreement c.id d.id i := by
  induction h with
  | refl => exact begins.agreement
  | tail run next ih => exact ih.next (Reachable.invariant run begins.toStarts) next

/-- The connections of the two sides agree: each has the other's DID, both are in one thread, and both
grew out of the invitation. -/
structure Concur (i : Invitation) (x y : Connection) : Prop where
  requester : ∃ did, x.did = some did ∧ y.theirDid = some did
  responder : ∃ did, y.did = some did ∧ x.theirDid = some did
  thread : ∃ thread, x.threadId = some thread ∧ y.threadId = some thread
  invitation : x.invitationId = some i.id ∧ y.invitationId = some i.id

/-- Whenever the responder's connection is completed in a thread, the requester's is completed in the
same thread; and whenever both are completed, they agree. -/
theorem exchange_agrees {w w' : World} {c d : Connection} (begins : w.Begins i c d)
    (h : Reachable mediators c.id d.id w w') :
    (∀ y, w'.responder.agent.connections.find? d.id = some y → y.state = .completed →
      ∃ x thread, w'.requester.agent.connections.find? c.id = some x ∧ x.state = .completed ∧
        y.threadId = some thread ∧ x.threadId = some thread) ∧
    ∀ x y, w'.requester.agent.connections.find? c.id = some x →
      w'.responder.agent.connections.find? d.id = some y →
      x.state = .completed → y.state = .completed → Concur i x y := by
  obtain ⟨⟨⟨x, found, -, grew, asks⟩, -⟩, ⟨⟨y, found', -, grew', -, answers⟩, -⟩⟩ :=
    h.agreement begins
  have completed (state : y.state = .completed) : x.state = .completed ∧
      ∃ thread, y.threadId = some thread ∧ x.threadId = some thread := by
    obtain ⟨o, ho, q, hq, parent, thread⟩ := answers.completed state
    obtain ⟨state', thread'⟩ := asks.completes o ho q hq parent
    exact ⟨state', _, thread, thread'⟩
  refine ⟨fun y' stored state => ?_, fun x' y' stored stored' state state' => ?_⟩
  · obtain rfl : y = y' := Option.some.inj (found'.symm.trans stored)
    obtain ⟨state', thread, there, here⟩ := completed state
    exact ⟨x, thread, found, state', there, here⟩
  · obtain rfl : x = x' := Option.some.inj (found.symm.trans stored)
    obtain rfl : y = y' := Option.some.inj (found'.symm.trans stored')
    obtain ⟨-, thread, there, here⟩ := completed state'
    -- the request still has the DID of the requester, and the response that of the responder
    obtain ⟨o, ho, q, hq, theirDid⟩ := answers.asked (by rw [state']; rfl)
    obtain ⟨o', ho', r, hr, theirDid'⟩ := asks.answered (by rw [state]; rfl)
    exact {
      requester := ⟨q.did, (asks.asked o ho q hq).2, theirDid⟩
      responder := ⟨r.did, answers.answers o' ho' r hr, theirDid'⟩
      thread := ⟨thread, here, there⟩
      invitation := ⟨grew, grew'⟩ }

/-! ## An exchange that is completed -/

/-- The response and the completion are delivered. -/
theorem response_once (lawful : suite.Lawful) (drawn : chance.Lawful) {w : World}
    {front back : List Connection} {p q : PeerDid} {r s : Routing} {thread : String} {m : Response}
    (h : Agent.Midway w.requester.agent w.responder.agent front back c c' p q r s i thread m)
    (mem : ⟨.response m, c'⟩ ∈ w.responder.outbox)
    (mediated : ∀ k ∈ r.routingKeys ++ s.routingKeys, mediators.holds k = true) :
    ∃ w', Reachable mediators c.id c'.id w w' ∧ w'.requester.Stands c.id .completed ∧
      w'.responder.Stands c'.id .completed := by
  obtain ⟨w₂, x, e, complete, path, taken⟩ := response_taken lawful drawn h mem
    fun k hk => mediated k (List.mem_append_left _ hk)
  have completed := taken.completed
  -- the completion comes to the responder
  have readable : (Message.complete complete).Readable := taken.message ▸ Complete.new_readable _ _ _
  obtain ⟨e', a₂, hpost', requester₂, -, holds'⟩ := taken.requester.post_run lawful drawn
    h.responder.sound (Agent.sendsTo_did h.responder.made (.inr taken.knows) completed.theirDid) readable
    fun k hk => mediated k (List.mem_append_right _ hk)
  let parcel : Parcel := ⟨.complete complete, e'⟩
  let w₃ : World := ⟨{ w₂.requester with agent := a₂ }, w₂.responder.gets [parcel]⟩
  have sent' : w₂.Next mediators c.id c'.id w₃ :=
    .requester (.sends taken.toSend hpost' (holds'.genuine readable))
  have arrived : parcel ∈ w₃.responder.inbox := List.mem_append_right _ List.mem_cons_self
  obtain ⟨y, b₂, hcomplete, yid, completed', responder₂⟩ := taken.responder.receiveComplete_run h.answered
    h.requester.made taken.known (taken.message ▸ holds')
  let w₄ : World := ⟨w₃.requester.gets [], { w₃.responder with
    agent := b₂
    outbox := w₃.responder.outbox ++ []
    heard := w₃.responder.heard ++ [.complete complete] }⟩
  have ended : w₃.Next mediators c.id c'.id w₄ := .responder (.receives arrived hcomplete)
  refine ⟨w₄, (path.tail sent').tail ended, ⟨x, ?_, completed.state⟩, ⟨y, ?_, completed'.state⟩⟩
  · rw [← taken.id]
    exact Store.get_eq_ok.mp requester₂.get
  · rw [← yid]
    exact Store.get_eq_ok.mp responder₂.1.get

end World

end Exchange

/-! ## Two sides that complete an exchange -/

section Plain

attribute [local instance] Suite.plain Chance.counting

namespace World

/-- Two agents without mediators complete the exchange of an invitation for one, and agree. -/
theorem exchange_agrees_plain :
    ∃ w w' i c d x y, Begins w i c d ∧ Reachable {} c.id d.id w w' ∧
      w'.requester.agent.connections.find? c.id = some x ∧
      w'.responder.agent.connections.find? d.id = some y ∧
      x.state = .completed ∧ y.state = .completed ∧ Concur i x y := by
  obtain ⟨p, q, fresh⟩ := Agent.plain_fresh [1] [2] [] [] false
  have here : PeerForm.genesisHash ≠ .inceptionKey := nofun
  have there : PeerForm.hashAndDocument ≠ .inceptionKey := nofun
  have mediated : ∀ k ∈ (Routing.plain [2] []).routingKeys, ({} : Wallet).holds k = true :=
    List.forall_mem_nil _
  obtain ⟨w, w₁, back, i, c, d, c', d', thread, m, starts, hi, records, begun, hc, hd, mem, midway⟩ :=
    comes_midway Suite.plain_lawful Chance.counting_lawful (Agent.plain_host here [1] [])
      (Agent.plain_host there [2] []) fresh (List.forall_mem_nil _) mediated
  obtain ⟨w₂, reached, ⟨x, found, state⟩, ⟨y, found', state'⟩⟩ :=
    response_once Suite.plain_lawful Chance.counting_lawful midway mem (List.forall_mem_nil _)
  rw [hc, hd] at reached
  rw [hc] at found
  rw [hd] at found'
  have begins : w.Begins i c d := {
    toStarts := starts
    alone := by
      rw [records]
      exact List.forall_mem_singleton.mpr fun _ => rfl }
  have run := begun.trans reached
  exact ⟨w, w₂, i, c, d, x, y, begins, run, found, found', state, state',
    (exchange_agrees begins run).2 x y found found' state state'⟩

end World

end Plain

end Pairwise
