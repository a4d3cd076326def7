import Pairwise.Proofs.Redelivery
/-!
# How an exchange ends

The responder completes an exchange only after the requester has. What the requester refuses are
responses, and the report of it makes the responder abandon the exchange; so a requester that has
completed an exchange which the responder has abandoned has got more than one response.

Results:
* `Agent.Asking`: what stays true of the requester, whatever it does and receives.
* `Agent.Answering`: what stays true of the responder.
* `World.ends_together`: both sides complete the exchange, or the response came more than once.
-/
namespace Pairwise

namespace Message

def isProblem : Message → Bool
  | .exchangeProblem _ => true
  | _ => false

def isResponse : Message → Bool
  | .response _ => true
  | _ => false

/-- The message is one that a requester sends. -/
def OfRequester : Message → Prop
  | .request _ | .complete _ => True
  | .exchangeProblem m => m.kind = .exchangeProblem
  | _ => False

/-- The message is one that a responder sends. -/
def OfResponder : Message → Prop
  | .response _ => True
  | .exchangeProblem m => m.kind = .exchangeProblem
  | _ => False

theorem OfRequester.ofExchange {m : Message} (h : m.OfRequester) : m.OfExchange := by
  cases m <;> trivial

theorem OfResponder.ofExchange {m : Message} (h : m.OfResponder) : m.OfExchange := by
  cases m <;> trivial

end Message

/-- The requester has the response. -/
def ExchangeState.isAnswered : ExchangeState → Bool
  | .responseReceived | .completed => true
  | _ => false

section Exchange

variable [suite : Suite]

namespace Agent

variable {a a' : Agent} {c c' : Connection} {event : Event}

/-! ## What a turn leaves alone -/

/-- What is stored after a turn is the connection that it was taken on, or was stored before. -/
theorem Turns.stored (h : Turns a c event c' a') {id : String} {x : Connection}
    (found : a'.connections.find? id = some x) :
    id = c.id ∧ x = c' ∨ id ≠ c.id ∧ a.connections.find? id = some x := by
  by_cases same : id = c.id
  · rw [same, h.after] at found
    exact .inl ⟨same, (Option.some.inj found).symm⟩
  · rw [h.others id same] at found
    exact .inr ⟨same, found⟩

/-- What was stored before a turn is the connection that it is taken on, or is stored afterwards. -/
theorem Turns.kept (h : Turns a c event c' a') {id : String} {x : Connection}
    (found : a.connections.find? id = some x) :
    id = c.id ∧ x = c ∨ id ≠ c.id ∧ a'.connections.find? id = some x := by
  by_cases same : id = c.id
  · rw [same, h.before] at found
    exact .inl ⟨same, (Option.some.inj found).symm⟩
  · rw [← h.others id same] at found
    exact .inr ⟨same, found⟩

/-- A connection in a terminal state stays as it is. -/
theorem Turns.terminal (h : Turns a c event c' a') {id : String} {x : Connection}
    (found : a.connections.find? id = some x) (terminal : x.state.isTerminal = true) :
    a'.connections.find? id = some x := by
  rcases h.kept found with ⟨-, rfl⟩ | ⟨-, found'⟩
  · rw [h.turn.source_open] at terminal
    cases terminal
  · exact found'

/-- A turn leaves the only connection of an invitation the only one. -/
theorem Turns.only (h : Turns a c event c' a') {i : Invitation} {id : String}
    (only : ∀ id' x, a.connections.find? id' = some x → x.invitationId = some i.id → id' = id) :
    ∀ id' x, a'.connections.find? id' = some x → x.invitationId = some i.id → id' = id := by
  intro id' x found own
  rcases h.stored found with ⟨rfl, rfl⟩ | ⟨-, found'⟩
  · exact only _ c h.before (h.turn.invitationId.symm.trans own)
  · exact only _ x found' own

/-! ## The requester -/

/-- What stays true of a requester that has sent messages and got so many responses. Only its own
connection grew out of the invitation, every completion that it has sent is one of a completed
connection, and for a report of a problem, and for the connection to have its response, it has got a
response each. -/
structure Asking (a : Agent) (id : String) (i : Invitation) (sent : List Outbound)
    (responses : Nat) : Prop where
  own : ∃ c, a.connections.find? id = some c ∧ c.role = .requester
  only : ∀ id' c, a.connections.find? id' = some c → c.invitationId = some i.id → id' = id
  sends : ∀ o ∈ sent, o.message.OfRequester
  completes : ∀ o ∈ sent, ∀ q, o.message = .complete q →
    ∃ c, a.connections.find? o.connection.id = some c ∧ c.state = .completed ∧
      c.invitationId = Thread.parentOf q.thread
  counted : ∀ c, a.connections.find? id = some c →
    (sent.any (·.message.isProblem)).toNat + c.state.isAnswered.toNat ≤ responses

namespace Asking

variable {id : String} {i : Invitation} {sent : List Outbound} {n : Nat}

theorem same (h : Asking a id i sent n) (same : a'.connections = a.connections) :
    Asking a' id i sent n where
  own := same ▸ h.own
  only := same ▸ h.only
  sends := h.sends
  completes := same ▸ h.completes
  counted := same ▸ h.counted

theorem more (h : Asking a id i sent n) {m : Nat} (le : n ≤ m) : Asking a id i sent m where
  own := h.own
  only := h.only
  sends := h.sends
  completes := h.completes
  counted c hc := Nat.le_trans (h.counted c hc) le

/-- A report of a problem uses up a response. -/
theorem reports (h : Asking a id i sent n) {report : ProblemReport}
    (kind : report.kind = .exchangeProblem) (c : Connection) :
    Asking a id i (sent ++ [⟨.exchangeProblem report, c⟩]) (n + 1) where
  own := h.own
  only := h.only
  sends := List.forall_mem_append.mpr ⟨h.sends, List.forall_mem_singleton.mpr kind⟩
  completes := List.forall_mem_append.mpr ⟨h.completes, List.forall_mem_singleton.mpr nofun⟩
  counted x hx := by
    have before := h.counted x hx
    have one := Bool.toNat_le (List.any (sent ++ [⟨.exchangeProblem report, c⟩])
      fun o : Outbound => o.message.isProblem)
    omega

/-- A turn keeps the count if the connection gets its response with a response. -/
theorem turn (h : Asking a id i sent n) (turn : Turns a c event c' a') {m : Nat} (le : n ≤ m)
    (counted : c'.state.isAnswered.toNat + n ≤ c.state.isAnswered.toNat + m) :
    Asking a' id i sent m where
  own := by
    obtain ⟨x, found, role⟩ := h.own
    rcases turn.kept found with ⟨rfl, rfl⟩ | ⟨-, found'⟩
    · exact ⟨c', turn.after, turn.turn.keeps.2.1.trans role⟩
    · exact ⟨x, found', role⟩
  only := turn.only h.only
  sends := h.sends
  completes o ho q hq := by
    obtain ⟨x, found, state, parent⟩ := h.completes o ho q hq
    exact ⟨x, turn.terminal found (by rw [state]; rfl), state, parent⟩
  counted x found := by
    rcases turn.stored found with ⟨rfl, rfl⟩ | ⟨-, found'⟩
    · have before := h.counted c turn.before
      omega
    · exact Nat.le_trans (h.counted x found') le

/-- What a requester makes on one of its connections leaves the count alone. -/
theorem makes (h : Asking a id i sent n) {o : Outbound} (role : c.role = .requester)
    (turn : Turns a c (.makes o.message) o.connection a') : Asking a' id i (sent ++ [o]) n := by
  obtain ⟨message, connection⟩ := o
  have after : a'.connections.find? connection.id = some connection :=
    turn.turn.keeps.1 ▸ turn.after
  -- what was sent before is no less true now
  have old : Asking a' id i sent n := by
    refine h.turn turn (Nat.le_refl n) ?_
    cases turn.turn with
    | makesRequest r did id label options attachment role state =>
      exact Nat.add_le_add_right (Nat.zero_le _) n
    | makesResponse r did id attachment role state => exact Nat.add_le_add_right (Nat.zero_le _) n
    | makesComplete id role state =>
      rw [state]
      exact Nat.le_refl _
  have counted (noProblem : message.isProblem = false) (x : Connection)
      (found : a'.connections.find? id = some x) :
      ((sent ++ [(⟨message, connection⟩ : Outbound)]).any (·.message.isProblem)).toNat
        + x.state.isAnswered.toNat ≤ n := by
    rw [List.any_append, List.any_cons, noProblem, List.any_nil, Bool.or_false, Bool.or_false]
    exact old.counted x found
  cases turn.turn with
  | makesRequest r did id' label options attachment =>
    exact ⟨old.own, old.only, List.forall_mem_append.mpr ⟨old.sends, List.forall_mem_singleton.mpr
      trivial⟩, List.forall_mem_append.mpr ⟨old.completes, List.forall_mem_singleton.mpr nofun⟩,
      counted rfl⟩
  | makesResponse r did id' attachment responder =>
    rw [role] at responder
    cases responder
  | @makesComplete thread j id' requester state threadId invitation =>
    refine ⟨old.own, old.only, List.forall_mem_append.mpr ⟨old.sends, List.forall_mem_singleton.mpr
      trivial⟩, List.forall_mem_append.mpr ⟨old.completes, List.forall_mem_singleton.mpr ?_⟩,
      counted rfl⟩
    rintro q ⟨⟩
    refine ⟨_, after, rfl, ?_⟩
    change c.invitation.map _ = _
    rw [invitation]
    rfl

/-- A requester that gets something from the responder takes it in, answers it or refuses it. -/
theorem receives (h : Asking a id i sent n) {m : Message} (responder : m.OfResponder)
    {result : Except Error (Option Outbound)} (handles : Handles a m a' result) :
    Asking a' id i (sent ++ Side.answerOf result) (n + m.isResponse.toNat) := by
  cases handles with
  | fails same refuses =>
    cases refuses with
    | error e =>
      change Asking a' id i (sent ++ []) _
      rw [List.append_nil]
      exact (h.same same).more (Nat.le_add_right _ _)
    | report c kind failed =>
      cases m with
      | response q => exact (h.same same).reports kind c
      | exchangeProblem q =>
        -- no report is made of a report
        have kind : q.kind = .exchangeProblem := responder
        rw [Message.kind, kind] at failed
        cases failed
      | _ => exact responder.elim
  | @takes c c' turn =>
    change Asking a' id i (sent ++ []) _
    rw [List.append_nil]
    refine h.turn turn (Nat.le_add_right _ _) ?_
    cases turn.turn with
    | takesRequest q => exact responder.elim
    | takesResponse q =>
      change 1 + n ≤ _ + (n + 1)
      omega
    | takesComplete q => exact responder.elim
    | takesProblem q => exact Nat.add_le_add (Nat.zero_le _) (Nat.le_refl n)
  | @answers c c₁ a₁ o first second =>
    cases hfirst : first.turn with
    | takesRequest q => exact responder.elim
    | takesResponse q role state =>
      have answered : (c.responseReceived q.did).next.role = .requester := role
      refine (h.turn first (Nat.le_succ n) ?_).makes answered second
      change 1 + n ≤ _ + (n + 1)
      omega
    | takesComplete q => exact responder.elim
    | takesProblem q =>
      -- nothing is answered on a connection that is given up
      have open_ := second.turn.source_open
      cases open_
  | stops request => exact (request ▸ responder : Message.OfResponder (.request _)).elim
  | forks request => exact (request ▸ responder : Message.OfResponder (.request _)).elim
  | forksAnswers request => exact (request ▸ responder : Message.OfResponder (.request _)).elim

end Asking

/-! ## The responder -/

/-- What stays true of a responder that has sent messages, and has been sent others. Its connection is
abandoned only if it was told of a problem, and completed only if it was sent a completion. -/
structure Answering (a : Agent) (id : String) (i : Invitation) (sent told : List Outbound) :
    Prop where
  own : ∃ c, a.connections.find? id = some c ∧ c.role = .responder ∧ c.invitationId = some i.id ∧
    (c.state = .abandoned → ∃ o ∈ told, o.message.isProblem = true) ∧
    (c.state = .completed → ∃ o ∈ told, ∃ q, o.message = .complete q ∧
      Thread.parentOf q.thread = some i.id)
  sends : ∀ o ∈ sent, o.message.OfResponder

namespace Answering

variable {id : String} {i : Invitation} {sent told : List Outbound}

theorem same (h : Answering a id i sent told) (same : a'.connections = a.connections) :
    Answering a' id i sent told := ⟨same ▸ h.own, h.sends⟩

theorem told_more (h : Answering a id i sent told) (more : List Outbound) :
    Answering a id i sent (told ++ more) := by
  obtain ⟨c, found, role, invitation, abandoned, completed⟩ := h.own
  refine ⟨⟨c, found, role, invitation, fun state => ?_, fun state => ?_⟩, h.sends⟩
  · obtain ⟨o, ho, problem⟩ := abandoned state
    exact ⟨o, List.mem_append_left _ ho, problem⟩
  · obtain ⟨o, ho, q, hq⟩ := completed state
    exact ⟨o, List.mem_append_left _ ho, q, hq⟩

/-- A turn that takes something takes what was sent. -/
theorem turn (h : Answering a id i sent told) (turn : Turns a c event c' a')
    (sentThere : ∀ m, event = .takes m → ∃ o ∈ told, o.message = m) :
    Answering a' id i sent told := by
  obtain ⟨x, found, role, invitation, abandoned, completed⟩ := h.own
  refine ⟨?_, h.sends⟩
  rcases turn.kept found with ⟨rfl, rfl⟩ | ⟨-, found'⟩
  swap
  · exact ⟨x, found', role, invitation, abandoned, completed⟩
  have same : c'.invitationId = some i.id := turn.turn.invitationId.trans invitation
  refine ⟨c', turn.after, turn.turn.keeps.2.1.trans role, same, ?_⟩
  cases turn.turn with
  | makesRequest r did id label options attachment requester =>
    exact ⟨nofun, nofun⟩
  | takesRequest q => exact ⟨nofun, nofun⟩
  | makesResponse r did id attachment => exact ⟨nofun, nofun⟩
  | takesResponse q => exact ⟨nofun, nofun⟩
  | makesComplete id requester =>
    rw [role] at requester
    cases requester
  | takesComplete q role' state thread parent =>
    obtain ⟨o, ho, message⟩ := sentThere _ rfl
    exact ⟨nofun, fun _ => ⟨o, ho, q, message, parent.2.symm.trans invitation⟩⟩
  | takesProblem q =>
    obtain ⟨o, ho, message⟩ := sentThere _ rfl
    exact ⟨fun _ => ⟨o, ho, by rw [message]; rfl⟩, nofun⟩

/-- A request for many that is taken in leaves the connection alone. -/
theorem fork (h : Answering a id i sent told) {q : Request} (fork : Forks a q c a') :
    Answering a' id i sent told := by
  obtain ⟨x, found, rest⟩ := h.own
  refine ⟨⟨x, ?_, rest⟩, h.sends⟩
  rw [fork.others id fun same => ?_, found]
  rw [same, fork.new] at found
  cases found

/-- What a responder makes on one of its connections is a response. -/
theorem makes (h : Answering a id i sent told) {o : Outbound} (role : c.role = .responder)
    (turn : Turns a c (.makes o.message) o.connection a') :
    Answering a' id i (sent ++ [o]) told := by
  obtain ⟨message, connection⟩ := o
  have takesNothing (m : Message) (same : Event.makes message = .takes m) :
      ∃ o ∈ told, o.message = m := by cases same
  have old := h.turn turn takesNothing
  refine ⟨old.own, List.forall_mem_append.mpr ⟨old.sends, List.forall_mem_singleton.mpr ?_⟩⟩
  cases turn.turn with
  | makesRequest r did id label options attachment requester =>
    rw [role] at requester
    cases requester
  | makesResponse r did id attachment => trivial
  | makesComplete id requester =>
    rw [role] at requester
    cases requester

/-- A responder that gets something from the requester takes it in, answers it or refuses it. -/
theorem receives (h : Answering a id i sent told) {m : Message} (requester : m.OfRequester)
    (sentThere : ∃ o ∈ told, o.message = m) {result : Except Error (Option Outbound)}
    (handles : Handles a m a' result) :
    Answering a' id i (sent ++ Side.answerOf result) told := by
  have taken (m' : Message) (same : Event.takes m = .takes m') : ∃ o ∈ told, o.message = m' := by
    cases same
    exact sentThere
  have nothing {a₁ : Agent} (h : Answering a₁ id i sent told) :
      Answering a₁ id i (sent ++ []) told := by rwa [List.append_nil]
  have refused {a₁ : Agent} (h : Answering a₁ id i sent told)
      {result : Except Error (Option Outbound)} (refuses : Refuses m result) :
      Answering a₁ id i (sent ++ Side.answerOf result) told := by
    cases refuses with
    | error e => exact nothing h
    | report c kind failed =>
      exact ⟨h.own, List.forall_mem_append.mpr ⟨h.sends, List.forall_mem_singleton.mpr kind⟩⟩
  cases handles with
  | fails same refuses => exact refused (h.same same) refuses
  | takes turn => exact nothing (h.turn turn taken)
  | @answers c c₁ a₁ o first second =>
    refine (h.turn first taken).makes ?_ second
    cases hfirst : first.turn with
    | takesRequest q role => exact role
    | takesResponse q => exact requester.elim
    | takesComplete q =>
      have open_ := second.turn.source_open
      cases open_
    | takesProblem q =>
      have open_ := second.turn.source_open
      cases open_
  | stops request first same refuses => exact refused ((h.turn first taken).same same) refuses
  | forks request fork same answer =>
    rcases answer with refuses | rfl
    · exact refused ((h.fork fork).same same) refuses
    · exact nothing ((h.fork fork).same same)
  | forksAnswers request fork second => exact (h.fork fork).makes fork.role second

end Answering

end Agent

/-! ## What the sides do -/

/-- How many responses there are among the messages. -/
def Side.responses (s : Side) : Nat := s.heard.countP Message.isResponse

namespace Side.Does

variable [chance : Chance] {mediators : Wallet} {id : String} {i : Invitation} {s s' : Side}
  {parcels : List Parcel}

/-- A side has no less to send afterwards, and hands out genuine envelopes of what it has to send. -/
theorem grows (h : s.Does mediators id parcels s') :
    (∃ more, s'.outbox = s.outbox ++ more) ∧ s'.inbox = s.inbox ∧
      ∀ p ∈ parcels, p.envelope.Genuine p.message ∧ ∃ o ∈ s.outbox, o.message = p.message := by
  cases h with
  | makes run => exact ⟨⟨_, rfl⟩, rfl, List.forall_mem_nil _⟩
  | sends mem run genuine =>
    exact ⟨⟨[], (List.append_nil _).symm⟩, rfl,
      List.forall_mem_singleton.mpr ⟨genuine, _, mem, rfl⟩⟩
  | fails mem run => exact ⟨⟨[], (List.append_nil _).symm⟩, rfl, List.forall_mem_nil _⟩
  | receives mem run => exact ⟨⟨_, rfl⟩, rfl, List.forall_mem_nil _⟩

theorem asking (h : s.Does mediators id parcels s')
    (inv : s.agent.Asking id i s.outbox s.responses)
    (genuine : ∀ p ∈ s.inbox, p.envelope.Genuine p.message ∧ p.message.OfResponder) :
    s'.agent.Asking id i s'.outbox s'.responses := by
  cases h with
  | @makes x result a run =>
    rcases Agent.act_turn run with ⟨⟨e, rfl⟩, same⟩ | ⟨c, o, hid, rfl, turn⟩
    · change a.Asking id i (s.outbox ++ []) s.responses
      rw [List.append_nil]
      exact inv.same same
    · obtain ⟨own, found, role⟩ := inv.own
      rw [← hid, turn.before] at found
      cases found
      exact inv.makes role turn
  | sends mem run => exact inv.same ((Agent.post_quiet _ _).of_run run).connections
  | fails mem run => exact inv.same ((Agent.post_quiet _ _).of_run run).connections
  | @receives p result a mem run =>
    obtain ⟨opens, responder⟩ := genuine p mem
    have received := inv.receives responder (Agent.receive_handles opens responder.ofExchange run)
    change a.Asking id i _ ((s.heard ++ [p.message]).countP Message.isResponse)
    have count : (s.heard ++ [p.message]).countP Message.isResponse
        = s.responses + p.message.isResponse.toNat := by
      rw [List.countP_append, List.countP_singleton, Side.responses]
      cases p.message.isResponse <;> rfl
    rw [count]
    exact received

theorem answering {told : List Outbound} (h : s.Does mediators id parcels s')
    (inv : s.agent.Answering id i s.outbox told)
    (genuine : ∀ p ∈ s.inbox, p.envelope.Genuine p.message ∧ p.message.OfRequester ∧
      ∃ o ∈ told, o.message = p.message) :
    s'.agent.Answering id i s'.outbox told := by
  cases h with
  | @makes x result a run =>
    rcases Agent.act_turn run with ⟨⟨e, rfl⟩, same⟩ | ⟨c, o, hid, rfl, turn⟩
    · change a.Answering id i (s.outbox ++ []) told
      rw [List.append_nil]
      exact inv.same same
    · obtain ⟨own, found, role, -⟩ := inv.own
      rw [← hid, turn.before] at found
      cases found
      exact inv.makes role turn
  | sends mem run => exact inv.same ((Agent.post_quiet _ _).of_run run).connections
  | fails mem run => exact inv.same ((Agent.post_quiet _ _).of_run run).connections
  | @receives p result a mem run =>
    obtain ⟨opens, requester, sentThere⟩ := genuine p mem
    exact inv.receives requester sentThere (Agent.receive_handles opens requester.ofExchange run)

end Side.Does

/-! ## The whole exchange -/

namespace World

variable [chance : Chance] {mediators : Wallet} {i : Invitation}

/-- What stays true of both sides and of what is under way between them. -/
structure Invariant (c d : String) (i : Invitation) (w : World) : Prop where
  asking : w.requester.agent.Asking c i w.requester.outbox w.requester.responses
  answering : w.responder.agent.Answering d i w.responder.outbox w.requester.outbox
  toRequester : ∀ p ∈ w.requester.inbox, p.envelope.Genuine p.message ∧
    ∃ o ∈ w.responder.outbox, o.message = p.message
  toResponder : ∀ p ∈ w.responder.inbox, p.envelope.Genuine p.message ∧
    ∃ o ∈ w.requester.outbox, o.message = p.message

omit chance in
theorem Starts.invariant {w : World} {c d : Connection} (h : w.Starts i c d) :
    w.Invariant c.id d.id i := by
  obtain ⟨noOutbox, noInbox, noHeard⟩ := h.requesterNew
  obtain ⟨noOutbox', noInbox', -⟩ := h.responderNew
  constructor
  · rw [noOutbox, Side.responses, noHeard]
    refine ⟨⟨c, h.requester, h.asking.role⟩, fun id x found invitation => ?_, List.forall_mem_nil _,
      List.forall_mem_nil _, fun x found => ?_⟩
    · obtain ⟨mem, hid⟩ := Store.find?_eq_some.mp found
      exact hid.symm.trans (h.only x mem invitation)
    · rw [h.requester] at found
      cases found
      rw [h.asking.state]
      exact Nat.le_refl 0
  · have invitationId : d.invitationId = some i.id :=
      Connection.invitationId_eq h.waiting.invitation
    rw [noOutbox']
    refine ⟨⟨d, h.responder, h.waiting.role, invitationId, ?_⟩, List.forall_mem_nil _⟩
    rw [h.waiting.state]
    exact ⟨nofun, nofun⟩
  · rw [noInbox]
    exact List.forall_mem_nil _
  · rw [noInbox']
    exact List.forall_mem_nil _

theorem Invariant.next {w w' : World} {c d : String} (h : w.Invariant c d i)
    (next : w.Next mediators c d w') : w'.Invariant c d i := by
  cases next with
  | @requester parcels s does =>
    obtain ⟨⟨more, outbox⟩, inbox, handed⟩ := does.grows
    refine ⟨does.asking h.asking fun p hp => ?_, ?_, ?_, ?_⟩
    · obtain ⟨genuine, o, ho, message⟩ := h.toRequester p hp
      exact ⟨genuine, message ▸ h.answering.sends o ho⟩
    · change w.responder.agent.Answering d i w.responder.outbox s.outbox
      rw [outbox]
      exact h.answering.told_more more
    · change ∀ p ∈ s.inbox, _
      rw [inbox]
      exact h.toRequester
    · refine List.forall_mem_append.mpr ⟨fun p hp => ?_, fun p hp => ?_⟩
      · obtain ⟨genuine, o, ho, message⟩ := h.toResponder p hp
        exact ⟨genuine, o, outbox ▸ List.mem_append_left _ ho, message⟩
      · obtain ⟨genuine, o, ho, message⟩ := handed p hp
        exact ⟨genuine, o, outbox ▸ List.mem_append_left _ ho, message⟩
  | @responder parcels s does =>
    obtain ⟨⟨more, outbox⟩, inbox, handed⟩ := does.grows
    refine ⟨h.asking, does.answering h.answering fun p hp => ?_, ?_, ?_⟩
    · obtain ⟨genuine, o, ho, message⟩ := h.toResponder p hp
      exact ⟨genuine, message ▸ h.asking.sends o ho, o, ho, message⟩
    · refine List.forall_mem_append.mpr ⟨fun p hp => ?_, fun p hp => ?_⟩
      · obtain ⟨genuine, o, ho, message⟩ := h.toRequester p hp
        exact ⟨genuine, o, outbox ▸ List.mem_append_left _ ho, message⟩
      · obtain ⟨genuine, o, ho, message⟩ := handed p hp
        exact ⟨genuine, o, outbox ▸ List.mem_append_left _ ho, message⟩
    · change ∀ p ∈ s.inbox, _
      rw [inbox]
      exact h.toResponder

theorem Reachable.invariant {w w' : World} {c d : Connection}
    (h : Reachable mediators c.id d.id w w') (starts : w.Starts i c d) : w'.Invariant c.id d.id i := by
  induction h with
  | refl => exact starts.invariant
  | tail _ next ih => exact ih.next next

omit chance in
/-- The requester has completed the exchange whenever the responder has. -/
theorem Invariant.completed {w : World} {c d : String} (h : w.Invariant c d i)
    (completed : w.responder.Stands d .completed) : w.requester.Stands c .completed := by
  obtain ⟨y, found, state⟩ := completed
  obtain ⟨y', found', -, -, -, told⟩ := h.answering.own
  obtain rfl : y' = y := Option.some.inj (found'.symm.trans found)
  obtain ⟨o, ho, q, message, parent⟩ := told state
  obtain ⟨x, stored, state', invitation⟩ := h.asking.completes o ho q message
  have own := h.asking.only _ x stored (invitation.trans parent)
  exact ⟨x, own ▸ stored, state'⟩

omit chance in
/-- A responder gives up an exchange that the requester has completed only if the response has come
more than once. -/
theorem Invariant.abandoned {w : World} {c d : String} (h : w.Invariant c d i)
    (completed : w.requester.Stands c .completed) (abandoned : w.responder.Stands d .abandoned) :
    2 ≤ w.requester.responses := by
  obtain ⟨x, stored, state⟩ := completed
  obtain ⟨y, found, state'⟩ := abandoned
  obtain ⟨y', found', -, -, told, -⟩ := h.answering.own
  obtain rfl : y' = y := Option.some.inj (found'.symm.trans found)
  have problem : w.requester.outbox.any (·.message.isProblem) = true :=
    List.any_eq_true.mpr (told state')
  have counted := h.asking.counted x stored
  rw [problem, state] at counted
  exact counted

/-- Neither side has given up an exchange that the other has completed, unless the response has come
to the requester more than once; and then it is the responder who has given up. -/
theorem ends_together {w w' : World} {c d : Connection} (starts : w.Starts i c d)
    (h : Reachable mediators c.id d.id w w') :
    ¬ (w'.requester.Stands c.id .abandoned ∧ w'.responder.Stands d.id .completed) ∧
      (w'.requester.Stands c.id .completed → w'.responder.Stands d.id .abandoned →
        2 ≤ w'.requester.responses) := by
  have inv := h.invariant starts
  refine ⟨fun ⟨⟨x, found, abandoned⟩, completed⟩ => ?_, inv.abandoned⟩
  obtain ⟨y, found', state⟩ := inv.completed completed
  obtain rfl : x = y := Option.some.inj (found.symm.trans found')
  rw [abandoned] at state
  cases state

end World

end Exchange

/-! ## Two sides that end apart -/

section Plain

attribute [local instance] Suite.plain Chance.counting

namespace World

/-- Two agents without mediators, of which one completes the exchange and the other gives it up. -/
theorem plain_ends_apart :
    ∃ w w' i c d, Starts w i c d ∧ Reachable {} c.id d.id w w' ∧
      w'.requester.Stands c.id .completed ∧ w'.responder.Stands d.id .abandoned := by
  obtain ⟨p, q, fresh⟩ := Agent.plain_fresh [1] [2] [] [] false
  have here : PeerForm.genesisHash ≠ .inceptionKey := nofun
  have there : PeerForm.hashAndDocument ≠ .inceptionKey := nofun
  exact ends_apart Suite.plain_lawful Chance.counting_lawful (Agent.plain_host here [1] [])
    (Agent.plain_host there [2] []) fresh (List.forall_mem_nil _) (List.forall_mem_nil _)

/-- The response came to the requester of these two more than once. -/
theorem ends_together_plain :
    ∃ w w' i c d, Starts w i c d ∧ Reachable {} c.id d.id w w' ∧ 2 ≤ w'.requester.responses := by
  obtain ⟨w, w', i, c, d, starts, reached, completed, abandoned⟩ := plain_ends_apart
  exact ⟨w, w', i, c, d, starts, reached, (ends_together starts reached).2 completed abandoned⟩

/-- It is not so that neither side ever gives up an exchange that the other has completed. -/
theorem not_always_together :
    ¬ ∀ (mediators : Wallet) (w w' : World) (i : Invitation) (c d : Connection), w.Starts i c d →
      Reachable mediators c.id d.id w w' →
      ¬ (w'.requester.Stands c.id .completed ∧ w'.responder.Stands d.id .abandoned) ∧
        ¬ (w'.requester.Stands c.id .abandoned ∧ w'.responder.Stands d.id .completed) := by
  intro always
  obtain ⟨w, w', i, c, d, starts, reached, completed, abandoned⟩ := plain_ends_apart
  exact (always {} w w' i c d starts reached).1 ⟨completed, abandoned⟩

end World

end Plain

end Pairwise
