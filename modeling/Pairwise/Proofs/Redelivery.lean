import Pairwise.Proofs.Completion
import Pairwise.Proofs.Network
/-!
# Responses that come twice

A requester that has completed its exchange refuses the same response when it comes again, and the
report of that reaches a responder that still waits for the completion.

Results:
* `Agent.Party.receiveResponse_again`: a response that comes too late is refused with a report.
* `Agent.Party.receiveProblem_run`: a report of a problem ends the exchange.
* `World.response_taken`: the requester takes the response in.
* `World.response_twice`: the requester has completed the exchange, and the responder has given it up.
* `World.comes_midway`: two hosts come from an invitation for one to the response.
* `World.ends_apart`: from there they come to end apart.
-/
namespace Pairwise

/-- The connection of a side that was told of a problem. -/
def Connection.abandoned (c : Connection) : Connection := { c with state := .abandoned }

variable [suite : Suite]

namespace Agent.Party

variable [chance : Chance] {a : Agent} {front : List Connection} {c : Connection} {i : Invitation}
  {p q : PeerDid} {r s : Routing} (h : Party a front c p r)

include h

/-- A response is refused unless the connection waits for it. -/
theorem receiveResponse_again (role : c.role = .requester) (state : c.state ≠ .requestSent)
    (theirDid : c.theirDid = some q.did) (made : q.Made s) (known : a.dids.Knows q) {m : Response}
    (kind : m.kind = .exchangeResponse) (readable : (Message.response m).Readable) {e : Envelope}
    (holds : e.Holds (Message.response m).toJson [r.recipientKey] (some s.recipientKey)) :
    ∃ report a', (receive e).run a = (.ok (some ⟨.exchangeProblem report, c⟩), a') ∧
      (Message.exchangeProblem report).Readable ∧ Party a' front c p r ∧ Drawn a a' := by
  obtain ⟨d, hd, tells, -⟩ := made.resolve (.inr known)
  have refused : c.advance .process .exchangeResponse
      = .error (.invalidTransition .exchangeResponse c.state [.requestSent]) := by
    have other : [ExchangeState.requestSent].contains c.state = false := by
      rw [Bool.eq_false_iff]
      exact fun there => state (List.mem_singleton.mp (List.contains_iff_mem.mp there))
    rw [Connection.advance, role]
    exact if_neg (by rw [other]; exact Bool.false_ne_true)
  have hdispatch : (dispatch (.response m) c).run a
      = (.error (.invalidTransition .exchangeResponse c.state [.requestSent]), a) := by
    have hprocess : (processResponse c m).run a
        = (.error (.invalidTransition .exchangeResponse c.state [.requestSent]), a) := by
      rw [processResponse, refused]
      rfl
    rw [dispatch, Step.bind_view]
    exact Step.bind_error hprocess
  let report : ProblemReport := {
    kind := .exchangeProblem
    id := chance.uuid a.draws.ids
    description := { Problem.ofKnown .responseNotAccepted with
      en := some (Error.invalidTransition .exchangeResponse c.state [.requestSent]).message }
    thread := some (.reply (Message.response m).threadId) }
  have plain : ∀ t ∈ report.thread, t.Plain :=
    fun t ht => Option.mem_some_iff.mp ht ▸ Thread.plain_replyUnder _ none
  refine ⟨report, (drawId.run a).2, ?_, ProblemReport.readable rfl plain, h.drawn (drawId_drawn a),
    drawId_drawn a⟩
  have reported : (Error.invalidTransition .exchangeResponse c.state [.requestSent]).problem?
      (Message.response m).kind = some .responseNotAccepted := by
    rw [Message.kind, kind]
    rfl
  rw [h.receive_run holds readable (checkSender_known theirDid hd tells.recipientKeys), handle,
    Step.bind_ok (Step.attempt_run _ _), hdispatch]
  dsimp only
  rw [reported]
  rfl

/-- A report of a problem ends an exchange that goes on. -/
theorem receiveProblem_run (open_ : c.state = .responseSent)
    (theirDid : c.theirDid = some q.did) (made : q.Made s) (known : a.dids.Knows q)
    {report : ProblemReport} (readable : (Message.exchangeProblem report).Readable) {e : Envelope}
    (holds : e.Holds (Message.exchangeProblem report).toJson [r.recipientKey] (some s.recipientKey)) :
    ∃ a', (receive e).run a = (.ok none, a') ∧ Party a' front c.abandoned.next p r := by
  obtain ⟨d, hd, tells, -⟩ := made.resolve (.inr known)
  have advance : c.advance .process .exchangeProblem = .ok .abandoned := by
    rw [Connection.advance, open_]
    rfl
  obtain ⟨a', hupdate, moves⟩ := updateConnection_run h.last c.abandoned rfl rfl
  refine ⟨a', ?_, h.moves moves (List.forall_mem_nil _) h.plain h.did⟩
  have hprocess : (processExchangeProblem c report).run a = (.ok c.abandoned.next, a') := by
    rw [processExchangeProblem, Step.bind_lift advance]
    exact hupdate
  rw [h.receive_run holds readable (checkSender_known theirDid hd tells.recipientKeys)]
  refine handle_run ?_
  rw [dispatch, Step.bind_view]
  dsimp only
  rw [Step.bind_ok hprocess]
  rfl

end Agent.Party

namespace World

variable [chance : Chance] {w : World} {front back : List Connection} {c d : Connection}
  {i : Invitation} {p q : PeerDid} {r s : Routing} {mediators : Wallet}

/-- The requester has taken the response in, and is to send its completion. The response may come to it
once more. -/
structure Completing (w : World) (front back : List Connection) (c c' d : Connection) (p q : PeerDid)
    (r s : Routing) (i : Invitation) (thread : String) (response : Parcel) (m : Complete) : Prop where
  requester : Agent.Party w.requester.agent front c' p r
  responder : Agent.Party w.responder.agent back d q s
  knows : w.requester.agent.dids.Knows q
  known : w.responder.agent.dids.Knows p
  id : c'.id = c.id
  completed : c'.At i .requester .completed (some p.did) (some q.did) (some thread)
  message : m = .new m.id thread (some i.id)
  toSend : ⟨.complete m, c'⟩ ∈ w.requester.outbox
  again : response ∈ w.requester.inbox
  holds : response.envelope.Holds response.message.toJson [r.recipientKey] (some s.recipientKey)

/-- The responder sends its response, and the requester takes it in. -/
theorem response_taken (lawful : suite.Lawful) (drawn : chance.Lawful) {thread : String}
    {m : Response} (h : Agent.Midway w.requester.agent w.responder.agent front back c d p q r s i thread m)
    (mem : ⟨.response m, d⟩ ∈ w.responder.outbox)
    (mediated : ∀ k ∈ r.routingKeys, mediators.holds k = true) :
    ∃ w' c' e n, Reachable mediators c.id d.id w w' ∧
      w'.Completing front back c c' d p q r s i thread ⟨.response m, e⟩ n := by
  obtain ⟨e, b₁, hpost, responder₁, drew, holds⟩ := h.post_run lawful drawn mediated
  let response : Parcel := ⟨.response m, e⟩
  let w₁ : World := ⟨w.requester.gets [response], { w.responder with agent := b₁ }⟩
  have sent : w.Next mediators c.id d.id w₁ :=
    .responder (.sends mem hpost (holds.genuine h.readable))
  have there : response ∈ w₁.requester.inbox := List.mem_append_right _ List.mem_cons_self
  obtain ⟨n, c', a₁, hreceive, message, id, completed, requester₁, knows⟩ := h.receive_run holds
  let w₂ : World := ⟨{ w₁.requester with
    agent := a₁
    outbox := w₁.requester.outbox ++ [⟨.complete n, c'⟩]
    heard := w₁.requester.heard ++ [.response m] }, w₁.responder.gets []⟩
  have taken : w₁.Next mediators c.id d.id w₂ := .requester (.receives there hreceive)
  exact ⟨w₂, c', e, n, (Relation.ReflTransGen.single sent).tail taken, {
    requester := requester₁, responder := responder₁, knows, known := drew.dids ▸ h.known, id, completed
    message, toSend := List.mem_append_right _ List.mem_cons_self, again := there, holds }⟩

/-- The response is delivered twice, and the report of the second time reaches the responder. -/
theorem response_twice (lawful : suite.Lawful) (drawn : chance.Lawful) {thread : String}
    {m : Response} (h : Agent.Midway w.requester.agent w.responder.agent front back c d p q r s i thread m)
    (mem : ⟨.response m, d⟩ ∈ w.responder.outbox)
    (mediated : ∀ k ∈ r.routingKeys ++ s.routingKeys, mediators.holds k = true) :
    ∃ w', Reachable mediators c.id d.id w w' ∧ w'.requester.Stands c.id .completed ∧
      w'.responder.Stands d.id .abandoned := by
  obtain ⟨w₂, c', e, n, path, taken⟩ := response_taken lawful drawn h mem
    fun k hk => mediated k (List.mem_append_left _ hk)
  have completed := taken.completed
  -- the same response is refused, and the problem reported
  have late : c'.state ≠ .requestSent := by rw [completed.state]; exact nofun
  obtain ⟨report, a₂, hagain, reported, requester₂, drew⟩ := taken.requester.receiveResponse_again
    completed.role late completed.theirDid h.responder.made taken.knows h.kind h.readable taken.holds
  let problem : Outbound := ⟨.exchangeProblem report, c'⟩
  let w₃ : World := ⟨{ w₂.requester with
    agent := a₂
    outbox := w₂.requester.outbox ++ [problem]
    heard := w₂.requester.heard ++ [.response m] }, w₂.responder.gets []⟩
  have refused : w₂.Next mediators c.id d.id w₃ := .requester (.receives taken.again hagain)
  have toSend : problem ∈ w₃.requester.outbox := List.mem_append_right _ List.mem_cons_self
  -- the report comes to the responder before the completion
  obtain ⟨e', a₃, hpost', requester₃, -, holds'⟩ := requester₂.post_run lawful drawn h.responder.sound
    (Agent.sendsTo_did h.responder.made (.inr (drew.dids ▸ taken.knows)) completed.theirDid) reported
    fun k hk => mediated k (List.mem_append_right _ hk)
  let parcel : Parcel := ⟨.exchangeProblem report, e'⟩
  let w₄ : World := ⟨{ w₃.requester with agent := a₃ }, w₃.responder.gets [parcel]⟩
  have told' : w₃.Next mediators c.id d.id w₄ :=
    .requester (.sends toSend hpost' (holds'.genuine reported))
  have arrived : parcel ∈ w₄.responder.inbox := List.mem_append_right _ List.mem_cons_self
  obtain ⟨b₂, hproblem, responder₂⟩ := taken.responder.receiveProblem_run h.answered.state
    h.answered.theirDid h.requester.made taken.known reported holds'
  let w₅ : World := ⟨w₄.requester.gets [], { w₄.responder with
    agent := b₂
    outbox := w₄.responder.outbox ++ []
    heard := w₄.responder.heard ++ [.exchangeProblem report] }⟩
  have ended : w₄.Next mediators c.id d.id w₅ := .responder (.receives arrived hproblem)
  refine ⟨w₅, ((path.tail refused).tail told').tail ended, ⟨c', ?_, completed.state⟩,
    ⟨d.abandoned.next, ?_, rfl⟩⟩
  · rw [← taken.id]
    exact Store.get_eq_ok.mp requester₃.get
  · exact Store.get_eq_ok.mp responder₂.get

/-- Two hosts come from an invitation for one to where the responder has made its response. -/
theorem comes_midway (lawful : suite.Lawful) (drawn : chance.Lawful) {a b : Agent}
    (requester : a.Host r) (responder : b.Host s) (fresh : a.Fresh b r s false p q)
    (unanswered : ∀ x ∈ a.connections.records, x.invitationId ≠ some (chance.uuid b.draws.ids))
    (mediated : ∀ k ∈ s.routingKeys, mediators.holds k = true) :
    ∃ w w' back i c d c' d' thread m, Starts w i c d ∧ i.id = chance.uuid b.draws.ids ∧
      w.responder.agent.connections.records = b.connections.records ++ [d] ∧
      Reachable mediators c.id d.id w w' ∧ c'.id = c.id ∧ d'.id = d.id ∧
      ⟨.response m, d'⟩ ∈ w'.responder.outbox ∧
      Agent.Midway w'.requester.agent w'.responder.agent a.connections.records back c' d' p q r
        s.invited i thread m := by
  have willing : (none : Option Bool) ≠ some false ∧
      ({} : RequestOptions).autoAccept ≠ some false := ⟨nofun, nofun⟩
  obtain ⟨i, d, b₁, c, a₁, m, c', a₂, -, -, hask, hi, records, opened⟩ :=
    Agent.open_run requester responder fresh lawful none willing
  have stored : a₁.connections.find? c.id = some c := Store.find?_last records
  have stored' : b₁.connections.find? d.id = some d := Store.find?_last opened.waiting.last
  let w : World := ⟨{ agent := a₁ }, { agent := b₁ }⟩
  have starts : w.Starts i c d := {
    requester := stored, responder := stored', asking := opened.before
    waiting := opened.waiting.stage, once := opened.uses
    only := fun x mem invitation => by
      rw [records, List.mem_append, List.mem_singleton] at mem
      rcases mem with mem | rfl
      · exact absurd (hi ▸ invitation) (unanswered x mem)
      · rfl
    requesterNew := ⟨rfl, rfl, rfl⟩, responderNew := ⟨rfl, rfl, rfl⟩ }
  -- the requester makes its request, and the responder answers it
  let request : Outbound := ⟨.request m, c'⟩
  let w₁ : World := ⟨{ w.requester with
    agent := a₂
    outbox := w.requester.outbox ++ [request] }, w.responder.gets []⟩
  have asked : w.Next mediators c.id d.id w₁ :=
    .requester (.makes (Agent.act_request (Store.get_eq_ok.mpr stored) hask))
  obtain ⟨e, a₃, m', d', b₂, back, hpost, genuine, hanswer, did, midway⟩ :=
    Agent.answer_opened responder fresh lawful drawn opened mediated
  let parcel : Parcel := ⟨.request m, e⟩
  let w₂ : World := ⟨{ w₁.requester with agent := a₃ }, w₁.responder.gets [parcel]⟩
  have made : request ∈ w₁.requester.outbox := List.mem_append_right _ List.mem_cons_self
  have sent : w₁.Next mediators c.id d.id w₂ := .requester (.sends made hpost genuine)
  let w₃ : World := ⟨w₂.requester.gets [], { w₂.responder with
    agent := b₂
    outbox := w₂.responder.outbox ++ [⟨.response m', d'⟩]
    heard := w₂.responder.heard ++ [.request m] }⟩
  have arrived : parcel ∈ w₂.responder.inbox := List.mem_append_right _ List.mem_cons_self
  have answered : w₂.Next mediators c.id d.id w₃ := .responder (.receives arrived hanswer)
  have begun : Reachable mediators c.id d.id w w₃ :=
    ((Relation.ReflTransGen.single asked).tail sent).tail answered
  exact ⟨w, w₃, back, i, c, d, c', d', m.id, m', starts, hi, opened.waiting.last, begun, opened.same,
    did.trans (if_neg nofun), List.mem_append_right _ List.mem_cons_self, midway⟩

/-- Two sides that answer to one invitation can come to have ended the exchange differently. -/
theorem ends_apart (lawful : suite.Lawful) (drawn : chance.Lawful) {a b : Agent}
    (requester : a.Host r) (responder : b.Host s) (fresh : a.Fresh b r s false p q)
    (unanswered : ∀ x ∈ a.connections.records, x.invitationId ≠ some (chance.uuid b.draws.ids))
    (mediated : ∀ k ∈ r.routingKeys ++ s.routingKeys, mediators.holds k = true) :
    ∃ w w' i c d, Starts w i c d ∧ Reachable mediators c.id d.id w w' ∧
      w'.requester.Stands c.id .completed ∧ w'.responder.Stands d.id .abandoned := by
  obtain ⟨w, w', back, i, c, d, c', d', thread, m, starts, -, -, begun, hc, hd, mem, midway⟩ :=
    comes_midway lawful drawn requester responder fresh unanswered
      fun k hk => mediated k (List.mem_append_right _ hk)
  have mediated' : ∀ k ∈ r.routingKeys ++ s.invited.routingKeys, mediators.holds k = true := mediated
  obtain ⟨w'', reached, completed, abandoned⟩ := response_twice lawful drawn midway mem mediated'
  rw [hc, hd] at reached
  rw [hc] at completed
  rw [hd] at abandoned
  exact ⟨w, w'', i, c, d, starts, begun.trans reached, completed, abandoned⟩

end World

end Pairwise
