import Pairwise.Proofs.ReadMessages
import Pairwise.Proofs.Reports
/-!
# Answers that nobody asked for

What an agent receives it may answer by itself: with the next message of the exchange, with the
acknowledgement of a new DID, or with a report of a problem. The answer may be answered in turn. Every
answer is of a kind that fewer messages can follow than the one before, whatever the two sides have stored,
so that after three of them there are none.

Results:
* `MessageKind.answers`, `MessageKind.following`: what follows a message, and how many messages can.
* `Agent.receive_answers`: an answer is of one of these kinds, and can be read.
* `Agent.Volley`: two agents answer each other.
* `Agent.Volley.ends`: they send three messages at most.
-/
namespace Pairwise

open Step

/-! ## Kinds of answers -/

namespace MessageKind

/-- The kinds of messages that an agent may send by itself when it receives one of a kind. -/
def answers : MessageKind → List MessageKind
  | .exchangeRequest => [.exchangeResponse, .exchangeProblem]
  | .exchangeResponse => [.exchangeComplete, .exchangeProblem]
  | .exchangeComplete => [.exchangeProblem]
  | .rotate => [.rotateAck, .rotateProblem]
  | _ => []

/-- How many messages can follow one of a kind, when each is the answer to the one before. -/
def following : MessageKind → Nat
  | .exchangeRequest => 3
  | .exchangeResponse => 2
  | .exchangeComplete | .rotate => 1
  | _ => 0

/-- Fewer messages can follow an answer than what it answers. -/
theorem following_lt {k k' : MessageKind} (answer : k' ∈ k.answers) : k'.following < k.following := by
  cases k with
  | exchangeRequest | exchangeResponse | rotate =>
    obtain rfl | rfl := List.mem_pair.mp answer
    all_goals decide
  | exchangeComplete =>
    obtain rfl := List.mem_singleton.mp answer
    decide
  | _ => cases answer

theorem following_le (k : MessageKind) : k.following ≤ 3 := by cases k <;> decide

/-- What is reported when something goes wrong with a message of a kind is an answer to it. -/
theorem problem_mem_answers {k : MessageKind} {problem : KnownProblem}
    (h : KnownProblem.ofFailed? k = some problem) : .exchangeProblem ∈ k.answers := by
  cases k with
  | exchangeRequest | exchangeResponse | exchangeComplete => decide
  | _ => cases h

/-- Reports, acknowledgements and hangups are answered by nothing. -/
theorem answered {k k' : MessageKind} (answer : k' ∈ k.answers) :
    k ∈ [exchangeRequest, exchangeResponse, exchangeComplete, rotate] := by
  cases k with
  | exchangeRequest | exchangeResponse | exchangeComplete | rotate => decide
  | _ => cases answer

end MessageKind

namespace Message

/-- The second message is of a kind that answers the first. -/
def AnsweredBy (m answer : Message) : Prop := answer.variant ∈ m.variant.answers

/-- When each message answers the one before, all but the last are answered. -/
theorem answered_of_isChain {m : Message} {sent : List Message} (chain : (m :: sent).IsChain AnsweredBy) :
    ∀ k ∈ (m :: sent).dropLast, k.variant ∈
      [MessageKind.exchangeRequest, .exchangeResponse, .exchangeComplete, .rotate] := by
  induction sent generalizing m with
  | nil => exact List.forall_mem_nil _
  | cons answer sent ih =>
    obtain ⟨first, rest⟩ := List.isChain_cons_cons.mp chain
    rw [List.dropLast_cons_cons]
    exact List.forall_mem_cons.mpr ⟨MessageKind.answered first, ih rest⟩

end Message

section Answers

variable [suite : Suite]

/-- Whoever opens the envelope finds the message. -/
def Envelope.Carries (e : Envelope) (m : Message) : Prop :=
  ∀ (w : Wallet) (opened : Opened), w.unpack e = .ok opened → opened.plaintext = m.toJson.sorted

theorem Envelope.Holds.carries {e : Envelope} {m : Message} {keys : List Key} {sender : Option Key}
    (holds : e.Holds m.toJson keys sender) : e.Carries m := by
  intro w opened h
  rw [holds w] at h
  split at h
  · cases h
    rfl
  · cases h

theorem Envelope.Carries.genuine {e : Envelope} {m : Message} (carries : e.Carries m)
    (readable : m.Readable) : e.Genuine m := by
  intro w opened h
  rw [carries w opened h]
  exact readable.read

namespace Agent

variable [chance : Chance] {a a' b : Agent} {c c' : Connection} {m : Message} {o : Outbound}
  {e : Envelope}

/-! ## What an agent answers -/

/-- What is attached to a DID is a signed document. -/
theorem attachmentFor_plain {p : PeerDid} {signer : Key} {attachment : Option Attachment}
    (h : (attachmentFor p signer).run a = (.ok attachment, a')) : ∀ t ∈ attachment, t.Plain := by
  intro t there
  obtain ⟨form, _, -, h⟩ := bind_run_ok.mp h
  split at h
  · cases h
    cases there
  · cases h
    cases there
  · obtain ⟨jws, _, -, h⟩ := bind_run_ok.mp h
    obtain ⟨id, _, -, h⟩ := bind_run_ok.mp h
    cases h
    obtain rfl := Option.some.inj there
    exact ⟨rfl, rfl⟩

theorem createResponse_readable {r : Option Routing} {q : Response}
    (h : (createResponse c r).run a = (.ok (q, c'), a')) : (Message.response q).Readable := by
  simp only [createResponse, bind_run_ok, lift_run_ok, view_run_ok, pure_run_ok, Prod.mk.injEq] at h
  obtain ⟨_, _, -, thread, _, -, _, _, -, _, _, -, _, _, -, _, _, -, p, _, -, id, _, -, attachment, _,
    attached, _, _, -, ⟨rfl, -⟩, -⟩ := h
  exact Response.readable rfl (attachmentFor_plain attached) fun t there =>
    Option.mem_some_iff.mp there ▸ Thread.plain_replyUnder _ none

theorem createComplete_readable {q : Complete}
    (h : (createComplete c).run a = (.ok (q, c'), a')) : (Message.complete q).Readable := by
  obtain ⟨thread, i, id, -, -, -, -, rfl, -⟩ := createComplete_ok h
  exact Complete.new_readable _ _ _

/-- What a message leads to is a readable message of a kind that answers it, if it leads to any. -/
theorem dispatch_answers (h : (dispatch m c).run a = (.ok (some o), a')) :
    m.AnsweredBy o.message ∧ o.message.Readable := by
  rw [dispatch, bind_view] at h
  cases m with
  | request q =>
    obtain ⟨r, a₁, -, h⟩ := bind_run_ok.mp h
    obtain ⟨c₁, a₂, -, h⟩ := bind_run_ok.mp h
    split at h
    · obtain ⟨⟨response, c₂⟩, a₃, made, h⟩ := bind_run_ok.mp h
      cases h
      exact ⟨List.mem_cons_self, createResponse_readable made⟩
    · cases h
  | response q =>
    obtain ⟨c₁, a₁, -, h⟩ := bind_run_ok.mp h
    split at h
    · obtain ⟨⟨complete, c₂⟩, a₂, made, h⟩ := bind_run_ok.mp h
      cases h
      exact ⟨List.mem_cons_self, createComplete_readable made⟩
    · cases h
  | rotate q =>
    obtain ⟨o', a₁, processed, h⟩ := bind_run_ok.mp h
    cases h
    cases processRotate_heeds processed with
    | refuses quiet kind thread =>
      refine ⟨List.mem_cons_of_mem _ List.mem_cons_self, ProblemReport.readable_rotation kind ?_⟩
      rw [thread]
      exact fun t there => Option.mem_some_iff.mp there ▸ Thread.plain_replyUnder _ none
    | acknowledges =>
      exact ⟨List.mem_cons_self, RotateAck.readable rfl fun t there =>
        Option.mem_some_iff.mp there ▸ Thread.plain_replyUnder _ none⟩
  | forward q => cases h
  | _ =>
    obtain ⟨_, _, -, h⟩ := bind_run_ok.mp h
    cases h

/-- A message that names what it is is answered with a readable message of a kind that answers it, which
may be the report of a problem with it. -/
theorem handle_answers (kind : m.kind = m.variant) (h : (handle m c).run a = (.ok (some o), a')) :
    m.AnsweredBy o.message ∧ o.message.Readable := by
  rw [handle, bind_ok (attempt_run _ _)] at h
  rcases hdispatch : (dispatch m c).run a with ⟨error | answer, a₁⟩
  · rw [hdispatch] at h
    dsimp only at h
    split at h
    · next problem told =>
      cases h
      have failed : KnownProblem.ofFailed? m.variant = some problem := by
        rw [← kind]
        unfold Error.problem? at told
        split at told
        · exact told
        · cases told
      exact ⟨MessageKind.problem_mem_answers failed, ProblemReport.readable rfl fun t there =>
        Option.mem_some_iff.mp there ▸ Thread.plain_replyUnder _ none⟩
    · cases h
  · rw [hdispatch] at h
    cases h
    exact dispatch_answers hdispatch

/-- Whatever an agent has stored, it answers an envelope with a message of a kind that answers the one in
it. The answer can be read. -/
theorem receive_answers (h : (receive e).run a = (.ok (some o), a')) :
    ∃ m c, a.Brings e m c ∧ m.AnsweredBy o.message ∧ o.message.Readable := by
  rcases receive_cases h with ⟨⟨error, failed⟩, -⟩ | ⟨opened, m, c, hopen, read, found, -, handled⟩
  · cases failed
  · exact ⟨m, c, ⟨opened, hopen, read, connectionFor_eq_ok.mp found⟩,
      handle_answers (Message.ofJson_ok read).2.1 handled⟩

/-! ## Two agents that answer each other -/

/-- An envelope is delivered to the first agent, its answer to the second, the answer to that to the first,
and so on. The messages are all that the two send, or the first few of them: the last need not have been
delivered yet, and it may be that it cannot. What is delivered is what was sealed: whoever opens it finds
the answer. -/
inductive Volley (mediators : Wallet) : Agent → Agent → Envelope → List Message → Prop
  | rests (a b : Agent) (e : Envelope) : Volley mediators a b e []
  | answers {a a' : Agent} {e : Envelope} {o : Outbound} (b : Agent)
      (received : (receive e).run a = (.ok (some o), a')) : Volley mediators a b e [o.message]
  | goesOn {a a₁ a₂ b : Agent} {e e' : Envelope} {o : Outbound} {sent : List Message}
      (received : (receive e).run a = (.ok (some o), a₁))
      (posted : (post mediators o).run a₁ = (.ok e', a₂)) (carries : e'.Carries o.message)
      (back : Volley mediators b a₂ e' sent) : Volley mediators a b e (o.message :: sent)

/-- Two agents that answer each other by themselves send three messages at most, whatever they have stored
and however they are set. Each is of a kind that answers the one before, beginning with the message in the
envelope, so that only requests, responses, completions and rotations are answered. What is not a message to
one of the first agent's connections is not answered. -/
theorem Volley.ends {mediators : Wallet} {sent : List Message} (volley : Volley mediators a b e sent) :
    sent.length ≤ 3 ∧
    (∀ m c, a.Brings e m c →
      (m :: sent).IsChain Message.AnsweredBy ∧ sent.length ≤ m.variant.following ∧
        ∀ k ∈ (m :: sent).dropLast, k.variant ∈
          [MessageKind.exchangeRequest, .exchangeResponse, .exchangeComplete, .rotate]) ∧
    ((∀ m c, ¬ a.Brings e m c) → sent = []) := by
  -- the envelope is answered only if it brings a message, which bounds what follows
  suffices bounded : sent = [] ∨ ∃ m c, a.Brings e m c ∧
      (m :: sent).IsChain Message.AnsweredBy ∧ sent.length ≤ m.variant.following by
    rcases bounded with rfl | ⟨m, c, brings, chain, length⟩
    · exact ⟨Nat.zero_le _, fun m _ _ => ⟨.singleton m, Nat.zero_le _, List.forall_mem_nil _⟩,
        fun _ => rfl⟩
    · refine ⟨length.trans m.variant.following_le, fun m' c' brings' => ?_, fun nothing => ?_⟩
      · obtain ⟨rfl, -⟩ := brings.unique brings'
        exact ⟨chain, length, Message.answered_of_isChain chain⟩
      · exact absurd brings (nothing m c)
  induction volley with
  | rests => exact .inl rfl
  | answers b received =>
    obtain ⟨m, c, brings, answered, -⟩ := receive_answers received
    refine .inr ⟨m, c, brings, List.isChain_cons_cons.mpr ⟨answered, .singleton _⟩, ?_⟩
    exact Nat.lt_of_le_of_lt (Nat.zero_le _) (MessageKind.following_lt answered)
  | goesOn received posted carries back ih =>
    obtain ⟨m, c, brings, answered, readable⟩ := receive_answers received
    have fewer := MessageKind.following_lt answered
    refine .inr ⟨m, c, brings, ?_⟩
    rcases ih with rfl | ⟨m', c', ⟨opened, hopen, read, -⟩, chain, length⟩
    · exact ⟨List.isChain_cons_cons.mpr ⟨answered, .singleton _⟩, Nat.lt_of_le_of_lt (Nat.zero_le _) fewer⟩
    · -- what the other side reads is the answer
      have same := carries.genuine readable _ _ (Outcome.mapError_eq_ok.mp hopen)
      obtain rfl := Except.ok.inj (same.symm.trans read)
      exact ⟨List.isChain_cons_cons.mpr ⟨answered, chain⟩, Nat.lt_of_le_of_lt length fewer⟩

/-- The completion of an exchange for another invitation is reported. -/
theorem handle_complete_other {q : Complete} {thread : String} {i : Invitation} (role : c.role = .responder)
    (state : c.state = .responseSent) (invitation : c.invitation = some i)
    (there : c.threadId = some thread) {id : String} (other : id ≠ i.id)
    (told : q = .new q.id thread (some id)) :
    ∃ o a', (handle (.complete q) c).run a = (.ok (some o), a') ∧ o.message.IsReport := by
  have advance : c.advance .process .exchangeComplete = .ok .completed := by
    rw [Connection.advance, role, state]
    rfl
  have reference : checkReference "thread id" c.threadId (some (Thread.idOf q.id q.thread)) = .ok () := by
    rw [told, there]
    exact checkReference_eq_ok.mpr ⟨rfl, rfl⟩
  obtain ⟨what, refused⟩ : ∃ what, checkReference "parent thread id" c.invitationId
      (Thread.parentOf q.thread) = .error (.referenceMismatch what) := by
    rw [told, Connection.invitationId_eq invitation, checkReference, if_neg]
    · exact ⟨_, rfl⟩
    · rintro ⟨-, same⟩
      exact other (Option.some.inj same).symm
  have failed : (dispatch (.complete q) c).run a = (.error (.referenceMismatch what), a) := by
    rw [dispatch, bind_view]
    refine bind_error ?_
    rw [processComplete, bind_lift advance, bind_lift reference]
    exact bind_error (by rw [run_lift, refused])
  have kind : (Message.complete q).kind = .exchangeComplete := by
    rw [told]
    rfl
  obtain ⟨o, a', handled, report, -⟩ := handle_reported failed (by rw [kind]; rfl)
  exact ⟨o, a', handled, report⟩

end Agent

end Answers

/-! ## Three answers -/

section Plain

attribute [local instance] Suite.plain Chance.counting

namespace Agent

/-- A request is answered, and its answer too, by a requester whose record has come to hold another
invitation with the same key. The responder reports that. -/
theorem plain_volley : ∃ (mediators : Wallet) (a b : Agent) (e : Envelope) (c : Connection) (q : Request)
    (m : Response) (n : Complete) (report : Message), a.Brings e (.request q) c ∧ report.IsReport ∧
      Volley mediators a b e [.response m, .complete n, report] := by
  obtain ⟨p, p', fresh⟩ := plain_fresh [1] [2] [] [] false
  have here : PeerForm.genesisHash ≠ .inceptionKey := nofun
  have there : PeerForm.hashAndDocument ≠ .inceptionKey := nofun
  have willing : (none : Option Bool) ≠ some false ∧
      ({} : RequestOptions).autoAccept ≠ some false := ⟨nofun, nofun⟩
  have direct {keys : List Key} (none : keys = []) : ∀ k ∈ keys, ({} : Wallet).holds k = true :=
    fun k mem => absurd mem (none ▸ List.not_mem_nil)
  obtain ⟨i, d, b, c₀, a₁, q, c, a, -, -, -, -, -, opened⟩ := open_run (plain_host here [1] [])
    (plain_host there [2] []) fresh Suite.plain_lawful none willing
  obtain ⟨e, a₂, m, d₁, b₁, back, -, genuine, answered, -, midway⟩ := answer_opened
    (plain_host there [2] []) fresh Suite.plain_lawful Chance.counting_lawful opened (direct rfl)
  obtain ⟨read, c', brings, -, -⟩ := receive_answers answered
  obtain rfl : read = .request q := by
    obtain ⟨opened', hopen, same, -⟩ := brings
    exact Except.ok.inj (same.symm.trans (genuine _ _ (Outcome.mapError_eq_ok.mp hopen)))
  -- the record of the requester comes to hold another invitation
  let other : Invitation := { i with id := "not " ++ i.id }
  have apart : other.id ≠ i.id := Text.append_ne (by decide) i.id
  obtain ⟨a₃, -, moves⟩ := updateConnection_run midway.requester.last
    { c with invitation := some other } rfl rfl
  have requester := midway.requester.moves moves (List.forall_mem_nil _) midway.requester.plain
    midway.requester.did
  have new : a₃.dids.find? p'.did = none :=
    Store.find?_eq_none_append moves.dids midway.new (List.forall_mem_nil _)
  -- the response arrives, and is answered
  obtain ⟨e₁, b₂, posted, responder, drew, holds⟩ := midway.post_run Suite.plain_lawful
    Chance.counting_lawful (direct rfl)
  obtain ⟨keys, attachment, hkeys, hm, plain, told⟩ := midway.message
  have accepting := midway.accepting
  rw [← moves.settings] at accepting
  obtain ⟨n, c₂, a₄, answered', hn, -, completed, requester', knows⟩ := requester.receiveResponse_run
    ⟨rfl, midway.asked.role, midway.asked.state, midway.asked.did, midway.asked.theirDid,
      midway.asked.thread⟩ hkeys accepting midway.responder.made new plain told (hm ▸ holds)
  -- the completion arrives, and is refused
  have readable : (Message.complete n).Readable := hn ▸ Complete.new_readable _ _ _
  obtain ⟨e₂, a₅, posted', -, -, holds'⟩ := requester'.post_run Suite.plain_lawful
    Chance.counting_lawful midway.responder.sound
    (sendsTo_did midway.responder.made (.inr knows) completed.theirDid) readable (direct rfl)
  obtain ⟨d', resolved, tells, -⟩ := midway.requester.made.resolve (.inr (drew.dids ▸ midway.known))
  obtain ⟨o, b₃, refused, report⟩ := handle_complete_other (a := b₂) midway.answered.role
    midway.answered.state midway.answered.invitation midway.answered.thread apart hn
  rw [← responder.receive_run holds' readable
    (checkSender_known midway.answered.theirDid resolved tells.recipientKeys)] at refused
  exact ⟨{}, b, a₃, e, c', q, m, n, o.message, brings, report,
    .goesOn answered posted holds.carries (.goesOn answered' posted' holds'.carries (.answers _ refused))⟩

/-- Three messages follow the request then, and no more. -/
theorem Volley.ends_plain : ∃ (mediators : Wallet) (a b : Agent) (e : Envelope) (q : Request)
    (sent : List Message), Volley mediators a b e sent ∧ sent.length = 3 ∧
      (.request q :: sent).IsChain Message.AnsweredBy := by
  obtain ⟨mediators, a, b, e, c, q, m, n, report, brings, -, volley⟩ := plain_volley
  obtain ⟨-, bounded, -⟩ := volley.ends
  exact ⟨mediators, a, b, e, q, _, volley, rfl, (bounded _ c brings).1⟩

end Agent

end Plain

end Pairwise
