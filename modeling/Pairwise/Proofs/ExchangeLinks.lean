import Pairwise.Proofs.Retention
import Pairwise.Proofs.RotationAgreement
/-!
# Exchanges link both sides

When an exchange is over, each side owns the DID that it has told and knows the one of the other, and
nothing has been rotated. This is where rotations begin.

Results:
* `Handles.others`: a message of the exchange leaves all connections alone but the one that it is
  answered on.
* `Acquainted.linkedTo`: two parties that have completed an exchange are linked.
* `exchange_links`: so are two agents that complete the exchange of an invitation.
-/
namespace Pairwise

variable [suite : Suite]

namespace Agent

variable {a a' b : Agent} {front back : List Connection} {c d : Connection} {i : Invitation}
  {p q : PeerDid} {r s : Routing}

/-! ## The connections of others -/

/-- The DID is none that a connection of the agent went by. -/
def NeverHad (a : Agent) (did : String) : Prop :=
  ∀ c ∈ a.connections.records, did ∉ c.previousDids

/-- All connections but the one that the answer is sent on were there before. -/
theorem Handles.others {m : Message} {o : Outbound}
    (h : Handles a m a' (.ok (some o))) (answer : ∀ report, o.message ≠ .exchangeProblem report) :
    ∀ c ∈ a'.connections.records, c.id ≠ o.connection.id → c ∈ a.connections.records := by
  intro c mem other
  refine Store.mem_of_find?_eq mem ?_
  change a'.connections.find? c.id = a.connections.find? c.id
  cases h with
  | fails same refuses => rw [same]
  | answers first second =>
    have id := second.turn.keeps.1
    have before := first.turn.keeps.1
    rw [id] at other
    rw [second.others _ other, first.others _ (before ▸ other)]
  | stops request first same refuses =>
    cases refuses with
    | report c kind failed => exact absurd rfl (answer _)
  | forks request fork same result =>
    rcases result with refuses | none
    · cases refuses with
      | report c kind failed => exact absurd rfl (answer _)
    · cases none
  | forksAnswers request fork second =>
    rw [second.turn.keeps.1] at other
    rw [second.others _ other, fork.others _ other]

/-- What a party tells stays a DID that none of its other connections went by. -/
theorem Party.neverHad [chance : Chance] {e : Envelope} {m : Message} {answer : Outbound}
    (h : Party a' front c p r) (id : answer.connection = c) (genuine : e.Genuine m)
    (exchange : m.OfExchange) (run : (receive e).run a = (.ok (some answer), a'))
    (told : ∀ report, answer.message ≠ .exchangeProblem report) (never : a.NeverHad p.did) :
    ∀ c' ∈ front, p.did ∉ c'.previousDids := by
  intro c' mem
  have stored : c' ∈ a'.connections.records := h.last ▸ List.mem_append_left _ mem
  refine never c' ((receive_handles genuine exchange run).others told c' stored ?_)
  rw [id]
  have distinct := a'.connections.distinct
  rw [h.last, List.map_append, List.nodup_append] at distinct
  exact distinct.2.2 _ (List.mem_map_of_mem mem) _ List.mem_cons_self

/-! ## What the parties have -/

/-- A party owns its DID, if none of its other connections went by it. -/
theorem Party.owns (h : Party a front c p r) (never : ∀ c' ∈ front, p.did ∉ c'.previousDids) :
    a.Owns c.id p r where
  sound := h.sound
  made := h.made
  resolves := .inr h.known
  own := h.own
  held := h.held
  others := fun c' mem other => by
    have earlier : c' ∈ front := by
      rw [h.last, List.mem_append, List.mem_singleton] at mem
      exact mem.resolve_right fun last => other (congrArg _ last)
    refine ⟨h.others c' earlier, Bool.eq_false_iff.mpr fun accepted => ?_⟩
    exact never c' earlier (Connection.accepts_previousDids.mp accepted)

/-- Two parties that know each other and have completed their exchange are linked. -/
theorem Acquainted.linkedTo (h : Acquainted a front c p r q) (other : Acquainted b back d q s p)
    {thread : Option String} {role role' : ExchangeRole}
    (stage : c.At i role .completed (some p.did) (some q.did) thread)
    (stage' : d.At i role' .completed (some q.did) (some p.did) thread)
    (strict : a.settings.strictRotation = true) (never : ∀ c' ∈ front, p.did ∉ c'.previousDids)
    {mediators : Wallet} (mediated : ∀ k ∈ r.routingKeys, mediators.holds k = true) :
    Side.LinkedTo mediators { agent := a } { agent := b } c d where
  standing := {
    stored := Store.get_eq_ok.mp h.get
    completed := stage.state
    did := stage.did ▸ rfl
    theirDid := stage.theirDid ▸ rfl
    strict := strict }
  agree := stage'.theirDid.trans stage.did.symm
  shared := fun did mem => by
    obtain rfl : p.did = did := Option.some.inj (stage.did.symm.trans mem)
    exact ⟨p, r, rfl, h.owns never, ⟨h.sound, h.made, .inr other.knows⟩, mediated⟩
  unrotated := ⟨h.plain.2.2.1, h.plain.2.2.2, h.plain.pendingRotation⟩
  still := ⟨rfl, rfl⟩

variable [chance : Chance]

/-- Two agents with rotations that wait for one another complete the exchange of an invitation, and
are linked then. -/
theorem exchange_links (lawful : suite.Lawful) (drawn : chance.Lawful) {multiUse : Bool}
    (requester : Host a r) (responder : Host b s) (fresh : Fresh a b r s multiUse p q)
    (strict : a.settings.strictRotation = true ∧ b.settings.strictRotation = true)
    (never : a.NeverHad p.did ∧ b.NeverHad q.did) (label : Option String) {accept : Option Bool}
    {options : RequestOptions} (willing : accept ≠ some false ∧ options.autoAccept ≠ some false)
    {mediators : Wallet}
    (mediated : ∀ k ∈ r.routingKeys ++ s.routingKeys, mediators.holds k = true) :
    ∃ i d b₁ c₀ a₁ m c a₂,
      (createInvitation s multiUse label).run b = (.ok (i, d), b₁) ∧
      (receiveInvitation i accept).run a = (.ok c₀, a₁) ∧
      (createRequest c₀ r options).run a₁ = (.ok (m, c), a₂) ∧
      ∀ n, ∃ kinds a' b' c' d',
        converse mediators (n + 3) a₂ b₁ ⟨.request m, c⟩ = .ok (kinds, a', b') ∧
        World.Linked mediators ⟨{ agent := a' }, { agent := b' }⟩ c' d' := by
  obtain ⟨i, d, b₁, c₀, a₁, m, c, a₂, hinvite, hreceive, hask, -, -, opened⟩ :=
    open_run requester responder fresh lawful label willing
  refine ⟨i, d, b₁, c₀, a₁, m, c, a₂, hinvite, hreceive, hask, fun n => ?_⟩
  obtain ⟨e, a₃, m', d₁, b₂, back, hpost, genuine, hanswer, -, midway⟩ :=
    answer_opened responder fresh lawful drawn opened
      fun k hk => mediated k (List.mem_append_right _ hk)
  have reached : ∀ k ∈ (answerRoutingOf b s multiUse).1.routingKeys, mediators.holds k = true :=
    fun k hk => mediated k (List.mem_append_right _ (answerRoutingOf_routingKeys k hk))
  obtain ⟨a', b', c', d', hrest, -, -, completed, completed', partyc, partyd⟩ :=
    converse_response lawful drawn midway
      (List.forall_mem_append.mpr ⟨fun k hk => mediated k (List.mem_append_left _ hk), reached⟩) n
  have run : converse mediators (n + 3) a₂ b₁ ⟨.request m, c⟩
      = .ok ([(Message.request m).kind, .exchangeResponse, .exchangeComplete], a', b') := by
    rw [converse, Step.outcome_eq hpost, Outcome.ok_bind]
    dsimp only
    rw [Step.outcome_eq hanswer, Outcome.ok_bind]
    dsimp only
    rw [hrest, Outcome.ok_bind]
    rfl
  obtain ⟨kept, kept'⟩ := converse_retains run
  -- the connection of the invitation is the only one that the responder has got since
  have never' : b₁.NeverHad q.did := by
    intro c' mem
    rw [opened.moves.connections, List.mem_append, List.mem_singleton] at mem
    rcases mem with before | rfl
    · exact never.2 c' before
    · rw [opened.waiting.plain.2.2.1]
      exact List.not_mem_nil
  have neverBack : ∀ c' ∈ back, q.did ∉ c'.previousDids :=
    midway.responder.neverHad rfl genuine trivial hanswer (fun _ same => by cases same) never'
  refine ⟨_, a', b', c', d', run, ?_, ?_⟩
  · exact partyc.linkedTo partyd completed completed'
      (kept.settings ▸ opened.settings ▸ strict.1) never.1
      fun k hk => mediated k (List.mem_append_left _ hk)
  · exact partyd.linkedTo partyc completed' completed
      (kept'.settings ▸ opened.moves.settings ▸ strict.2) neverBack reached

end Agent

end Pairwise
