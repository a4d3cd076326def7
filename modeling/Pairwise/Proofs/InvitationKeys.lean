import Pairwise.Proofs.Courses
/-!
# Where the keys of invitations lead

An invitation stays open for requests as long as its key leads to its connection. The DIDs of a key come
first, so that it depends on what else the key was used for: a connection that goes or went by a DID for
the key of the invitation is found in its place, and nothing else is in its way.

Results:
* `Agent.Invited`, `Agent.invited`: every connection that waits for requests was made for an invitation.
* `invitation_found_iff`: when the key of an invitation leads to its connection.
* `invitation_not_always_found`: it does not always.
-/
namespace Pairwise

open Step

section Inviting

variable [suite : Suite] [chance : Chance]

namespace Agent

variable {a : Agent} {c : Connection} {xs : List Operation} {n : Nat} {id id' key : String}

/-! ## Connections of invitations -/

/-- No two invitations of a run are made with the same key. -/
def DistinctInvitations (xs : List Operation) : Prop :=
  ∀ (k k' : Nat) (r r' : Routing) (multiUse multiUse' : Bool) (label label' : Option String),
    xs[k]? = some (.invite r multiUse label) → xs[k']? = some (.invite r' multiUse' label') →
    r.recipientKey.base58 = r'.recipientKey.base58 → k = k'

/-- The connection of an id was stored in a run with an invitation for a key. -/
def Invited (a : Agent) (xs : List Operation) (id key : String) : Prop :=
  ∃ (k : Nat) (r : Routing) (multiUse : Bool) (label : Option String) (i : Invitation) (c : Connection)
    (b : Agent), xs[k]? = some (.invite r multiUse label) ∧
      (createInvitation r multiUse label).run (a.after (xs.take k)) = (.ok (i, c), b) ∧ c.id = id ∧
      r.recipientKey.base58 = key

/-- A key is for the invitation of one connection. -/
theorem Invited.unique (distinct : DistinctInvitations xs) (h : a.Invited xs id key)
    (h' : a.Invited xs id' key) : id = id' := by
  obtain ⟨k, r, _, _, i, c, b, at_, made, rfl, rfl⟩ := h
  obtain ⟨k', r', _, _, i', c', b', at_', made', rfl, same⟩ := h'
  obtain rfl := distinct k k' r r' _ _ _ _ at_ at_' same.symm
  cases at_.symm.trans at_'
  cases made.symm.trans made'
  rfl

/-- Every connection that waits for requests was stored with an invitation. -/
theorem invited (empty : a.connections.records = []) (hn : n ≤ xs.length) :
    ∀ c ∈ (a.after (xs.take n)).connections.records, c.state = .invitationSent →
      ∃ key, c.invitationKey = some key ∧ a.Invited xs c.id key := by
  refine along (P := fun b => ∀ c ∈ b.connections.records, c.state = .invitationSent →
    ∃ key, c.invitationKey = some key ∧ a.Invited xs c.id key) ?_ ?_ ?_ ?_ ?_ hn
  · rw [empty]
    exact List.forall_mem_nil _
  · exact fun b b' same all => same.connections ▸ all
  · intro n r multiUse label i c b at_ all made z mem waits
    obtain ⟨starts, -, key⟩ := createInvitation_starts made
    rcases starts.mem mem with rfl | ⟨-, old⟩
    · exact ⟨_, key, n, r, multiUse, label, i, z, b, at_, made, rfl, rfl⟩
    · exact all z old waits
  · intro n i autoAccept c b _ all taken z mem waits
    obtain ⟨starts, state⟩ := receiveInvitation_starts taken
    rcases starts.mem mem with rfl | ⟨-, old⟩
    · cases state.symm.trans waits
    · exact all z old waits
  · intro n x b c y _ _ _ all z mem waits
    generalize run : (y.step c).run b = out at mem
    obtain ⟨result, b'⟩ := out
    cases Action.leaves run with
    | fails quiet => exact all z (quiet.connections ▸ mem) waits
    | refuses quiet => exact all z (quiet.connections ▸ mem) waits
    | forks many taken saved blank tags thread state =>
      rw [(Store.save_eq_ok.mp saved).2, List.mem_append, List.mem_singleton] at mem
      rcases mem with old | rfl
      · exact all z old waits
      · cases state.symm.trans waits
    | revises stores same revises =>
      rcases stores.mem mem with rfl | ⟨-, old⟩
      · obtain ⟨d, move⟩ := revises.move
        exact absurd waits move.state
      · exact all z old waits

/-! ## What finds them -/

omit chance in
/-- No connection is asked for by a DID exactly if none goes or went by one. -/
theorem nobody_asked_iff {b : Agent} (tags : ∀ z ∈ b.connections.records, z.customTags = [])
    {dids : List DidRecord} :
    (∀ q ∈ dids.flatMap fun r => [.on "did" r.did, .on "previousDids" r.did],
      b.connections.query q = []) ↔
      ∀ record ∈ dids, ∀ z ∈ b.connections.records, record.did ∉ z.ownDids := by
  constructor
  · intro nobody record mem z there own
    have nobody (q : Query) (hq : q ∈ [.on "did" record.did, .on "previousDids" record.did]) :
        ¬ q.accepts z.tags = true := fun accepted => by
      have none := nobody q (List.mem_flatMap.mpr ⟨record, mem, hq⟩)
      exact List.not_mem_nil (none ▸ Store.mem_query.mpr ⟨there, accepted⟩)
    rcases (Connection.mem_ownDids (tags z there)).mp own with accepted | accepted
    · exact nobody _ List.mem_cons_self accepted
    · exact nobody _ (List.mem_cons_of_mem _ List.mem_cons_self) accepted
  · intro free q hq
    obtain ⟨record, mem, hq⟩ := List.mem_flatMap.mp hq
    refine List.filter_eq_nil_iff.mpr fun z there accepted => free record mem z there ?_
    rw [Connection.mem_ownDids (tags z there)]
    rcases List.mem_pair.mp hq with rfl | rfl
    · exact .inl accepted
    · exact .inr accepted

/-- Only one connection waits for requests to a key. -/
theorem query_invitation (empty : a.connections.records = []) (distinct : DistinctInvitations xs)
    (there : c ∈ (a.after xs).connections.records) (waits : c.state = .invitationSent)
    (first : c.invitationKey = some key) :
    (a.after xs).connections.query
      ((Query.on "invitationKey" key).and "state" ExchangeState.invitationSent.name) = [c] := by
  have invited := invited empty (Nat.le_refl xs.length)
  rw [List.take_length] at invited
  refine Store.query_single there ((Connection.accepts_invitationKey first).mpr waits)
    fun z mem other => Bool.eq_false_iff.mpr fun accepted => other ?_
  obtain ⟨asked, state⟩ := Query.accepts_and.mp accepted
  obtain ⟨own, first', made⟩ := invited z mem (Connection.accepts_state.mp state)
  obtain ⟨own', first'', made'⟩ := invited c there waits
  obtain rfl : key = own' := Option.some.inj (first.symm.trans first'')
  obtain rfl := (Connection.accepts_invitation first').mp asked
  exact made.unique distinct made'

/-- Whatever an agent that begins without connections is asked to do, and whatever envelopes it receives:
the key of an invitation that is still open leads to the connection of the invitation exactly if no
connection goes or went by a DID of the agent's own for the key. -/
theorem invitation_found_iff (empty : a.connections.records = [])
    (copies : ∀ id, a.CopiesRead id xs) (distinct : DistinctInvitations xs)
    (there : c ∈ (a.after xs).connections.records) (waits : c.state = .invitationSent) {key : Key}
    (first : c.invitationKey = some key.base58) :
    (a.after xs).connectionOfKey key = .ok (some c) ↔
      ∀ record ∈ (a.after xs).didsOfKey key, ∀ z ∈ (a.after xs).connections.records,
        record.did ∉ z.ownDids := by
  have regular := regular empty copies (Nat.le_refl xs.length)
  rw [List.take_length] at regular
  have tags (z : Connection) (mem : z ∈ (a.after xs).connections.records) : z.customTags = [] :=
    (regular z mem).tags
  -- the connection of the invitation has no DID yet
  have own : c.ownDids = [] := by
    rw [Connection.ownDids, ((regular c there).fresh (waits ▸ rfl)).1,
      (regular c there).young fun done => by cases waits.symm.trans done]
    rfl
  rw [← nobody_asked_iff tags, connectionOfKey, recipientQueries]
  constructor
  · refine fun found => none_of_firstOf_append found fun q hq accepted => ?_
    obtain ⟨record, -, hq⟩ := List.mem_flatMap.mp hq
    have mem : record.did ∈ c.ownDids := by
      rw [Connection.mem_ownDids (tags c there)]
      rcases List.mem_pair.mp hq with rfl | rfl
      · exact .inl accepted
      · exact .inr accepted
    exact List.not_mem_nil (own ▸ mem)
  · intro nobody
    rw [firstOf_append nobody]
    exact firstOf_cons (query_invitation empty distinct there waits first)

end Agent

end Inviting

/-! ## A key that is used twice -/

section Plain

attribute [local instance] Suite.plain Chance.counting

namespace Agent

variable {b b' : Agent} {s : Routing} {i : Invitation} {d f : Connection} {p : PeerDid} {m : Request}
  {e : Envelope}

/-- A run that makes an invitation first and none later makes no two with the same key. -/
theorem distinct_of_first {r : Routing} {multiUse : Bool} {label : Option String}
    {xs : List Operation} (others : ∀ x ∈ xs, ∀ r multiUse label, x ≠ .invite r multiUse label) :
    DistinctInvitations (.invite r multiUse label :: xs) := by
  have first {k : Nat} {r' : Routing} {multiUse' : Bool} {label' : Option String}
      (at_ : (Operation.invite r multiUse label :: xs)[k]? = some (.invite r' multiUse' label')) :
      k = 0 := by
    cases k with
    | zero => rfl
    | succ k => exact absurd rfl (others _ (List.mem_of_getElem? at_) r' multiUse' label')
  intro k k' _ _ _ _ _ _ at_ at_' _
  rw [first at_, first at_']

/-- The response without a routing is made for the key of the invitation. -/
theorem Unanswered.responds (h : Unanswered b b' s i d f p m e) :
    ∃ n f' a, (createResponse f none).run b' = (.ok (n, f'), a) ∧ f'.id = f.id ∧
      d ∈ a.connections.records ∧ a.connectionOfKey s.recipientKey = .ok (some f') := by
  have form : PeerForm.hashAndDocument ≠ .inceptionKey := nofun
  have sound := h.waiting.sound
  obtain ⟨q, hq, -⟩ := Routing.peerDid_made sound.invited form (Chance.uuid 3) (Chance.uuid 4)
  obtain ⟨r, record, -, isOf, dids⟩ := h.known
  have settings : b'.settings.exchangeForm = .hashAndDocument := congrArg (·.exchangeForm) h.settings
  have tells : Tells b' s.invited q s.recipientKey := by
    refine ⟨sound.invited, settings ▸ form, ?_, ?_, sound.recipient.signs, h.held⟩
    · rw [settings, h.ids]
      exact hq
    · refine Store.find?_eq_none.mpr fun known mem same => ?_
      rw [dids, List.mem_singleton] at mem
      have same : p.did = q.did := isOf.did.symm.trans (mem ▸ same)
      cases h.form.symm.trans ((congrArg PeerDid.form same).trans (Routing.form_peerDid form hq))
  have last : b'.connections.records = [d] ++ [f] := h.connections
  obtain ⟨n, a, attachment, record', made, -, -, -, isOf', moves⟩ :=
    createResponse_run Suite.plain_lawful tells last h.stage.role h.stage.state
      h.stage.thread h.stage.invitation (h.waiting.tells.requireKey sound)
      (h.waiting.responseRouting_eq h.mediator _)
  have own : a.didsOfKey s.recipientKey = [record'] := by
    have created := didsOfKey_created moves.dids isOf'
    change a.didsOfKey s.recipientKey = b'.didsOfKey s.recipientKey ++ [record'] at created
    rw [created, h.unused]
    rfl
  refine ⟨n, _, a, made, rfl, ?_, connectionOfKey_own own
    (Store.query_last moves.connections (List.forall_mem_singleton.mpr ?_) ?_)⟩
  · rw [moves.connections]
    exact List.mem_cons_self
  · refine Bool.eq_false_iff.mpr fun accepted => ?_
    cases h.waiting.stage.did.symm.trans ((Connection.accepts_did h.waiting.plain.1).mp accepted)
  · exact (Connection.accepts_did_of_some rfl).mpr isOf'.did.symm

/-- The key leads to the invitation when the first request has come: it is for no DID then. -/
theorem invitation_found_iff_plain : ∃ (a : Agent) (xs : List Operation) (c : Connection) (key : Key),
    a.connections.records = [] ∧ (∀ id, a.CopiesRead id xs) ∧ DistinctInvitations xs ∧
    c ∈ (a.after xs).connections.records ∧ c.state = .invitationSent ∧
    c.invitationKey = some key.base58 ∧ (a.after xs).didsOfKey key = [] ∧
    (a.after xs).connectionOfKey key = .ok (some c) := by
  obtain ⟨b, b', s, i, d, f, p, m, e, made, h⟩ := plain_unanswered
  let xs : List Operation := [.invite s true none, .receive e]
  have after : plainManual.after xs = b' := h.after made
  have distinct : DistinctInvitations xs :=
    distinct_of_first (List.forall_mem_singleton.mpr fun _ _ _ => Operation.noConfusion)
  have there : d ∈ (plainManual.after xs).connections.records := by
    rw [after, h.connections]
    exact List.mem_cons_self
  have waits := h.waiting.stage.state
  have unused : (plainManual.after xs).didsOfKey s.recipientKey = [] := after ▸ h.unused
  have found : (plainManual.after xs).connectionOfKey s.recipientKey = .ok (some d) := by
    refine (invitation_found_iff rfl Unanswered.copies distinct there waits h.first).mpr ?_
    rw [unused]
    exact List.forall_mem_nil _
  exact ⟨plainManual, xs, d, s.recipientKey, rfl, Unanswered.copies, distinct, there, waits, h.first,
    unused, found⟩

/-- It is not so that the key of an invitation for many leads to its connection as long as that waits. -/
theorem invitation_not_always_found : ¬ ∀ (a : Agent) (xs : List Operation) (c : Connection) (key : Key),
    a.connections.records = [] → a.dids.records = [] → (∀ id, a.CopiesRead id xs) →
    DistinctInvitations xs → c ∈ (a.after xs).connections.records → c.multiUse = true →
    c.state = .invitationSent → c.invitationKey = some key.base58 →
    (a.after xs).connectionOfKey key = .ok (some c) := by
  intro always
  obtain ⟨b, b', s, i, d, f, p, m, e, made, h⟩ := plain_unanswered
  obtain ⟨n, f', a, responds, same, there, found⟩ := h.responds
  let xs : List Operation := [.invite s true none, .receive e, .on f (.createResponse none)]
  have before := h.after made
  have run : plainManual.after xs = a := by
    change ((Agent.createResponse f none).done.run
      (plainManual.after [.invite s true none, .receive e])).2 = a
    rw [done_run, before, responds]
  have stored : (plainManual.after [.invite s true none, .receive e]).connections.find? f.id
      = some f := by
    rw [before]
    exact Store.find?_eq_some.mpr
      ⟨h.connections ▸ List.mem_cons_of_mem _ List.mem_cons_self, rfl⟩
  have copies (id : String) : plainManual.CopiesRead id xs :=
    (Unanswered.copies id).append (fun own => own ▸ stored) _
  have distinct : DistinctInvitations xs := by
    refine distinct_of_first fun x mem _ _ _ => ?_
    rcases List.mem_pair.mp mem with rfl | rfl <;> exact Operation.noConfusion
  have leads := always plainManual xs d s.recipientKey rfl rfl copies distinct (run ▸ there) h.many
    h.waiting.stage.state h.first
  rw [run, found] at leads
  cases leads
  exact h.other same.symm

end Agent

end Plain

end Pairwise
