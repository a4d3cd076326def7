import Pairwise.Proofs.HeldDids
/-!
# The order of stored records

A store promises no order of its records. The connection that a key leads to is looked for by one DID of
the key after the other, and the first DID that leads anywhere decides. So the order of connections never
matters, and the order of DIDs does as soon as two DIDs of a key lead apart.

Results:
* `Store.querySingle_perm`, `firstOf_perm`: the order of connections does not matter.
* `firstOf_recipientQueries`: what the first DID that leads anywhere decides.
* `orderFree_iff`: when the order of DIDs does not matter either.
* `run_orderFree`: it does not in a run in which every new DID has a key of its own.
* `Serves.answers`, `not_always_orderFree`: it does once two requests have been answered under the key of
  their invitation.
-/
namespace Pairwise

/-! ## Queries -/

namespace Store

variable {R : Type} [Storable R] {s s' : Store R}

/-- A query for one record is answered alike in whatever order the records are. -/
theorem querySingle_perm (perm : s.records.Perm s'.records) (q : Query) :
    s.querySingle q = s'.querySingle q := by
  have found : (s.query q).Perm (s'.query q) := perm.filter _
  have same := found.length_eq
  unfold querySingle
  rcases h : s.query q with _ | ⟨r, _ | ⟨r₂, rest⟩⟩
  · rw [h] at found
    rw [List.nil_perm.mp found]
  · rw [h] at found
    rw [← List.singleton_perm.mp found]
  · rw [h] at same
    rcases h' : s'.query q with _ | ⟨r', _ | ⟨r₂', rest'⟩⟩
    · rw [h'] at same
      cases same
    · rw [h'] at same
      cases same
    · rw [h'] at same
      dsimp only
      rw [same]

/-- The records may be in an order in which any of those that a query accepts comes first. -/
theorem exists_query_cons {q : Query} {r : R} (mem : r ∈ s.query q) :
    ∃ (s' : Store R) (rest : List R), s.records.Perm s'.records ∧ s'.query q = r :: rest := by
  obtain ⟨there, accepted⟩ := mem_query.mp mem
  obtain ⟨front, back, split⟩ := List.append_of_mem there
  have perm : s.records.Perm (r :: (front ++ back)) := split ▸ List.perm_middle
  let s' : Store R := ⟨r :: (front ++ back), (perm.map Storable.id).nodup_iff.mp s.distinct⟩
  refine ⟨s', (front ++ back).filter fun r => q.accepts (Storable.tags r), perm, ?_⟩
  rw [query, List.filter_cons, if_pos accepted]

end Store

namespace Agent

section Finding

variable {s s' : Store Connection} {qs : List Query}

theorem firstOf_perm (perm : s.records.Perm s'.records) (qs : List Query) :
    firstOf s qs = firstOf s' qs := by
  induction qs with
  | nil => rfl
  | cons q qs ih => rw [firstOf, firstOf, Store.querySingle_perm perm, ih]

/-- Queries that find nothing are passed over. -/
theorem firstOf_append_of_none (none : firstOf s qs = .ok .none) (qs' : List Query) :
    firstOf s (qs ++ qs') = firstOf s qs' := by
  induction qs with
  | nil => rfl
  | cons q qs ih =>
    obtain ⟨found, hfound, rest⟩ := Outcome.bind_eq_ok.mp none
    cases found with
    | some c => cases rest
    | none =>
      rw [List.cons_append, firstOf, hfound]
      exact ih rest

/-- Nothing is asked for after queries that find something, or that fail. -/
theorem firstOf_append_of_ne (some : firstOf s qs ≠ .ok none) (qs' : List Query) :
    firstOf s (qs ++ qs') = firstOf s qs := by
  induction qs with
  | nil => exact absurd rfl some
  | cons q qs ih =>
    rw [firstOf] at some
    rw [List.cons_append, firstOf, firstOf]
    rcases first : s.querySingle q with e | _ | c
    · rfl
    · rw [first] at some
      exact ih some
    · rfl

end Finding

/-! ## Where DIDs lead -/

/-- Two look-ups agree: they find the same connection, or both find none, or both fail since there is more
than one. -/
inductive SameFinding : Except Error (Option Connection) → Except Error (Option Connection) → Prop where
  | same (x : Except Error (Option Connection)) : SameFinding x x
  | ambiguous (what what' : String) :
    SameFinding (.error (.recordDuplicate what)) (.error (.recordDuplicate what'))

namespace SameFinding

variable {x y z : Except Error (Option Connection)}

theorem symm (h : SameFinding x y) : SameFinding y x := by
  cases h with
  | same => exact .same _
  | ambiguous => exact .ambiguous _ _

theorem trans (h : SameFinding x y) (h' : SameFinding y z) : SameFinding x z := by
  cases h with
  | same => exact h'
  | ambiguous =>
    cases h' with
    | same => exact .ambiguous _ _
    | ambiguous => exact .ambiguous _ _

end SameFinding

section Order

variable [suite : Suite] {a a' : Agent} {key : Key}

/-- The connection that has one of the agent's own DIDs, now or before. -/
def connectionOfDid (did : String) (a : Agent) : Except Error (Option Connection) :=
  firstOf a.connections [.on "did" did, .on "previousDids" did]

/-- A connection is found by its DID if that is asked for on no other. -/
theorem connectionOfDid_eq {c : Connection} {did : String} (there : c ∈ a.connections.records)
    (own : c.did = some did) (others : ∀ z ∈ a.connections.records, z.id ≠ c.id →
      (Query.on "did" did).accepts z.tags = false) : a.connectionOfDid did = .ok (some c) :=
  firstOf_cons (Store.query_single there ((Connection.accepts_did_of_some own).mpr rfl) others)

/-- The agent whose DIDs and connections are stored in another order. -/
structure Reordered (a a' : Agent) : Prop where
  dids : a.dids.records.Perm a'.dids.records
  connections : a.connections.records.Perm a'.connections.records
  rest : a' = { a with dids := a'.dids, connections := a'.connections }

/-- A key leads to the same connection in whatever order DIDs and connections are stored. -/
def OrderFree (a : Agent) (key : Key) : Prop :=
  ∀ a', a.Reordered a' → SameFinding (a.connectionOfKey key) (a'.connectionOfKey key)

theorem Reordered.connectionOfDid (h : a.Reordered a') (did : String) :
    a.connectionOfDid did = a'.connectionOfDid did := firstOf_perm h.connections _

theorem Reordered.mem_didsOfKey (h : a.Reordered a') {record : DidRecord} :
    record ∈ a.didsOfKey key ↔ record ∈ a'.didsOfKey key := (h.dids.filter _).mem_iff

/-- The first DID that leads anywhere decides. -/
theorem firstOf_recipientQueries (a : Agent) (key : Key) (dids : List DidRecord) :
    (∃ record ∈ dids, a.connectionOfDid record.did ≠ .ok none ∧
      firstOf a.connections (recipientQueries key dids) = a.connectionOfDid record.did) ∨
    (∀ record ∈ dids, a.connectionOfDid record.did = .ok none) ∧
      firstOf a.connections (recipientQueries key dids)
        = firstOf a.connections (recipientQueries key []) := by
  induction dids with
  | nil => exact .inr ⟨List.forall_mem_nil _, rfl⟩
  | cons record dids ih =>
    have next : recipientQueries key (record :: dids)
        = [.on "did" record.did, .on "previousDids" record.did] ++ recipientQueries key dids := rfl
    rw [next]
    by_cases leads : a.connectionOfDid record.did = .ok none
    · rw [firstOf_append_of_none leads]
      rcases ih with ⟨other, mem, some, decides⟩ | ⟨all, rest⟩
      · exact .inl ⟨other, List.mem_cons_of_mem _ mem, some, decides⟩
      · exact .inr ⟨List.forall_mem_cons.mpr ⟨leads, all⟩, rest⟩
    · exact .inl ⟨record, List.mem_cons_self, leads, firstOf_append_of_ne leads _⟩

/-- DIDs may be stored so that any of the DIDs of a key comes first. -/
theorem exists_first {record : DidRecord} (mem : record ∈ a.didsOfKey key) :
    ∃ a' rest, a.Reordered a' ∧ a'.didsOfKey key = record :: rest := by
  obtain ⟨dids, rest, perm, first⟩ := Store.exists_query_cons mem
  exact ⟨{ a with dids }, rest, ⟨perm, .refl _, rfl⟩, first⟩

/-- The order in which records are stored does not matter if all DIDs of the key that lead anywhere lead to
the same connection. -/
theorem orderFree_of_leads (h : ∀ record ∈ a.didsOfKey key, ∀ record' ∈ a.didsOfKey key,
    a.connectionOfDid record.did ≠ .ok none → a.connectionOfDid record'.did ≠ .ok none →
    SameFinding (a.connectionOfDid record.did) (a.connectionOfDid record'.did)) : a.OrderFree key := by
  intro a' reordered
  have leads (did : String) := reordered.connectionOfDid did
  rw [connectionOfKey, connectionOfKey]
  rcases firstOf_recipientQueries a key (a.didsOfKey key) with
      ⟨record, mem, some, decides⟩ | ⟨all, last⟩ <;>
    rcases firstOf_recipientQueries a' key (a'.didsOfKey key) with
      ⟨record', mem', some', decides'⟩ | ⟨all', last'⟩
  · rw [← leads] at some' decides'
    rw [decides, decides']
    exact h record mem record' (reordered.mem_didsOfKey.mpr mem') some some'
  · exact absurd ((leads _).trans (all' record (reordered.mem_didsOfKey.mp mem))) some
  · exact absurd ((leads _).symm.trans (all record' (reordered.mem_didsOfKey.mpr mem'))) some'
  · rw [last, last', firstOf_perm reordered.connections]
    exact .same _

/-- A DID of a key that leads anywhere leads where the key does, if the order does not matter. -/
theorem OrderFree.leads (h : a.OrderFree key) {record : DidRecord} (mem : record ∈ a.didsOfKey key)
    (some : a.connectionOfDid record.did ≠ .ok none) :
    SameFinding (a.connectionOfKey key) (a.connectionOfDid record.did) := by
  obtain ⟨a', rest, reordered, first⟩ := exists_first mem
  have found := h a' reordered
  rw [reordered.connectionOfDid] at some
  have decides : a'.connectionOfKey key = a'.connectionOfDid record.did := by
    rw [connectionOfKey, first]
    exact firstOf_append_of_ne some _
  rw [decides, ← reordered.connectionOfDid] at found
  exact found

/-- A key leads to the same connection in whatever order DIDs and connections are stored exactly if all
DIDs of the key that lead anywhere lead to the same connection. -/
theorem orderFree_iff (a : Agent) (key : Key) :
    a.OrderFree key ↔ ∀ record ∈ a.didsOfKey key, ∀ record' ∈ a.didsOfKey key,
      a.connectionOfDid record.did ≠ .ok none → a.connectionOfDid record'.did ≠ .ok none →
      SameFinding (a.connectionOfDid record.did) (a.connectionOfDid record'.did) := by
  refine ⟨fun free record mem record' mem' some some' => ?_, orderFree_of_leads⟩
  exact (free.leads mem some).symm.trans (free.leads mem' some')

/-! ## Keys of their own -/

/-- If every DID of the agent's own is found by a key of its own, no key is for two DIDs. -/
theorem OneKeyEach.unique (h : a.OneKeyEach) {record record' : DidRecord}
    (mem : record ∈ a.didsOfKey key) (mem' : record' ∈ a.didsOfKey key) : record = record' := by
  obtain ⟨there, accepted⟩ := Store.mem_query.mp mem
  obtain ⟨created, known⟩ := DidRecord.accepts_key.mp accepted
  obtain ⟨own, isFor, alone⟩ := h record there created
  rw [isFor.fingerprints, List.mem_singleton] at known
  have same : a.didsOfKey key = a.didsOfKey own := by rw [didsOfKey, known, didsOfKey]
  rw [same, alone, List.mem_singleton] at mem'
  exact mem'.symm

/-- Whatever an agent that begins without connections and DIDs is asked to do, and whatever envelopes it
receives: no key leads elsewhere in another order, if every new DID had a key of its own. -/
theorem run_orderFree [chance : Chance] {xs : List Operation} (connections : a.connections.records = [])
    (dids : a.dids.records = []) (copies : ∀ id, a.CopiesRead id xs) (new : a.MakesNew xs) (key : Key) :
    (a.after xs).OrderFree key := by
  have finds := findsOwn connections dids copies new (Nat.le_refl xs.length)
  rw [List.take_length] at finds
  refine orderFree_of_leads fun record mem record' mem' _ _ => ?_
  rw [finds.each.unique mem mem']
  exact .same _

end Order

end Agent

/-! ## Answers under the key of an invitation -/

section Answering

variable [suite : Suite] [chance : Chance]

namespace Agent

/-- After a run an agent has an invitation for many that is still open, and the key of its routing. -/
structure Serves (a : Agent) (xs : List Operation) (d : Connection) (i : Invitation) (s : Routing) :
    Prop where
  copies : ∀ id, a.CopiesRead id xs
  stored : (a.after xs).connections.find? d.id = some d
  stage : d.At i .responder .invitationSent none none none
  many : d.multiUse = true
  tells : i.Tells s
  sound : s.Sound
  form : (a.after xs).settings.exchangeForm = .hashAndDocument
  held : (a.after xs).wallet.holds s.recipientKey = true

variable {a : Agent} {xs : List Operation} {c d : Connection} {i : Invitation} {r s own : Routing}
  {p q : PeerDid}

/-- It still has them after a step that leaves the connection of the invitation. -/
theorem Serves.goes (h : a.Serves xs d i s) (y : Action) {n : Nat} {more : List DidRecord}
    {cs : List Connection} (read : (a.after xs).connections.find? c.id = some c) {b : Agent}
    (run : ((y.step c).run (a.after xs)).2 = b) (moves : Moves (a.after xs) b n more cs)
    (stays : d ∈ b.connections.records) :
    a.Serves (xs ++ [.on c y]) d i s ∧ a.after (xs ++ [.on c y]) = b := by
  have after : a.after (xs ++ [.on c y]) = b := (after_append a xs _).trans run
  refine ⟨⟨fun id => (h.copies id).append (fun own => own ▸ read) y, ?_, h.stage, h.many, h.tells,
    h.sound, ?_, ?_⟩, after⟩
  · rw [after]
    exact Store.find?_eq_some.mpr ⟨stays, rfl⟩
  · rw [after, moves.settings]
    exact h.form
  · rw [after, moves.wallet]
    exact h.held

/-- It takes a request in that tells a new DID. -/
theorem Serves.takes (h : a.Serves xs d i s) (own : Routing) (sound : r.Sound) {x y : String}
    (told : r.peerDid .hashAndDocument x y = .ok p) (new : (a.after xs).dids.find? p.did = none)
    (fork : (a.after xs).connections.find? (chance.uuid (a.after xs).draws.ids) = none)
    (id label : String) :
    ∃ ys c record, a.Serves (xs ++ ys) d i s ∧ c.id = chance.uuid (a.after xs).draws.ids ∧
      c.At i .responder .requestReceived none (some p.did) (some id) ∧ c.mediatorId = own.mediatorId ∧
      record.Of .received p r ∧
      Moves (a.after xs) (a.after (xs ++ ys)) 1 [record] ((a.after xs).connections.records ++ [c]) := by
  let m := Request.new id label i.id p.did
  have form : PeerForm.hashAndDocument ≠ .inceptionKey := nofun
  obtain ⟨derivable, read, -⟩ := Routing.peerDid_read sound told
  have answers : Answers (a.after xs) d m p r := by
    refine ⟨h.stage.role, h.stage.state, ?_, rfl, Routing.made_of_peerDid sound form told, ?_, new⟩
    · rw [Connection.invitationId_eq h.stage.invitation]
      exact ⟨rfl, rfl⟩
    · exact theirPeerDid_derivable derivable read []
  obtain ⟨c, b, record, taken, hc, isOf, moves⟩ := processRequest_fork own answers h.many fork
  have stays : d ∈ b.connections.records :=
    moves.connections ▸ List.mem_append_left _ (Store.find?_eq_some.mp h.stored).1
  obtain ⟨serves, after⟩ :=
    h.goes (.processRequest m (some own)) h.stored (Step.done_state taken) moves stays
  have stage : c.At i .responder .requestReceived none (some p.did) (some id) :=
    hc ▸ ⟨h.stage.invitation, h.stage.role, rfl, rfl, rfl, rfl⟩
  exact ⟨_, c, record, serves, hc ▸ rfl, stage, hc ▸ rfl, isOf, after ▸ moves⟩

/-- It answers a request without a routing, and so under one more DID for the key of the invitation. -/
theorem Serves.responds (lawful : suite.Lawful) (h : a.Serves xs d i s) {front : List Connection}
    {theirDid : Option String} {thread : String}
    (last : (a.after xs).connections.records = front ++ [c]) (other : c.id ≠ d.id)
    (stage : c.At i .responder .requestReceived none theirDid (some thread))
    (mediator : c.mediatorId = s.mediatorId)
    (made : s.invited.peerDid .hashAndDocument (chance.uuid (a.after xs).draws.ids)
      (chance.uuid ((a.after xs).draws.ids + 1)) = .ok q)
    (new : (a.after xs).dids.find? q.did = none) :
    ∃ ys c' record, a.Serves (xs ++ ys) d i s ∧ c'.id = c.id ∧ c'.did = some q.did ∧
      record.Of .created q s.invited ∧
      Moves (a.after xs) (a.after (xs ++ ys)) 4 [record] (front ++ [c']) := by
  have form : PeerForm.hashAndDocument ≠ .inceptionKey := nofun
  have tells : Tells (a.after xs) s.invited q s.recipientKey := by
    refine ⟨h.sound.invited, ?_, ?_, new, h.sound.recipient.signs, h.held⟩
    · rw [h.form]
      exact form
    · rw [h.form]
      exact made
  obtain ⟨m, b, attachment, record, sent, -, -, -, isOf, moves⟩ :=
    createResponse_run lawful tells last stage.role stage.state stage.thread stage.invitation
      (h.tells.requireKey h.sound) (h.tells.responseRouting_eq h.sound mediator _)
  have read : (a.after xs).connections.find? c.id = some c := Store.find?_last last
  have stays : d ∈ b.connections.records := by
    have there := (Store.find?_eq_some.mp h.stored).1
    rw [last, List.mem_append, List.mem_singleton] at there
    rw [moves.connections]
    exact List.mem_append_left _ (there.resolve_right fun same => other (congrArg Connection.id same).symm)
  obtain ⟨serves, after⟩ := h.goes (.createResponse none) read (Step.done_state sent) moves stays
  exact ⟨_, (c.responseSent s.invited q.did).next, record, serves, rfl, rfl, isOf, after ▸ moves⟩

/-- The connection that was made for a request goes by a new DID for the key of the invitation. -/
structure Answered (b b' : Agent) (s : Routing) (p q : PeerDid) (c : Connection)
    (record record' : DidRecord) : Prop where
  id : c.id = chance.uuid b.draws.ids
  did : c.did = some q.did
  theirs : record.did = p.did
  own : record'.did = q.did
  found : b'.didsOfKey s.recipientKey = b.didsOfKey s.recipientKey ++ [record']
  moves : Moves b b' 5 [record, record'] (b.connections.records ++ [c])

/-- No other DIDs are stored then. -/
theorem Answered.unknown {b b' : Agent} {record record' : DidRecord}
    (h : Answered b b' s p q c record record') {did : String} (new : b.dids.find? did = none)
    (theirs : p.did ≠ did) (own : q.did ≠ did) : b'.dids.find? did = none := by
  refine Store.find?_eq_none_append h.moves.dids new (List.forall_mem_cons.mpr ⟨?_, ?_⟩)
  · exact fun same => theirs (h.theirs.symm.trans same)
  · exact List.forall_mem_singleton.mpr fun same => own (h.own.symm.trans same)

/-- Every request for the invitation can be answered so. -/
theorem Serves.answers (lawful : suite.Lawful) (h : a.Serves xs d i s)
    (direct : own.mediatorId = s.mediatorId) (sound : r.Sound) {x y : String}
    (told : r.peerDid .hashAndDocument x y = .ok p) (new : (a.after xs).dids.find? p.did = none)
    (fork : (a.after xs).connections.find? (chance.uuid (a.after xs).draws.ids) = none)
    (made : s.invited.peerDid .hashAndDocument (chance.uuid ((a.after xs).draws.ids + 1))
      (chance.uuid ((a.after xs).draws.ids + 1 + 1)) = .ok q)
    (new' : (a.after xs).dids.find? q.did = none) (apart : p.did ≠ q.did) :
    ∃ ys c record record', a.Serves (xs ++ ys) d i s ∧
      Answered (a.after xs) (a.after (xs ++ ys)) s p q c record record' := by
  obtain ⟨ys, c, record, serves, id, stage, mediator, isOf, moves⟩ :=
    h.takes own sound told new fork "request" "requester"
  have other : c.id ≠ d.id := fun same => by
    rw [← id, same, h.stored] at fork
    cases fork
  obtain ⟨zs, c', record', serves', id', did, isOf', moves'⟩ :=
    serves.responds lawful moves.connections other stage (mediator.trans direct) (moves.ids ▸ made)
      (moves.unknown isOf new' apart)
  refine ⟨ys ++ zs, c', record, record', ?_, id'.trans id, did, isOf.did, isOf'.did, ?_, ?_⟩
  · rw [← List.append_assoc]
    exact serves'
  · have received := didsOfKey_received moves.dids (List.forall_mem_singleton.mpr isOf.role) s.recipientKey
    have created := didsOfKey_created moves'.dids isOf'
    rw [← List.append_assoc, ← received]
    exact created
  · rw [← List.append_assoc]
    exact moves.then moves'

end Agent

end Answering

/-! ## A run -/

section Plain

attribute [local instance] Suite.plain Chance.counting

namespace Agent

/-- An agent without connections invites many to the key of a seed. -/
theorem plain_serves : ∃ (s : Routing) (i : Invitation) (d : Connection),
    plainManual.Serves [.invite s true none] d i s ∧ s.mediatorId = none ∧ d.id = Chance.uuid 1 ∧
      d.customTags = [] ∧ Moves plainManual (plainManual.after [.invite s true none]) 2 []
        (plainManual.connections.records ++ [d]) := by
  let s := Routing.plain [2] []
  have form : PeerForm.hashAndDocument ≠ .inceptionKey := nofun
  have host : Host (plain .hashAndDocument [2]) s := plain_host form [2] []
  obtain ⟨i, d, b, made, hi, hd, moves⟩ := createInvitation_run (a := plainManual) s true none rfl
  have after : plainManual.after [.invite s true none] = b := Step.done_state made
  rw [← after] at moves
  refine ⟨s, i, d, ?_, rfl, hd ▸ rfl, hd ▸ rfl, moves⟩
  refine ⟨fun _ => .of_none fun _ _ mem => ?_, ?_, ?_, hd ▸ rfl, ?_, host.sound, ?_, ?_⟩
  · cases List.mem_singleton.mp mem
  · exact Store.find?_eq_some.mpr ⟨moves.connections ▸ List.mem_singleton.mpr rfl, rfl⟩
  · exact hd ▸ ⟨rfl, rfl, rfl, rfl, rfl, rfl⟩
  · exact hi ▸ ⟨rfl, rfl, rfl⟩
  · rw [moves.settings]
    rfl
  · rw [moves.wallet]
    exact host.held

/-- Two requests for the invitation are answered, each on a connection of its own, under two DIDs for its
key. -/
theorem plain_shares_key : ∃ (xs : List Operation) (key : Key) (record record' : DidRecord)
    (c c' : Connection), (∀ id, plainManual.CopiesRead id xs) ∧
      (plainManual.after xs).didsOfKey key = [record, record'] ∧
      (plainManual.after xs).connectionOfDid record.did = .ok (some c) ∧
      (plainManual.after xs).connectionOfDid record'.did = .ok (some c') ∧ c ≠ c' := by
  obtain ⟨s, i, d, serves, direct, id, tags, moves⟩ := plain_serves
  have form : PeerForm.hashAndDocument ≠ .inceptionKey := nofun
  have theirs : (Routing.plain [1] []).Sound := (plain_host form [1] []).sound
  have own : s.invited.Sound := serves.sound.invited
  -- both forks get a key that is used for nothing
  have direct : (Routing.plain [3] []).mediatorId = s.mediatorId := direct.symm
  have empty (did : String) : (plainManual.after [.invite s true none]).dids.find? did = none :=
    Store.find?_eq_none_append moves.dids rfl (List.forall_mem_nil _)
  have alone (other : String) (apart : d.id ≠ other) :
      (plainManual.after [.invite s true none]).connections.find? other = none :=
    Store.find?_eq_none_append moves.connections rfl (List.forall_mem_singleton.mpr apart)
  -- the DIDs of the requesters, and the two that are made for them
  obtain ⟨p, hp, -⟩ := Routing.peerDid_made theirs form "1" "2"
  obtain ⟨p', hp', -⟩ := Routing.peerDid_made theirs form "3" "4"
  obtain ⟨q, hq, -⟩ := Routing.peerDid_made own form (Chance.uuid 3) (Chance.uuid 4)
  obtain ⟨q', hq', -⟩ := Routing.peerDid_made own form (Chance.uuid 8) (Chance.uuid 9)
  have apart : q.did ≠ q'.did := Routing.peerDid_ne own own hq hq' (by decide)
  -- the first request and the answer to it
  obtain ⟨ys, c, record₁, record, serves₁, first⟩ :=
    serves.answers Suite.plain_lawful direct theirs hp (empty _)
      (moves.ids ▸ alone (Chance.uuid 2) (id ▸ by decide)) (by rw [moves.ids]; exact hq) (empty _)
      (Routing.peerDid_ne theirs own hp hq (by decide))
  have ids : (plainManual.after ([.invite s true none] ++ ys)).draws.ids = 7 :=
    first.moves.ids.trans (congrArg (· + 5) moves.ids)
  have id₁ : c.id = Chance.uuid 2 := first.id.trans (congrArg Chance.uuid moves.ids)
  have alone₁ : (plainManual.after ([.invite s true none] ++ ys)).connections.find? (Chance.uuid 7)
      = none := by
    refine Store.find?_eq_none_append first.moves.connections (alone _ (id ▸ by decide)) ?_
    exact List.forall_mem_singleton.mpr fun same => absurd (id₁.symm.trans same) (by decide)
  -- the second request and the answer to it
  have new := first.unknown (empty p'.did) (Routing.peerDid_ne theirs theirs hp hp' (by decide))
    (Routing.peerDid_ne own theirs hq hp' (by decide))
  have new' := first.unknown (empty q'.did) (Routing.peerDid_ne theirs own hp hq' (by decide)) apart
  obtain ⟨zs, c', record₂, record', serves₂, second⟩ :=
    serves₁.answers Suite.plain_lawful direct theirs hp' new (ids ▸ alone₁) (by rw [ids]; exact hq') new'
      (Routing.peerDid_ne theirs own hp' hq' (by decide))
  have id₂ : c'.id = Chance.uuid 7 := second.id.trans (congrArg Chance.uuid ids)
  -- where the two DIDs of the key lead
  have stored (z : Connection) :
      z ∈ (plainManual.after ([.invite s true none] ++ ys ++ zs)).connections.records ↔
        z = d ∨ z = c ∨ z = c' := by
    rw [second.moves.connections, first.moves.connections, moves.connections]
    simp [plainManual, plain, Store.empty]
  have waiting (did : String) : (Query.on "did" did).accepts d.tags = false := by
    refine Bool.eq_false_iff.mpr fun accepted => ?_
    cases serves.stage.did.symm.trans ((Connection.accepts_did tags).mp accepted)
  have elsewhere {z : Connection} {own did : String} (h : z.did = some own) (apart : own ≠ did) :
      (Query.on "did" did).accepts z.tags = false :=
    Bool.eq_false_iff.mpr fun accepted => apart ((Connection.accepts_did_of_some h).mp accepted)
  have dids := second.found
  rw [first.found, didsOfKey_received moves.dids (List.forall_mem_nil _)] at dids
  refine ⟨_, s.recipientKey, record, record', c, c', serves₂.copies, dids, ?_, ?_, ?_⟩
  · rw [first.own]
    refine connectionOfDid_eq ((stored c).mpr (.inr (.inl rfl))) first.did fun z there other => ?_
    rcases (stored z).mp there with rfl | rfl | rfl
    · exact waiting _
    · exact absurd rfl other
    · exact elsewhere second.did apart.symm
  · rw [second.own]
    refine connectionOfDid_eq ((stored c').mpr (.inr (.inr rfl))) second.did fun z there other => ?_
    rcases (stored z).mp there with rfl | rfl | rfl
    · exact waiting _
    · exact elsewhere first.did apart
    · exact absurd rfl other
  · rintro rfl
    exact absurd (id₁.symm.trans id₂) (by decide)

/-- It is not so that a key leads to the same connection in whatever order DIDs are stored. -/
theorem not_always_orderFree : ¬ ∀ (a : Agent) (xs : List Operation) (key : Key),
    a.connections.records = [] → a.dids.records = [] → (∀ id, a.CopiesRead id xs) →
    (a.after xs).OrderFree key := by
  intro always
  obtain ⟨xs, key, record, record', c, c', copies, dids, leads, leads', other⟩ := plain_shares_key
  have free := always plainManual xs key rfl rfl copies
  have found := free.leads (dids ▸ List.mem_cons_self) (leads ▸ nofun)
  have found' := free.leads (dids ▸ List.mem_cons_of_mem _ List.mem_cons_self) (leads' ▸ nofun)
  have same := found.symm.trans found'
  rw [leads, leads'] at same
  cases same
  exact other rfl

end Agent

end Plain

end Pairwise
