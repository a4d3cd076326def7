import Pairwise.Proofs.Acceptance
import Pairwise.Proofs.Courses
import Pairwise.Proofs.RotationTurns
/-!
# Where the DIDs of connections lead

Whoever is asked for the key of a DID goes from the key to the DID, and from the DID to the connection that
goes or went by it. Both steps give one answer in every run in which new DIDs are new, each with a key that
no other has, and in which nobody was asked to use the DID of another connection.

Results:
* `Agent.MakesNew`, `Agent.Unshared`: what must be so in a run.
* `Agent.OneKeyEach`, `Agent.FindsOwn`: what is so at each of its points.
* `own_dids_lead_back`: the key of every DID that a connection goes or went by leads to the connection.
* `Agent.Tends`: a run of one connection in which it is so; `Tends.requests`, `Tends.completes` and
  `Tends.rotates` say how such a run goes on.
-/
namespace Pairwise

open Step

section Holding

variable [suite : Suite] [chance : Chance]

namespace Agent

/-! ## DIDs and their keys -/

omit chance in
/-- The DID is not stored yet, and its routing has an endpoint and a key that is for no DID. -/
structure NewDid (a : Agent) (r : Routing) (p : PeerDid) : Prop where
  endpoints : r.endpoints ≠ []
  unused : a.didsOfKey r.toldKey = []
  unknown : a.dids.find? p.did = none

/-- Every DID that an action makes is new then. -/
def NewFor (a : Agent) (c : Connection) (y : Action) : Prop :=
  ∀ r form p, y.Tells a c r form → ((createPeerDid r form).run a).1 = .ok p → a.NewDid r p

omit chance in
/-- Every DID of the agent's own is found by a key of its own. -/
def OneKeyEach (a : Agent) : Prop :=
  ∀ record ∈ a.dids.records, record.role = .created →
    ∃ key, record.IsFor key ∧ a.didsOfKey key = [record]

variable {a a' b : Agent} {c : Connection} {y : Action}

omit chance in
/-- DIDs of others are found by no key. -/
theorem OneKeyEach.gathers (h : a.OneKeyEach) (gathers : Gathers a a') : a'.OneKeyEach := by
  obtain ⟨more, records, received⟩ := gathers
  intro record mem created
  rw [records, List.mem_append] at mem
  rcases mem with before | new
  · obtain ⟨key, isFor, own⟩ := h record before created
    exact ⟨key, isFor, (didsOfKey_received records received key).trans own⟩
  · cases created.symm.trans (received record new)

omit chance in
/-- A DID is found by its key, and by no key that is for another. -/
theorem OneKeyEach.snoc (h : a.OneKeyEach) {record : DidRecord} {key : Key}
    (records : a'.dids.records = a.dids.records ++ [record]) (isFor : record.IsFor key)
    (unused : a.didsOfKey key = []) : a'.OneKeyEach := by
  have accepts (k : Key) : ((Query.on "role" DidRole.created.name).and "recipientKeyFingerprints"
      k.fingerprint).accepts record.tags = true ↔ k.fingerprint = key.fingerprint := by
    rw [DidRecord.accepts_key, isFor.fingerprints, List.mem_singleton]
    exact and_iff_right isFor.role
  intro old mem created
  rw [records, List.mem_append, List.mem_singleton] at mem
  rcases mem with before | rfl
  · obtain ⟨k, isFor', own⟩ := h old before created
    refine ⟨k, isFor', ?_⟩
    rw [didsOfKey_append records, List.filter_eq_nil_iff.mpr, List.append_nil, own]
    intro new mem accepted
    cases List.mem_singleton.mp mem
    have same := (accepts k).mp accepted
    rw [didsOfKey, same] at own
    cases unused.symm.trans own
  · refine ⟨key, isFor, ?_⟩
    rw [didsOfKey_append records, unused, List.filter_cons, if_pos ((accepts key).mpr rfl)]
    rfl

/-! ## What an action stores -/

/-- A new DID that an action makes is stored for the key of its routing. -/
theorem stores_made {r : Routing} {form : PeerForm} {p : PeerDid} (tells : y.Tells a c r form)
    (made : ((createPeerDid r form).run a).1 = .ok p) (new : a.NewDid r p) :
    ∃ record, ((y.step c).run a).2.dids.records = a.dids.records ++ [record] ∧ record.did = p.did ∧
      record.IsFor r.toldKey := by
  obtain ⟨record, records, named, isFor⟩ :=
    createPeerDid_isFor (Prod.ext made rfl) new.endpoints new.unknown
  exact ⟨record, tells.dids ▸ records, named, isFor⟩

/-- An action keeps the DIDs that are stored, and they stay found by keys of their own. -/
theorem OneKeyEach.acts (h : a.OneKeyEach) (new : a.NewFor c y) :
    ((y.step c).run a).2.OneKeyEach ∧ a.dids.records <+: ((y.step c).run a).2.dids.records := by
  have gathered (gathers : Gathers a ((y.step c).run a).2) : ((y.step c).run a).2.OneKeyEach ∧
      a.dids.records <+: ((y.step c).run a).2.dids.records := by
    refine ⟨h.gathers gathers, ?_⟩
    obtain ⟨more, records, -⟩ := gathers
    exact ⟨more, records.symm⟩
  by_cases told : ∃ r form, y.Tells a c r form
  · obtain ⟨r, form, tells⟩ := told
    rcases made : (createPeerDid r form).run a with ⟨e | p, a₁⟩
    · have same := tells.dids
      rw [made, createPeerDid_fails made] at same
      exact gathered (SameDids.gathers same)
    · have made : ((createPeerDid r form).run a).1 = .ok p := by rw [made]
      have new := new r form p tells made
      obtain ⟨record, records, -, isFor⟩ := stores_made tells made new
      exact ⟨h.snoc records isFor new.unused, [record], records.symm⟩
  · exact gathered (Action.gathers fun r form tells => told ⟨r, form, tells⟩)

/-! ## Connections and their DIDs -/

omit chance in
/-- Every DID that a connection holds is one of the agent's own, and is on no other connection, unless one
of the two was chosen for it. -/
structure FindsOwn (chosen : String → String → Prop) (a : Agent) : Prop where
  each : a.OneKeyEach
  held : ∀ c ∈ a.connections.records, ∀ did, c.Holds did →
    ∃ record, a.dids.find? did = some record ∧ record.role = .created
  apart : ∀ c ∈ a.connections.records, ∀ c' ∈ a.connections.records, ∀ did, c.Holds did →
    c'.Holds did → c' = c ∨ chosen c.id did ∨ chosen c'.id did

variable {chosen : String → String → Prop}

omit chance in
/-- More DIDs may be stored, and connections that hold none. -/
theorem FindsOwn.adds (h : FindsOwn chosen a) (each : a'.OneKeyEach)
    (dids : a.dids.records <+: a'.dids.records)
    (old : ∀ z ∈ a'.connections.records, z.Blank ∨ z ∈ a.connections.records) :
    FindsOwn chosen a' := by
  have before {z : Connection} {did : String} (mem : z ∈ a'.connections.records)
      (holds : z.Holds did) : z ∈ a.connections.records :=
    (old z mem).resolve_left fun blank => blank.holds holds
  refine ⟨each, fun z mem did holds => ?_, fun z mem z' mem' did holds holds' => ?_⟩
  · obtain ⟨record, found, created⟩ := h.held z (before mem holds) did holds
    exact ⟨record, Store.find?_of_prefix dids found, created⟩
  · exact h.apart z (before mem holds) z' (before mem' holds') did holds holds'

omit chance in
theorem FindsOwn.rests (h : FindsOwn chosen a) (rests : Rests a a') : FindsOwn chosen a' := by
  have keys (key : Key) : a'.didsOfKey key = a.didsOfKey key := by
    rw [didsOfKey, didsOfKey, rests.dids]
  refine h.adds (fun record mem created => ?_) (rests.dids ▸ List.prefix_rfl)
    fun z mem => .inr (rests.connections ▸ mem)
  obtain ⟨key, isFor, own⟩ := h.each record (rests.dids ▸ mem) created
  exact ⟨key, isFor, (keys key).trans own⟩

omit chance in
theorem FindsOwn.starts (h : FindsOwn chosen a) (starts : Starts a c a') : FindsOwn chosen a' := by
  have records := (Store.save_eq_ok.mp starts.saved).2
  have added : FindsOwn chosen { a with connections := a'.connections } := by
    refine h.adds h.each List.prefix_rfl fun z mem => ?_
    rcases List.mem_append.mp (records ▸ mem) with old | new
    · exact .inr old
    · exact .inl (List.mem_singleton.mp new ▸ starts.blank)
  exact added.rests ⟨rfl, starts.dids⟩

/-- A DID that an action puts on its connection is stored then. Another connection holds it only if it was
asked for. -/
theorem FindsOwn.gives (h : FindsOwn chosen a) (new : a.NewFor c y) {did : String}
    (gives : y.Gives a c did) (dids : a.dids.records <+: ((y.step c).run a).2.dids.records)
    (asked : ∀ mediators, y = .createRotate (.existing did mediators) → chosen c.id did) :
    (∃ record, ((y.step c).run a).2.dids.find? did = some record ∧ record.role = .created) ∧
      ((∃ z ∈ a.connections.records, z.Holds did) → chosen c.id did) := by
  cases gives with
  | makes tells made =>
    have new := new _ _ _ tells made
    obtain ⟨record, records, named, isFor⟩ := stores_made tells made new
    refine ⟨⟨record, Store.find?_eq_some.mpr ⟨?_, named⟩, isFor.role⟩, fun ⟨z, mem, holds⟩ => ?_⟩
    · rw [records]
      exact List.mem_append_right _ (List.mem_singleton.mpr rfl)
    · obtain ⟨known, found, -⟩ := h.held z mem _ holds
      cases new.unknown.symm.trans found
  | chooses found created =>
    exact ⟨⟨_, Store.find?_of_prefix dids found, created⟩, fun _ => asked _ rfl⟩

/-- Whatever an agent does with the stored connection, or with a faithful copy of it, all of its connections
hold DIDs of their own as before. -/
theorem FindsOwn.acts (h : FindsOwn chosen a) (faithful : a.Faithful c.id c) (new : a.NewFor c y)
    (asked : ((y.step c).run a).1 = .ok () → ∀ did mediators,
      y = .createRotate (.existing did mediators) → chosen c.id did) :
    FindsOwn chosen ((y.step c).run a).2 := by
  obtain ⟨each, dids⟩ := h.each.acts new
  have gives {did : String} (done : ((y.step c).run a).1 = .ok ()) (gives : y.Gives a c did) :=
    h.gives new gives dids (asked done did)
  generalize run : (y.step c).run a = out at *
  obtain ⟨result, a'⟩ := out
  cases Action.leaves run with
  | fails quiet => exact h.adds each dids fun z mem => .inr (quiet.connections ▸ mem)
  | refuses quiet => exact h.adds each dids fun z mem => .inr (quiet.connections ▸ mem)
  | forks many taken saved blank =>
    refine h.adds each dids fun z mem => ?_
    rw [(Store.save_eq_ok.mp saved).2, List.mem_append, List.mem_singleton] at mem
    exact mem.elim .inr fun same => .inl (same ▸ blank)
  | @revises _ next _ stores same revises =>
    have source := Store.find?_eq_some.mp (Stores.source faithful stores same rfl)
    have own := same.1
    -- what the revised connection holds, it held before or was given
    have held {did : String} (holds : next.next.Holds did) : c.Holds did ∨ y.Gives a c did :=
      revises.holds did holds
    have apart {did : String} {z : Connection} (holds : next.next.Holds did)
        (mem : z ∈ a.connections.records) (other : z.id ≠ next.id) (holds' : z.Holds did) :
        chosen next.id did ∨ chosen z.id did := by
      rw [own] at other ⊢
      rcases held holds with before | given
      · exact (h.apart c source.1 z mem did before holds').resolve_left
          fun same => other (congrArg Connection.id same)
      · exact .inl ((gives rfl given).2 ⟨z, mem, holds'⟩)
    refine ⟨each, fun z mem did holds => ?_, fun z mem z' mem' did holds holds' => ?_⟩
    · rcases stores.mem mem with rfl | ⟨-, old⟩
      · rcases held holds with before | given
        · obtain ⟨record, found, created⟩ := h.held c source.1 did before
          exact ⟨record, Store.find?_of_prefix dids found, created⟩
        · exact (gives rfl given).1
      · obtain ⟨record, found, created⟩ := h.held z old did holds
        exact ⟨record, Store.find?_of_prefix dids found, created⟩
    · rcases stores.mem mem with rfl | ⟨other, old⟩ <;>
        rcases stores.mem mem' with rfl | ⟨other', old'⟩
      · exact .inl rfl
      · exact .inr (apart holds old' other' holds')
      · exact .inr (apart holds' old other holds).symm
      · exact h.apart z old z' old' did holds holds'

/-! ## Runs -/

variable {xs : List Operation} {n : Nat}

/-- Every DID that the agent makes in a run is new then: it is not stored yet, and its routing has an
endpoint and a key that is for no DID. -/
def MakesNew (a : Agent) (xs : List Operation) : Prop :=
  ∀ (n : Nat) (x : Operation) (b : Agent) (c : Connection) (y : Action), xs[n]? = some x →
    x.Asks (a.after (xs.take n)) b c y → b.NewFor c y

/-- In a run a rotation to the DID was asked for on the connection of an id. -/
def Chosen (a : Agent) (xs : List Operation) (id did : String) : Prop :=
  ∃ mediators, a.Performed xs id 0 xs.length (.createRotate (.existing did mediators))

/-- A DID that was asked for on a connection is on no other after the run. -/
def Unshared (a : Agent) (xs : List Operation) : Prop :=
  ∀ c ∈ (a.after xs).connections.records, ∀ did ∈ c.ownDids, a.Chosen xs c.id did →
    ∀ c' ∈ (a.after xs).connections.records, did ∈ c'.ownDids → c' = c

/-- All connections hold DIDs of their own at every point of a run. -/
theorem findsOwn (connections : a.connections.records = []) (dids : a.dids.records = [])
    (copies : ∀ id, a.CopiesRead id xs) (new : a.MakesNew xs) (hn : n ≤ xs.length) :
    FindsOwn (a.Chosen xs) (a.after (xs.take n)) := by
  refine along (P := FindsOwn (a.Chosen xs)) ?_ (fun _ _ rests h => h.rests rests) ?_ ?_ ?_ hn
  · refine ⟨?_, ?_, ?_⟩
    · rw [OneKeyEach, dids]
      exact List.forall_mem_nil _
    · rw [connections]
      exact List.forall_mem_nil _
    · rw [connections]
      exact List.forall_mem_nil _
  · exact fun _ _ _ _ _ _ _ _ h made => h.starts (createInvitation_starts made).1
  · exact fun _ _ _ _ _ _ h taken => h.starts (receiveInvitation_starts taken).1
  · intro n x b c y at_ before asks h
    refine h.acts (asks.faithful fun c' y' direct => ?_) (new n x b c y at_ asks) ?_
    · exact (copies c.id).faithful (at_.trans (congrArg some direct))
    · rintro done did mediators rfl
      obtain ⟨rfl, rfl⟩ := asks.direct
      have lt : n < xs.length := (List.getElem?_eq_some_iff.mp at_).1
      exact ⟨mediators, n, Nat.zero_le n, lt, _, at_, c, .on c _, rfl, done⟩

/-- Whatever an agent that begins without connections and DIDs is asked to do, and whatever envelopes it
receives: a DID that one of its connections goes or went by is stored as one of its own, and the key that
the document of the DID tells leads to the connection. -/
theorem own_dids_lead_back (connections : a.connections.records = []) (dids : a.dids.records = [])
    (copies : ∀ id, a.CopiesRead id xs) (new : a.MakesNew xs) (unshared : a.Unshared xs)
    (there : c ∈ (a.after xs).connections.records) {did : String} (mem : did ∈ c.ownDids) :
    ∃ record key, (a.after xs).dids.find? did = some record ∧ record.IsFor key ∧
      (a.after xs).connectionOfKey key = .ok (some c) := by
  have finds := findsOwn connections dids copies new (Nat.le_refl xs.length)
  have regular := regular connections copies (Nat.le_refl xs.length)
  rw [List.take_length] at finds regular
  obtain ⟨record, found, created⟩ := finds.held c there did (.inl mem)
  obtain ⟨known, named⟩ := Store.find?_eq_some.mp found
  obtain ⟨key, isFor, own⟩ := finds.each record known created
  refine ⟨record, key, found, isFor, ?_⟩
  have named : record.did = did := named
  have others {z : Connection} (there' : z ∈ (a.after xs).connections.records)
      (other : z.id ≠ c.id) : did ∉ z.ownDids := by
    intro mem'
    refine other (congrArg Connection.id ?_)
    rcases finds.apart c there z there' did (.inl mem) (.inl mem') with same | chosen | chosen
    · exact same
    · exact unshared c there did mem chosen z there' mem'
    · exact (unshared z there' did mem' chosen c there mem).symm
  refine connectionOfKey_asked own there
    (named ▸ (Connection.mem_ownDids (regular c there).tags).mp mem) fun z there' other => ?_
  have unasked := mt (Connection.mem_ownDids (regular z there').tags).mpr (others there' other)
  rw [not_or, Bool.not_eq_true, Bool.not_eq_true] at unasked
  rw [named]
  exact unasked

end Agent

end Holding

/-! ## Runs in which every DID is new -/

section Tending

variable [suite : Suite] [chance : Chance]

namespace Agent

variable {a b : Agent} {xs : List Operation} {front : List Connection} {c c' : Connection} {y : Action}
  {i : Invitation} {r s : Routing} {p q : PeerDid}

/-- The next DID of a sound routing is new, if it is not stored and the key of the routing is for none. -/
theorem NewDid.of_sound (sound : r.Sound) {form : PeerForm} (hform : form ≠ .inceptionKey)
    (unused : a.didsOfKey r.recipientKey = [])
    (new : ∀ q, r.peerDid form (chance.uuid a.draws.ids) (chance.uuid (a.draws.ids + 1)) = .ok q →
      a.dids.find? q.did = none)
    (made : ((createPeerDid r form).run a).1 = .ok p) : a.NewDid r p := by
  obtain ⟨q, a', record, hq, -, run, -⟩ := createPeerDid_run sound hform new
  rw [run] at made
  cases made
  refine ⟨sound.endpoints, ?_, new p hq⟩
  rw [Routing.toldKey_of_signs sound.recipient.signs]
  exact unused

/-- A run goes on with what makes new DIDs only. -/
theorem MakesNew.append (h : a.MakesNew xs) {x : Operation}
    (new : ∀ b c y, x.Asks (a.after xs) b c y → b.NewFor c y) : a.MakesNew (xs ++ [x]) := by
  intro n x' b c y at_ asks
  rcases Nat.lt_trichotomy n xs.length with lt | rfl | gt
  · rw [List.getElem?_append_left lt] at at_
    rw [List.take_append_of_le_length (Nat.le_of_lt lt)] at asks
    exact h n x' b c y at_ asks
  · rw [List.getElem?_append_right (Nat.le_refl _), Nat.sub_self] at at_
    cases at_
    rw [List.take_left] at asks
    exact new b c y asks
  · rw [List.getElem?_eq_none (by rw [List.length_append]; exact gt)] at at_
    cases at_

/-- What a run ends with was performed in it. -/
theorem performed_last (done : ((y.step c).run (a.after xs)).1 = .ok ()) :
    a.Performed (xs ++ [.on c y]) c.id 0 (xs ++ [Operation.on c y]).length y := by
  refine ⟨xs.length, Nat.zero_le _, ?_, _, List.getElem?_concat_length, c, .on c y, rfl, ?_⟩
  · rw [List.length_append]
    exact Nat.lt_succ_self _
  · rw [List.take_left]
    exact done

/-- In a run all copies were read, all new DIDs were new, and no DID was asked for. The connection is stored
after it. -/
structure Tends (a : Agent) (xs : List Operation) (c : Connection) : Prop where
  copies : ∀ id, a.CopiesRead id xs
  new : a.MakesNew xs
  unasked : ∀ z did mediators, Operation.on z (.createRotate (.existing did mediators)) ∉ xs
  stored : (a.after xs).connections.find? c.id = some c

theorem Tends.unshared (h : a.Tends xs c) : a.Unshared xs := by
  rintro z - did - ⟨mediators, n, -, -, x, at_, z', calls, -⟩
  cases calls with
  | on => exact absurd (List.mem_of_getElem? at_) (h.unasked z' did mediators)
  | @receives e m _ _ brings asks => cases m <;> cases asks

/-- Such a run begins when an invitation is taken in. -/
theorem Tends.accepts {autoAccept : Option Bool}
    (taken : (receiveInvitation i autoAccept).run a = (.ok c, b))
    (stored : b.connections.find? c.id = some c) :
    a.Tends [.accept i autoAccept] c ∧ a.after [.accept i autoAccept] = b := by
  have after : a.after [.accept i autoAccept] = b := Step.done_state taken
  refine ⟨⟨fun id => .of_none fun z y mem => ?_, ?_, fun z did mediators mem => ?_, after ▸ stored⟩, after⟩
  · cases List.mem_singleton.mp mem
  · intro n x b c y at_ asks
    cases n with
    | zero =>
      cases at_
      cases asks
    | succ n => cases at_
  · cases List.mem_singleton.mp mem

/-- It goes on with an action that asks for no DID and makes new ones only. -/
theorem Tends.goes (h : a.Tends xs c) (new : (a.after xs).NewFor c y)
    (unasked : ∀ did mediators, y ≠ .createRotate (.existing did mediators))
    (run : ((y.step c).run (a.after xs)).2 = b) (stored : b.connections.find? c'.id = some c') :
    a.Tends (xs ++ [.on c y]) c' ∧ a.after (xs ++ [.on c y]) = b := by
  have after : a.after (xs ++ [.on c y]) = b := (after_append a xs _).trans run
  refine ⟨⟨fun id => (h.copies id).append (fun own => own ▸ h.stored) y, ?_, ?_, after ▸ stored⟩, after⟩
  · refine h.new.append fun b' z y' asks => ?_
    cases asks
    exact new
  · intro z did mediators mem
    rcases List.mem_append.mp mem with before | last
    · exact h.unasked z did mediators before
    · cases List.mem_singleton.mp last
      exact unasked did mediators rfl

/-- The agent makes a request, under a new DID. -/
theorem Tends.requests (lawful : suite.Lawful) (h : a.Tends xs c)
    (last : (a.after xs).connections.records = front ++ [c]) (plain : c.Plain)
    (stage : c.At i .requester .invitationReceived none none none)
    (tells : Tells (a.after xs) r p r.recipientKey)
    (unused : (a.after xs).didsOfKey r.recipientKey = []) :
    ∃ ys c' record thread, a.Tends (xs ++ ys) c' ∧ c'.Plain ∧
      c'.At i .requester .requestSent (some p.did) none (some thread) ∧ record.Of .created p r ∧
      Moves (a.after xs) (a.after (xs ++ ys)) 4 [record] (front ++ [c']) := by
  obtain ⟨m, b, attachment, record, asked, -, -, -, isOf, moves⟩ :=
    createRequest_run lawful tells last stage.role stage.state stage.invitation {}
  have new : (a.after xs).NewFor c (.createRequest r {}) := by
    intro r' form q told made
    cases told
    refine .of_sound tells.sound tells.form unused (fun q hq => ?_) made
    cases tells.peer.symm.trans hq
    exact tells.new
  obtain ⟨tends, after⟩ := h.goes new (fun _ _ => Action.noConfusion) (Step.done_state asked)
    (Store.find?_last moves.connections)
  exact ⟨_, _, record, m.id, tends, plain,
    ⟨stage.invitation, stage.role, rfl, rfl, stage.theirDid, rfl⟩, isOf, after ▸ moves⟩

/-- It takes the response in, which tells a new DID of the counterparty's, and completes the exchange. -/
theorem Tends.completes (h : a.Tends xs c) (last : (a.after xs).connections.records = front ++ [c])
    (plain : c.Plain) {did : Option String} {thread : String}
    (stage : c.At i .requester .requestSent did none (some thread)) {keys : List Key}
    (read : i.recipients = .ok keys) (sound : s.Sound) {x y : String}
    (told : s.peerDid .hashAndDocument x y = .ok q) (new : (a.after xs).dids.find? q.did = none)
    (id : String) :
    ∃ ys c' record, a.Tends (xs ++ ys) c' ∧ c'.Plain ∧
      c'.At i .requester .completed did (some q.did) (some thread) ∧ record.Of .received q s ∧
      Moves (a.after xs) (a.after (xs ++ ys)) 1 [record] (front ++ [c']) := by
  have form : PeerForm.hashAndDocument ≠ .inceptionKey := nofun
  obtain ⟨derivable, own, -⟩ := Routing.peerDid_read sound told
  obtain ⟨b, record, taken, isOf, moves⟩ := processResponse_run (m := .new id q.did thread)
    (Routing.made_of_peerDid sound form told) rfl stage.invitation read
    (theirPeerDid_derivable derivable own keys) new last stage.role stage.state stage.thread
  obtain ⟨tends, after⟩ := h.goes (y := .processResponse (.new id q.did thread))
    (fun _ _ _ tells => nomatch tells) (fun _ _ => Action.noConfusion) (Step.done_state taken)
    (Store.find?_last moves.connections)
  obtain ⟨m, b', sent, -, moves'⟩ := createComplete_run (a := b) moves.connections stage.role rfl
    stage.thread stage.invitation
  obtain ⟨tends', after'⟩ := tends.goes (y := .createComplete) (fun _ _ _ tells => nomatch tells)
    (fun _ _ => Action.noConfusion) (after ▸ Step.done_state sent) (Store.find?_last moves'.connections)
  rw [List.append_assoc] at tends' after'
  exact ⟨_, _, record, tends', plain, ⟨stage.invitation, stage.role, rfl, stage.did, rfl, stage.thread⟩,
    isOf, after' ▸ moves.then moves'⟩

/-- It rotates to a new DID, and takes the acknowledgement of that in. The connection goes by the new DID
then, and remembers the one before. -/
theorem Tends.rotates (h : a.Tends xs c) (completed : c.state = .completed)
    (free : c.pendingRotation = .ok none) (ready : (a.after xs).Ready r)
    (form : (a.after xs).settings.rotationForm ≠ .inceptionKey)
    (new : ∀ p, r.peerDid (a.after xs).settings.rotationForm (chance.uuid (a.after xs).draws.ids)
      (chance.uuid ((a.after xs).draws.ids + 1)) = .ok p → (a.after xs).dids.find? p.did = none)
    (id : String) :
    ∃ ys c' p n, a.Tends (xs ++ ys) c' ∧
      a.Performed (xs ++ ys) c'.id 0 (xs ++ ys).length (.processRotateAck n) ∧
      r.peerDid (a.after xs).settings.rotationForm (chance.uuid (a.after xs).draws.ids)
        (chance.uuid ((a.after xs).draws.ids + 1)) = .ok p ∧
      c'.did = some p.did ∧ ∀ did, c.did = some did → did ∈ c'.previousDids := by
  obtain ⟨p, thread, b, hp, announced⟩ := createRotate_run ready form h.stored completed free new
  let c₁ := (c.noteRotation ⟨thread, p.did, r.mediatorId⟩).next
  obtain ⟨-, mediator, stores⟩ := createRotate_notes announced
  have newFor : (a.after xs).NewFor c (.createRotate (.routing r)) := by
    intro r' form' p' told made
    cases told
    exact .of_sound ready.sound form ready.unused new made
  have direct (did : String) (mediators : List Mediator) :
      Action.createRotate (.routing r) ≠ .createRotate (.existing did mediators) := nofun
  have stored₁ : b.connections.find? c₁.id = some c₁ := stores.find?_self
  obtain ⟨tends, after⟩ := h.goes newFor direct (Step.done_state announced) stored₁
  let n : RotateAck := .new id thread .ok
  have pending : c₁.pendingRotation = .ok (some _) := c.pendingRotation_noteRotation _
  obtain ⟨next, b', taken⟩ := processRotateAck_run (c := c₁) (n := n) completed pending rfl stored₁
  obtain ⟨-, rotation, waited, -, stores'⟩ := processRotateAck_ok taken
  cases pending.symm.trans waited
  obtain rfl := stores'.stored_eq
  let c₂ := (c₁.commitRotation ⟨thread, p.did, r.mediatorId⟩).next
  have stored₂ : b'.connections.find? c₂.id = some c₂ := stores'.find?_next
  obtain ⟨tends', -⟩ := tends.goes (y := .processRotateAck n) (fun _ _ _ tells => nomatch tells)
    (fun _ _ => Action.noConfusion) (after ▸ Step.done_state taken) stored₂
  have done : ((Action.processRotateAck n).step c₁).run b = (.ok (), b') := Step.done_ok.mpr ⟨_, taken⟩
  have performed := performed_last (a := a) (after ▸ congrArg Prod.fst done)
  rw [List.append_assoc] at tends' performed
  exact ⟨_, _, p, n, tends', performed, hp, rfl, fun did own => Connection.mem_remember.mpr (.inl own)⟩

end Agent

end Tending

/-! ## A run -/

section Plain

attribute [local instance] Suite.plain Chance.counting

namespace Agent

/-- An agent has completed the exchange for an invitation that it took in first. It has a key that it has
made no DID for, and the DID that it would rotate to with it is a new one. -/
structure Exchanged (a : Agent) (xs : List Operation) (c : Connection) (p : PeerDid) (r : Routing) :
    Prop where
  connections : a.connections.records = []
  dids : a.dids.records = []
  tends : a.Tends xs c
  plain : c.Plain
  state : c.state = .completed
  did : c.did = some p.did
  ready : (a.after xs).Ready r
  form : (a.after xs).settings.rotationForm = .hashAndDocument
  new : ∀ q, r.peerDid .hashAndDocument (Chance.uuid (a.after xs).draws.ids)
    (Chance.uuid ((a.after xs).draws.ids + 1)) = .ok q →
      (a.after xs).dids.find? q.did = none ∧ p.did ≠ q.did

theorem plain_exchanged : ∃ a xs c p r, Exchanged a xs c p r := by
  let a : Agent := { plain .hashAndDocument [1] with wallet := (({} : Wallet).add [1]).add [2] }
  let r := Routing.plain [1] []
  let r' := Routing.plain [2] []
  let s := Routing.plain [3] []
  let i := invitationOf s "invitation" "Alice"
  have form : PeerForm.hashAndDocument ≠ .inceptionKey := nofun
  have sound : r.Sound := (plain_host form [1] []).sound
  have sound' : r'.Sound := (plain_host form [2] []).sound
  have theirs : s.Sound := (plain_host form [3] []).sound
  have named : i.Tells s := ⟨rfl, rfl, rfl⟩
  -- the invitation is taken in
  obtain ⟨c, b, p, taken, plain, stage, moves, hp, tells⟩ := receiveInvitation_tells (a := a) rfl rfl i
    none sound form (Wallet.holds_add (Wallet.holds_add_self _ _) _)
  obtain ⟨tends, after⟩ := Tends.accepts taken (Store.find?_last moves.connections)
  rw [← after] at moves tells
  have empty (did : String) : (a.after [.accept i none]).dids.find? did = none :=
    Store.find?_eq_none_append moves.dids rfl (List.forall_mem_nil _)
  have unused (key : Key) : (a.after [.accept i none]).didsOfKey key = [] :=
    didsOfKey_received moves.dids (List.forall_mem_nil _) _
  -- the request is made, and the response to it taken in
  obtain ⟨q, hq, -⟩ := Routing.peerDid_made theirs form "1" "2"
  obtain ⟨ys, c₁, record, thread, tends₁, plain₁, stage₁, isOf, moves₁⟩ :=
    tends.requests Suite.plain_lawful moves.connections plain stage tells (unused _)
  have new := moves₁.unknown isOf (empty q.did) (Routing.peerDid_ne sound theirs hp hq (by decide))
  obtain ⟨zs, c₂, record', tends₂, plain₂, stage₂, isOf', moves₂⟩ :=
    tends₁.completes moves₁.connections plain₁ stage₁ (named.recipients_read theirs) theirs hq new
      "response"
  have settings := moves₂.settings.trans (moves₁.settings.trans moves.settings)
  have ids : (a.after ([.accept i none] ++ ys ++ zs)).draws.ids = 6 := by
    rw [moves₂.ids, moves₁.ids, moves.ids]
    rfl
  refine ⟨a, _, c₂, p, r', rfl, rfl, tends₂, plain₂, stage₂.state, stage₂.did, ⟨sound', ?_, ?_⟩, ?_, ?_⟩
  · rw [moves₂.wallet, moves₁.wallet, moves.wallet]
    exact Wallet.holds_add_self _ _
  · rw [didsOfKey_other moves₂.dids isOf' theirs.recipient sound'.recipient (by decide),
      didsOfKey_other moves₁.dids isOf sound.recipient sound'.recipient (by decide)]
    exact unused _
  · rw [settings]
    rfl
  · rw [ids]
    intro p' hp'
    have apart := Routing.peerDid_ne sound sound' hp hp' (by decide)
    exact ⟨moves₂.unknown isOf' (moves₁.unknown isOf (empty _) apart)
      (Routing.peerDid_ne theirs sound' hq hp' (by decide)), apart⟩

/-- The agent rotates to another DID. Both the DID that the connection goes by then and the one before it
lead back to the connection. -/
theorem own_dids_lead_back_plain : ∃ (a : Agent) (xs : List Operation) (c : Connection) (n : RotateAck)
    (did before : String), a.connections.records = [] ∧ a.dids.records = [] ∧
    (∀ id, a.CopiesRead id xs) ∧ a.MakesNew xs ∧ a.Unshared xs ∧
    c ∈ (a.after xs).connections.records ∧ a.Performed xs c.id 0 xs.length (.processRotateAck n) ∧
    c.did = some did ∧ before ∈ c.previousDids ∧ before ≠ did ∧
    (∃ record key, (a.after xs).dids.find? did = some record ∧ record.IsFor key ∧
      (a.after xs).connectionOfKey key = .ok (some c)) ∧
    ∃ record key, (a.after xs).dids.find? before = some record ∧ record.IsFor key ∧
      (a.after xs).connectionOfKey key = .ok (some c) := by
  obtain ⟨a, xs, c, p, r, h⟩ := plain_exchanged
  obtain ⟨ys, c', q, n, tends, performed, hq, did, previous⟩ :=
    h.tends.rotates h.state h.plain.pendingRotation h.ready (h.form ▸ nofun)
      (by rw [h.form]; exact fun q hq => (h.new q hq).1) "ack"
  rw [h.form] at hq
  have there := (Store.find?_eq_some.mp tends.stored).1
  have leads (own : String) (mem : own ∈ c'.ownDids) := own_dids_lead_back h.connections h.dids
    tends.copies tends.new tends.unshared there mem
  have before := previous _ h.did
  exact ⟨a, _, c', n, q.did, p.did, h.connections, h.dids, tends.copies, tends.new, tends.unshared, there,
    performed, did, before, (h.new q hq).2, leads _ (Connection.mem_ownDids_of_did did),
    leads _ (List.mem_append_right _ before)⟩

end Agent

end Plain

end Pairwise
