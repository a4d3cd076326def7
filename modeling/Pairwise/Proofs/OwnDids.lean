import Pairwise.Proofs.Openings
import Pairwise.Proofs.RotationSteps
/-!
# DIDs of one's own, and DIDs that were told

An agent owns a DID on a connection if it has the key of the DID's routing, uses that for no other
DID, and no other connection goes by the DID. It was told a DID if it can tell the routing. Neither
is lost when connections go on, and together they are all that a message needs to arrive.

Results:
* `Agent.Owns`, `Agent.Told`: what is known of a DID on either side.
* `Agent.Continues`: what an agent does without losing any of this.
* `Owns.connectionOfKey`, `Owns.leads`: where a message for a DID of one's own leads.
* `Told.checkSender`, `Owns.post_run`: a message from a DID that was told is accepted, and one to a
  DID that was told arrives.
* `createPeerDid_cases`, `createPeerDid_own`: how an agent comes by DIDs of its own.
-/
namespace Pairwise

/-- The DIDs of the agent's own, the one that it has and those that it had. -/
def Connection.ownDids (c : Connection) : List String := c.did.toList ++ c.previousDids

theorem Connection.mem_ownDids_of_did {c : Connection} {did : String} (h : c.did = some did) :
    did ∈ c.ownDids := List.mem_append_left _ (Option.mem_toList.mpr h)

/-- A connection without tags of its own is asked for by the DIDs of its agent. -/
theorem Connection.mem_ownDids {c : Connection} (tags : c.customTags = []) {did : String} :
    did ∈ c.ownDids ↔ (Query.on "did" did).accepts c.tags = true ∨
      (Query.on "previousDids" did).accepts c.tags = true := by
  rw [accepts_did tags, accepts_previousDids, ownDids, List.mem_append, Option.mem_toList]

theorem Connection.mem_theirDids_of_theirDid {c : Connection} {did : String}
    (h : c.theirDid = some did) : did ∈ c.theirDids :=
  List.mem_append_left _ (Option.mem_toList.mpr h)

variable [suite : Suite]

/-- The DID of a key is of no other form. -/
theorem PeerDid.form_ofKey {key : Key} {p : PeerDid} (h : ofKey key = .ok p) {f : PeerForm}
    (hform : form p.did = .ok f) : f = .inceptionKey := form_of_digit hform (toList_ofKey h)

/-- A DID of form 4 was made of its document in that form. -/
theorem PeerDid.made_of_form {told : Document} {r : Routing} {form : PeerForm} {p : PeerDid}
    (tells : ∀ id alsoKnownAs, ({ told with id, alsoKnownAs } : Document).Tells r)
    (h : ofDocument told form = .ok p) (hform : PeerDid.form p.did = .ok .hashAndDocument) :
    p.Made r := by
  cases form with
  | inceptionKey =>
    obtain ⟨keys, -, h⟩ := Outcome.bind_eq_ok.mp h
    cases keys with
    | nil => cases h
    | cons key keys => cases form_ofKey h hform
  | genesisHash =>
    cases h
    cases (form_ofGenesis told).symm.trans hform
  | hashAndDocument =>
    cases h
    exact ⟨told, tells, .inr rfl⟩

namespace Agent

/-- The DID, made for a routing, is the agent's own on the connection of an id. -/
structure Owns (a : Agent) (id : String) (p : PeerDid) (r : Routing) : Prop where
  sound : r.Sound
  made : p.Made r
  resolves : a.dids.Resolves p
  own : ∃ record, a.didsOfKey r.recipientKey = [record] ∧ record.did = p.did
  held : a.wallet.holds r.recipientKey = true
  others : ∀ c ∈ a.connections.records, c.id ≠ id →
    (Query.on "did" p.did).accepts c.tags = false ∧
    (Query.on "previousDids" p.did).accepts c.tags = false

/-- The agent can tell the routing of the counterparty's DID. -/
structure Told (a : Agent) (p : PeerDid) (r : Routing) : Prop where
  sound : r.Sound
  made : p.Made r
  resolves : a.dids.Resolves p

/-- The agent afterwards has its settings, keys and DIDs, and no more connections. Its keys are for
the same DIDs, and of its connections only the one of an id can have gone on. -/
structure Continues (id : String) (a a' : Agent) : Prop where
  settings : a'.settings = a.settings
  wallet : ∀ k, a.wallet.holds k = true → a'.wallet.holds k = true
  dids : a.dids.records <+: a'.dids.records
  own : ∀ k, a.didsOfKey k ≠ [] → a'.didsOfKey k = a.didsOfKey k
  others : ∀ c ∈ a'.connections.records, c.id ≠ id → c ∈ a.connections.records

instance (id : String) : IsPreorder Agent (Continues id) where
  refl a := ⟨rfl, fun _ h => h, List.prefix_rfl, fun _ _ => rfl, fun _ h _ => h⟩
  trans a b c hab hbc := {
    settings := hbc.settings.trans hab.settings
    wallet := fun k h => hbc.wallet k (hab.wallet k h)
    dids := hab.dids.trans hbc.dids
    own := fun k some => by
      have first := hab.own k some
      rw [← first] at some
      rw [hbc.own k some, first]
    others := fun c mem other => hab.others c (hbc.others c mem other) other }

variable {a a' : Agent} {id : String} {c : Connection} {p q : PeerDid} {r s : Routing}

/-! ## What stays -/

theorem Continues.resolves (h : Continues id a a') (resolves : a.dids.Resolves p) :
    a'.dids.Resolves p := by
  obtain ⟨more, records⟩ := h.dids
  exact resolves.imp_right fun known => known.append records.symm

theorem Owns.continues (owns : a.Owns id p r) (h : Continues id a a') : a'.Owns id p r where
  sound := owns.sound
  made := owns.made
  resolves := h.resolves owns.resolves
  own := by
    obtain ⟨record, own, did⟩ := owns.own
    refine ⟨record, ?_, did⟩
    rw [h.own _ (own ▸ List.cons_ne_nil _ _), own]
  held := h.wallet _ owns.held
  others := fun c mem other => owns.others c (h.others c mem other) other

theorem Told.continues (told : a.Told p r) (h : Continues id a a') : a'.Told p r :=
  ⟨told.sound, told.made, h.resolves told.resolves⟩

/-! ## What agents do without losing any of it -/

/-- DIDs of others do not belong to a key. -/
theorem Hears.own (hears : Hears a a') (k : Key) : a'.didsOfKey k = a.didsOfKey k := by
  obtain ⟨more, records, new⟩ := hears
  exact didsOfKey_received records (fun record mem => (new record mem).1) k

/-- An agent goes on if its keys are for the DIDs that they were for, and its other connections were
there before. -/
theorem Later.continues (later : Later a a')
    (own : ∀ k, a.didsOfKey k ≠ [] → a'.didsOfKey k = a.didsOfKey k)
    (others : ∀ c ∈ a'.connections.records, c.id ≠ id → c ∈ a.connections.records) :
    Continues id a a' where
  settings := later.settings
  wallet := fun _ held => later.wallet ▸ held
  dids := later.dids
  own := own
  others := others

theorem Quiet.continues (quiet : Quiet a a')
    (own : ∀ k, a.didsOfKey k ≠ [] → a'.didsOfKey k = a.didsOfKey k) : Continues id a a' :=
  quiet.toLater.continues own fun _ mem _ => quiet.connections ▸ mem

/-- All connections but the one that was stored were there before. -/
theorem Stores.others {next stored : Connection} (h : Stores a next stored a') :
    ∀ c ∈ a'.connections.records, c.id ≠ next.id → c ∈ a.connections.records :=
  fun _ mem other => Store.mem_of_find?_eq mem (h.find?_of_ne other)

theorem Stores.continues {next stored : Connection} (h : Stores a next stored a')
    (own : ∀ k, a.didsOfKey k ≠ [] → a'.didsOfKey k = a.didsOfKey k) : Continues next.id a a' :=
  h.toLater.continues own h.others

theorem Drawn.continues (drew : Drawn a a') : Continues id a a' := by
  obtain ⟨ids, noises, -, rfl⟩ := drew
  exact ⟨rfl, fun _ h => h, List.prefix_rfl, fun _ _ => rfl, fun _ h _ => h⟩

/-! ## Where a message leads -/

/-- The key of one DID leads to the connection that is asked for by it, if no other is. -/
theorem connectionOfKey_asked {key : Key} {record : DidRecord} (own : a.didsOfKey key = [record])
    (there : c ∈ a.connections.records)
    (asked : (Query.on "did" record.did).accepts c.tags = true ∨
      (Query.on "previousDids" record.did).accepts c.tags = true)
    (others : ∀ c' ∈ a.connections.records, c'.id ≠ c.id →
      (Query.on "did" record.did).accepts c'.tags = false ∧
      (Query.on "previousDids" record.did).accepts c'.tags = false) :
    a.connectionOfKey key = .ok (some c) := by
  by_cases now : (Query.on "did" record.did).accepts c.tags = true
  · exact connectionOfKey_own own (Store.query_single there now fun c' mem' other =>
      (others c' mem' other).1)
  · -- no connection goes by the DID, and this one went by it
    have none : a.connections.query (.on "did" record.did) = [] := by
      refine List.filter_eq_nil_iff.mpr fun c' mem' accepted => ?_
      by_cases other : c'.id = c.id
      · obtain rfl := Store.eq_of_id_eq mem' there other
        exact now accepted
      · exact absurd accepted (Bool.eq_false_iff.mp (others c' mem' other).1)
    have one : a.connections.query (.on "previousDids" record.did) = [c] :=
      Store.query_single there (asked.resolve_left now) fun c' mem' other =>
        (others c' mem' other).2
    rw [Agent.connectionOfKey, own]
    change firstOf a.connections (.on "did" record.did :: .on "previousDids" record.did :: _) = _
    rw [firstOf, Store.querySingle_eq_none.mpr none]
    exact firstOf_cons one

/-- The key of a DID that the connection goes by or went by leads to the connection. -/
theorem Owns.connectionOfKey (owns : a.Owns c.id p r)
    (stored : a.connections.find? c.id = some c) {did : String} (named : c.did = some did)
    (mem : p.did ∈ c.ownDids) : a.connectionOfKey r.recipientKey = .ok (some c) := by
  obtain ⟨record, own, same⟩ := owns.own
  refine connectionOfKey_asked own (Store.find?_eq_some.mp stored).1 ?_ (same ▸ owns.others)
  rw [Connection.ownDids, named] at mem
  rw [same, Connection.accepts_did_of_some named, Connection.accepts_previousDids]
  exact (List.mem_cons.mp mem).imp_left Eq.symm

/-- The key of a DID of one's own leads to the connection of the DID, or to an invitation. -/
theorem Owns.leads (owns : a.Owns id p r)
    (found : a.connectionOfKey r.recipientKey = .ok (some c)) :
    c.id = id ∨ c.state = .invitationSent := by
  obtain ⟨record, own, same⟩ := owns.own
  rw [Agent.connectionOfKey, own] at found
  obtain ⟨q, hq, one⟩ := firstOf_eq_some found
  have mem : c ∈ a.connections.query q := one ▸ List.mem_cons_self
  obtain ⟨there, accepted⟩ := Store.mem_query.mp mem
  by_cases other : c.id = id
  · exact .inl other
  obtain ⟨notDid, notPrevious⟩ := owns.others c there other
  rw [← same] at notDid notPrevious
  rcases List.mem_cons.mp hq with rfl | hq
  · exact absurd accepted (Bool.eq_false_iff.mp notDid)
  rcases List.mem_cons.mp hq with rfl | hq
  · exact absurd accepted (Bool.eq_false_iff.mp notPrevious)
  rw [List.mem_singleton.mp hq, Query.accepts_and] at accepted
  exact .inr (Connection.accepts_state.mp accepted.2)

/-! ## Messages that arrive -/

/-- The keys of what was told can be read. -/
theorem Told.legible (told : a.Told p r) {d : Document} (resolved : a.resolve p.did = .ok d) :
    d.Legible ∧ d.HasKey r.recipientKey := by
  obtain ⟨d', resolved', tells, -⟩ := told.made.resolve told.resolves
  obtain rfl : d' = d := Except.ok.inj (resolved'.symm.trans resolved)
  exact ⟨⟨⟨_, tells.recipientKeys⟩, ⟨_, tells.authentication⟩⟩,
    ⟨_, .inl tells.recipientKeys, List.mem_cons_self⟩⟩

/-- A message in the name of a DID that the counterparty goes by or went by is accepted, if all of
these were told. -/
theorem Told.checkSender {m : Message} (told : a.Told p r) (mem : p.did ∈ c.theirDids)
    (named : c.theirDid.isSome = true)
    (all : ∀ did ∈ c.theirDids, ∃ q s, q.did = did ∧ a.Told q s) :
    checkSender m c (some r.recipientKey) a = .ok () := by
  obtain ⟨d, resolved, -⟩ := told.made.resolve told.resolves
  refine checkSender_legible ⟨_, mem, d, resolved, (told.legible resolved).2⟩ named ?_
  intro did mem' d' resolved'
  obtain ⟨q, s, rfl, told'⟩ := all did mem'
  exact (told'.legible resolved').1

/-- A message from a DID of one's own to one that was told arrives, through the mediators of that. -/
theorem Owns.post_run [chance : Chance] (lawful : suite.Lawful) (drawn : chance.Lawful)
    (owns : a.Owns id p r) (told : a.Told q s) {o : Outbound} (sender : o.connection.did = some p.did)
    (receiver : o.connection.theirDid = some q.did) (readable : o.message.Readable)
    {mediators : Wallet} (mediated : ∀ k ∈ s.routingKeys, mediators.holds k = true) :
    ∃ e a', (post mediators o).run a = (.ok e, a') ∧ Drawn a a' ∧
      e.Holds o.message.toJson [s.recipientKey] (some r.recipientKey) :=
  Agent.post_run lawful drawn told.sound (sendsTo_did told.made told.resolves receiver)
    (senderKey_did owns.made owns.resolves sender) owns.sound.recipient.signs owns.held readable
    mediated

/-! ## DIDs that are made -/

/-- The agent afterwards has stored DIDs of its own for the key of a routing, and no others. -/
def Mints (r : Routing) (a a' : Agent) : Prop :=
  ∃ more, a'.dids.records = a.dids.records ++ more ∧ ∀ record ∈ more,
    record.role = .created ∧ record.fingerprints = [r.recipientKey.fingerprint]

instance (r : Routing) : IsPreorder Agent (Mints r) where
  refl a := ⟨[], (List.append_nil _).symm, nofun⟩
  trans a b c := by
    rintro ⟨more, hb, new⟩ ⟨more', hc, new'⟩
    refine ⟨more ++ more', by rw [hc, hb, List.append_assoc], fun record mem => ?_⟩
    exact (List.mem_append.mp mem).elim (new record) (new' record)

theorem Mints.of_same (same : a'.dids = a.dids) : Mints r a a' :=
  ⟨[], by rw [same, List.append_nil], nofun⟩

/-- DIDs for a key that had none are for no key that had some. -/
theorem Mints.own (mints : Mints r a a') (unused : a.didsOfKey r.recipientKey = []) (k : Key)
    (some : a.didsOfKey k ≠ []) : a'.didsOfKey k = a.didsOfKey k := by
  obtain ⟨more, records, new⟩ := mints
  rw [didsOfKey_append records, List.filter_eq_nil_iff.mpr, List.append_nil]
  intro record mem accepted
  have there := (DidRecord.accepts_key.mp accepted).2
  rw [(new record mem).2, List.mem_singleton] at there
  refine some ?_
  rw [didsOfKey, there]
  exact unused

/-- A document is kept with the services that it was told with. -/
theorem service_ownDocument {form : PeerForm} {told derived : Document}
    (h : PeerDid.ofDocument told form = .ok p) (hd : p.document = some derived) :
    (ownDocument form told derived).service = told.service := by
  cases form with
  | inceptionKey => rfl
  | genesisHash =>
    cases h
    cases hd
    rfl
  | hashAndDocument =>
    cases h
    cases hd
    rfl

theorem saveNewDid_cases {record : DidRecord} {result : Except Error Unit}
    (h : (saveNewDid record).run a = (result, a')) :
    a'.dids = a.dids ∧ (result = .ok () → a.dids.find? record.did ≠ none) ∨
      result = .ok () ∧ a'.dids.records = a.dids.records ++ [record] := by
  unfold saveNewDid at h
  rw [Step.bind_view] at h
  split at h
  · next known =>
    cases h
    exact .inl ⟨rfl, fun _ none => by rw [none] at known; cases known⟩
  · simp only [Step.run, saveDid] at h
    split at h
    · next dids saved =>
      cases h
      exact .inr ⟨rfl, (Store.save_eq_ok.mp saved).2⟩
    · cases h
      exact .inl ⟨rfl, fun done => by cases done⟩

section Making

variable [chance : Chance]

theorem routingDocument_dids (r : Routing) (a : Agent) :
    ((routingDocument r).run a).2.dids = a.dids := by
  rw [routingDocument, Step.run_bind, Step.run_lift]
  cases r.recipientKey.toX25519 <;> rfl

/-- The document that is made for a routing tells the routing, under whatever names, and so does every
document that it gives its services to. -/
theorem routingDocument_tells (sound : r.Sound) {told : Document}
    (h : (routingDocument r).run a = (.ok told, a')) :
    (∀ id alsoKnownAs, ({ told with id, alsoKnownAs } : Document).Tells r) ∧
      ∀ d : Document, d.service = told.service → d.recipientKeys = .ok [r.recipientKey] := by
  simp only [routingDocument, Step.bind_run_ok, Step.lift_run_ok] at h
  obtain ⟨agreement, _, -, _, _, -, _, _, -, hdocument, -⟩ := h
  obtain ⟨told', hdocument', tells⟩ := Routing.document_tells sound agreement _ _
  obtain rfl : told' = told := Except.ok.inj (hdocument'.symm.trans hdocument)
  refine ⟨tells, fun d same => ?_⟩
  obtain ⟨services, hservices, made⟩ := Outcome.bind_eq_ok.mp hdocument
  cases made
  exact Routing.recipientKeys_of_services sound hservices same

/-- What comes of a new DID: nothing is stored, or the DID as one of the agent's own, with the document
that was made for the routing. -/
theorem createPeerDid_saves {form : PeerForm} {result : Except Error PeerDid}
    (h : (createPeerDid r form).run a = (result, a')) :
    a'.dids = a.dids ∧ (∀ p, result = .ok p → a.dids.find? p.did ≠ none) ∨
      ∃ p record told derived a₁, result = .ok p ∧ a'.dids.records = a.dids.records ++ [record] ∧
        (routingDocument r).run a = (.ok told, a₁) ∧ PeerDid.ofDocument told form = .ok p ∧
        p.document = some derived ∧ DidRecord.new p.did .created (ownDocument form told derived)
          p.alternatives a₁.now = .ok record := by
  unfold createPeerDid at h
  have same := routingDocument_dids r a
  rcases hdocument : (routingDocument r).run a with ⟨error | told, a₁⟩
  · rw [Step.bind_error hdocument] at h
    cases h
    rw [hdocument] at same
    exact .inl ⟨same, fun _ made => by cases made⟩
  rw [Step.bind_ok hdocument] at h
  rw [hdocument] at same
  rcases hpeer : PeerDid.ofDocument told form with error | p
  · rw [Step.run_bind, Step.run_lift, hpeer] at h
    cases h
    exact .inl ⟨same, fun _ made => by cases made⟩
  rw [Step.bind_lift hpeer] at h
  rcases hderived : p.document with _ | derived
  · rw [hderived] at h
    cases h
    exact .inl ⟨same, fun _ made => by cases made⟩
  rw [hderived] at h
  dsimp only at h
  rw [Step.bind_view] at h
  rcases hrecord : DidRecord.new p.did .created (ownDocument form told derived) p.alternatives a₁.now
    with error | record
  · rw [Step.run_bind, Step.run_lift, hrecord] at h
    cases h
    exact .inl ⟨same, fun _ made => by cases made⟩
  rw [Step.bind_lift hrecord] at h
  rcases hsave : (saveNewDid record).run a₁ with ⟨saved, a₂⟩
  rw [Step.run_bind, hsave] at h
  rw [← same]
  rcases saveNewDid_cases hsave with ⟨kept, known⟩ | ⟨rfl, records⟩
  · refine .inl ?_
    cases saved with
    | error e =>
      cases h
      exact ⟨kept, fun _ made => by cases made⟩
    | ok u =>
      cases h
      refine ⟨kept, fun q hq => ?_⟩
      cases hq
      exact (DidRecord.new_ok hrecord).1 ▸ known rfl
  · cases h
    exact .inr ⟨p, record, told, derived, a₁, rfl, records, rfl, hpeer, hderived, hrecord⟩

/-- A DID for a sound routing is stored under its key. -/
theorem createPeerDid_cases (sound : r.Sound) {form : PeerForm} {result : Except Error PeerDid}
    (h : (createPeerDid r form).run a = (result, a')) :
    a'.dids = a.dids ∧ (∀ p, result = .ok p → a.dids.find? p.did ≠ none) ∨
      ∃ p record, result = .ok p ∧ a'.dids.records = a.dids.records ++ [record] ∧
        record.did = p.did ∧ record.role = .created ∧
        record.fingerprints = [r.recipientKey.fingerprint] ∧
        (PeerDid.form p.did = .ok .hashAndDocument → p.Made r) := by
  rcases createPeerDid_saves h with
    unsaved | ⟨p, record, told, derived, a₁, rfl, records, hdocument, hpeer, hderived, hrecord⟩
  · exact .inl unsaved
  obtain ⟨tells, keys⟩ := routingDocument_tells sound hdocument
  obtain ⟨did, role, read⟩ := DidRecord.new_ok hrecord
  have fingerprints : record.fingerprints = [r.recipientKey.fingerprint] := by
    rw [Document.recipientFingerprints, keys _ (service_ownDocument hpeer hderived)] at read
    exact (Except.ok.inj read).symm
  exact .inr ⟨p, record, rfl, records, did, role, fingerprints, fun form =>
    PeerDid.made_of_form tells hpeer form⟩

theorem createPeerDid_mints (sound : r.Sound) (form : PeerForm) :
    Step.Keeps (Mints r) (createPeerDid r form) := by
  intro a
  rcases createPeerDid_cases sound (Prod.eta ((createPeerDid r form).run a)).symm with
    ⟨same, -⟩ | ⟨p, record, -, records, -, role, fingerprints, -⟩
  · exact .of_same same
  · exact ⟨[record], records, List.forall_mem_singleton.mpr ⟨role, fingerprints⟩⟩

/-- A new DID is the only one of its key, if the key had none. -/
theorem createPeerDid_own (sound : r.Sound) (unused : a.didsOfKey r.recipientKey = [])
    {form : PeerForm} (h : (createPeerDid r form).run a = (.ok p, a'))
    (new : a.dids.find? p.did = none) :
    (∃ record, a'.didsOfKey r.recipientKey = [record] ∧ record.did = p.did) ∧
      (PeerDid.form p.did = .ok .hashAndDocument → p.Made r) := by
  rcases createPeerDid_cases sound h with
    ⟨-, known⟩ | ⟨q, record, hq, records, did, role, fingerprints, made⟩
  · exact absurd new (known p rfl)
  · cases hq
    refine ⟨⟨record, ?_, did⟩, made⟩
    have accepted : ((Query.on "role" DidRole.created.name).and "recipientKeyFingerprints"
        r.recipientKey.fingerprint).accepts record.tags = true := by
      refine DidRecord.accepts_key.mpr ⟨role, ?_⟩
      rw [fingerprints]
      exact List.mem_cons_self
    rw [didsOfKey_append records, unused, List.filter_cons, if_pos accepted]
    rfl

end Making

end Agent

end Pairwise
