import Pairwise.Proofs.Attribution
import Pairwise.Proofs.ExchangeRuns
/-!
# What the steps of a rotation do

A DID that is announced is taken in if it tells its document, and the document a service for messages.
That can be seen from the DID alone. So it is a DID of form 4, which no agent ever forgets.

Results:
* `Announced`, `Agent.checkRotationDid_eq_ok`: the DIDs that a counterparty can rotate to.
* `Agent.Hears`: an agent has taken in such DIDs, and knows all that it knew.
* `Heeds`, `processRotate_heeds`: an announcement fails, or is refused, or acknowledged.
* `createRotate_ok`, `processRotateAck_ok`, `processRotateProblem_ok`: what the side that rotates does
  when a step of it succeeds.
* `createHangup_ok`, `processHangup_ok`: which DID a hangup takes off the connection.
-/
namespace Pairwise

open Step

/-! ## The rotation that waits -/

namespace PendingRotation

theorem reads (r : PendingRotation) : Json.Reader.Reads reader.read r.toJson r := by
  refine Json.Record.Builds.reads ?_ rfl (.append (.given _) (.optional _ _)) (by simp)
  refine .seq (.seq (.map _ (.text ?_)) (.text ?_)) (.nullableText ?_) <;> simp

end PendingRotation

namespace Connection

variable (c : Connection)

/-- A rotation that is noted is the one that waits. -/
theorem pendingRotation_noteRotation (r : PendingRotation) :
    (c.noteRotation r).pendingRotation = .ok (some r) := by
  have noted : (c.noteRotation r).metadata.get? PendingRotation.key = some r.toJson.sorted := by
    change (Json.putMember _ _ c.metadata.values).lookup _ = _
    rw [Json.lookup_putMember, if_pos rfl]
  rw [pendingRotation, Metadata.read, noted]
  dsimp only
  rw [Json.Reader.ofJson, r.reads.sorted]
  rfl

theorem pendingRotation_dropRotation : c.dropRotation.pendingRotation = .ok none := by
  have dropped : c.dropRotation.metadata.get? PendingRotation.key = none := by
    refine List.lookup_eq_none_iff.mpr fun m mem => bne_iff_ne.mpr ?_
    exact (of_decide_eq_true (List.mem_filter.mp mem).2).symm
  rw [pendingRotation, Metadata.read, dropped]

theorem requireRotation_eq_ok {r : PendingRotation} :
    c.requireRotation = .ok r ↔ c.pendingRotation = .ok (some r) := by
  rw [requireRotation, Outcome.bind_eq_ok]
  constructor
  · rintro ⟨found, hfound, h⟩
    cases found with
    | none => cases h
    | some rotation =>
      cases h
      exact hfound
  · intro h
    exact ⟨some r, h, rfl⟩

/-- What is remembered stays so, and the DID of the time is remembered. -/
theorem mem_remember {did : Option String} {dids : List String} {x : String} :
    x ∈ remember did dids ↔ did = some x ∨ x ∈ dids := by
  unfold remember
  cases did with
  | none => simp
  | some did =>
    dsimp only
    split
    · next there =>
      refine ⟨.inr, ?_⟩
      rintro (same | mem)
      · cases same
        exact List.contains_iff_mem.mp there
      · exact mem
    · simp [or_comm, eq_comm]

end Connection

/-! ## DIDs that are announced -/

/-- The record of a document is of the DID it was made for, and found by the document's keys. -/
theorem DidRecord.new_ok {did : String} {role : DidRole} {d : Document} {names : List String}
    {now : Timestamp} {record : DidRecord} (h : new did role d names now = .ok record) :
    record.did = did ∧ record.role = role ∧ d.recipientFingerprints = .ok record.fingerprints := by
  obtain ⟨texts, read, h⟩ := Outcome.bind_eq_ok.mp h
  cases h
  exact ⟨rfl, rfl, read⟩

variable [suite : Suite]

/-- The DID tells its document, and the document a service for messages. -/
structure Announced (did : String) (d : Document) : Prop where
  form : PeerDid.form did = .ok .hashAndDocument
  derivable : PeerDid.isDerivable did = true
  read : PeerDid.ofDid did = .ok ⟨did, some d⟩
  id : d.id = did
  services : d.didcommServices ≠ []

namespace PeerDid

variable {did : String} {p : PeerDid} {d : Document}

/-- Of the peer DIDs that tell a document, only those of form 4 tell one with services. -/
theorem announced_of_ofDid (read : ofDid did = .ok p) (hd : p.document = some d)
    (services : d.didcommServices ≠ []) : Announced did d := by
  have told := read
  unfold ofDid at read
  split at read
  · cases read
  · next body parts =>
    -- the document of a key has no services
    split at read
    · cases read
    · next key hkey =>
      obtain ⟨peer, hpeer, same⟩ := Outcome.bind_eq_ok.mp read
      split at same
      · cases same
        obtain ⟨document, hdocument, made⟩ := Outcome.bind_eq_ok.mp hpeer
        cases made
        cases hd
        exact absurd (Key.document_ok hdocument).2 services
      · cases same
  · next body parts =>
    split at read
    · cases read
    · split at read
      · cases read
      · cases read
        cases hd
  · next body parts =>
    have form : form did = .ok .hashAndDocument := by rw [PeerDid.form, parts]
    split at read
    · cases read
      cases hd
    · next hash encoded long =>
      split at read
      · cases read
      · cases read
        cases hd
        refine ⟨form, ?_, told, rfl, services⟩
        rw [isDerivable, form, long]
        rfl

end PeerDid

namespace Announced

variable {did : String} {d : Document}

/-- An announced DID is resolved without a look at what is stored. -/
theorem resolve (h : Announced did d) (dids : Store DidRecord) : Did.resolve dids did = .ok d :=
  Did.resolve_told h.read dids

/-- A DID tells one document. -/
theorem unique {d' : Document} (h : Announced did d) (h' : Announced did d') : d = d' := by
  cases h.read.symm.trans h'.read
  rfl

/-- A DID that resolves to a document with services tells the document, unless it is a peer DID that
does not. -/
theorem of_resolve {dids : Store DidRecord} (resolved : Did.resolve dids did = .ok d)
    (services : d.didcommServices ≠ [])
    (tells : PeerDid.isValid did = true → PeerDid.isDerivable did = true) : Announced did d := by
  unfold Did.resolve at resolved
  split at resolved
  · obtain ⟨key, -, document⟩ := Outcome.bind_eq_ok.mp resolved
    exact absurd (Key.document_ok document).2 services
  split at resolved
  · cases resolved
  obtain ⟨p, read, resolved⟩ := Outcome.bind_eq_ok.mp resolved
  obtain ⟨form, hform⟩ := PeerDid.form_of_ofDid read
  have valid : PeerDid.isValid did = true := PeerDid.isValid_of_form hform
  rw [if_pos (tells valid)] at resolved
  dsimp only at resolved
  split at resolved
  · next told =>
    cases resolved
    exact PeerDid.announced_of_ofDid read told services
  · cases resolved

end Announced

/-- A DID of form 4 that was made for a routing announces it. -/
theorem PeerDid.Made.announced {p : PeerDid} {r : Routing} (h : p.Made r)
    (form : PeerDid.form p.did = .ok .hashAndDocument) :
    ∃ d, Announced p.did d ∧ d.Tells r ∧ p.document = some d := by
  obtain ⟨d, hd, tells, id⟩ := h.document
  refine ⟨d, ?_, tells, hd⟩
  have derivable : isDerivable p.did = true := by
    obtain ⟨told, -, rfl | rfl⟩ := h
    · cases (form_ofGenesis told).symm.trans form
    · exact isDerivable_ofHashAndDocument told
  rcases h.ofDid with ⟨underivable, -⟩ | ⟨-, read⟩
  · cases underivable.symm.trans derivable
  · exact ⟨form, derivable, read.trans (by rw [← hd]), id, tells.services⟩

namespace Agent

/-- A DID can be rotated to exactly if it is an announced one; what the agent has stored does not
matter. -/
theorem checkRotationDid_eq_ok {did : String} {a : Agent} {d : Document} :
    checkRotationDid did a = .ok d ↔ Announced did d := by
  constructor
  · intro h
    unfold checkRotationDid at h
    split at h
    · cases h
    next supported =>
    split at h
    · cases h
    next resolved =>
    split at h
    · cases h
    next services =>
    cases h
    refine .of_resolve resolved (fun none => services (List.isEmpty_iff.mpr none)) fun valid => ?_
    rw [valid, Bool.true_and, Bool.not_eq_true', Bool.not_eq_false] at supported
    exact supported
  · intro h
    have supported : ¬ (PeerDid.isValid did && !PeerDid.isDerivable did) = true := by
      rw [h.derivable, Bool.not_true, Bool.and_false]
      exact nofun
    rw [checkRotationDid, if_neg supported, Agent.resolve, h.resolve]
    exact if_neg fun none => h.services (List.isEmpty_iff.mp none)

/-! ## What the other side takes in -/

/-- The agent afterwards has taken in announced DIDs, and has forgotten none. -/
def Hears (a a' : Agent) : Prop :=
  ∃ more, a'.dids.records = a.dids.records ++ more ∧
    ∀ r ∈ more, r.role = .received ∧ PeerDid.isDerivable r.did = true

instance : IsPreorder Agent Hears :=
  inferInstanceAs (IsPreorder Agent (AddsDids fun r => r.role = .received ∧
    PeerDid.isDerivable r.did = true))

/-- What was stored under a name that tells no document is still found. -/
theorem Hears.stored {a a' : Agent} (h : Hears a a') {did : String} {d : Document}
    (needed : ¬ PeerDid.isDerivable did = true) (stored : Did.stored? a.dids did = some d) :
    Did.stored? a'.dids did = some d := by
  obtain ⟨more, records, new⟩ := h
  unfold Did.stored? at stored ⊢
  split at stored
  · next record found =>
    obtain ⟨mem, name⟩ := Store.find?_eq_some.mp found
    have found' : a'.dids.find? did = some record :=
      Store.find?_eq_some.mpr ⟨records ▸ List.mem_append_left more mem, name⟩
    rw [found']
    exact stored
  · next unfound =>
    have unfound' : a'.dids.find? did = none :=
      Store.find?_eq_none_append records unfound fun r hr same => needed (same ▸ (new r hr).2)
    obtain ⟨record, found, -⟩ := Option.bind_eq_some_iff.mp stored
    rw [unfound', Store.query_append records, List.head?_append]
    dsimp only
    rw [found] at stored ⊢
    exact stored

/-- What was resolved is resolved to the same document by whoever has heard more. -/
theorem Hears.resolve {a a' : Agent} (h : Hears a a') {did : String} {d : Document}
    (resolved : a.resolve did = .ok d) : a'.resolve did = .ok d := by
  rw [Agent.resolve, Did.resolve] at resolved ⊢
  split at resolved
  · next key => rwa [if_pos key]
  next key =>
  rw [if_neg key]
  split at resolved
  · cases resolved
  next peer =>
  rw [if_neg peer]
  obtain ⟨p, read, resolved⟩ := Outcome.bind_eq_ok.mp resolved
  refine Outcome.bind_eq_ok.mpr ⟨p, read, ?_⟩
  dsimp only at resolved ⊢
  split at resolved
  · next document told =>
    cases resolved
    split at told
    · next derivable => rw [if_pos derivable, told]
                        rfl
    · next needed => rw [if_neg needed, h.stored needed told]
                     rfl
  · cases resolved

/-- Who becomes later without a look at DIDs has heard nothing. -/
theorem Hears.of_same {a a' : Agent} (same : a'.dids = a.dids) : Hears a a' := AddsDids.of_same same

theorem updateConnection_dids {c : Connection} {a a' : Agent} {result : Except Error Connection}
    (h : (updateConnection c).run a = (result, a')) : a'.dids = a.dids := by
  cases result with
  | error e => rw [updateConnection_run_error h]
  | ok stored =>
    obtain ⟨connections, -, rfl⟩ := updateConnection_run_ok.mp h
    rfl

theorem updateConnection_hears (c : Connection) : Keeps Hears (updateConnection c) :=
  fun _ => .of_same (updateConnection_dids rfl)

theorem saveNewDid_hears {record : DidRecord} (received : record.role = .received)
    (derivable : PeerDid.isDerivable record.did = true) : Keeps Hears (saveNewDid record) :=
  saveNewDid_addsDids ⟨received, derivable⟩

/-- The DID of a counterparty is taken in with a document that it tells. -/
theorem saveReceivedDid_hears {did : String} {d : Document}
    (derivable : PeerDid.isDerivable did = true) : Keeps Hears (saveReceivedDid did d) := by
  unfold saveReceivedDid
  refine .bind (.lift _) fun names => .bind (.view _) fun now => .bind_lift fun record made => ?_
  obtain ⟨rfl, received, -⟩ := DidRecord.new_ok made
  exact saveNewDid_hears received derivable

/-- The keys of a document that is taken in can be read. -/
theorem saveReceivedDid_ok {did : String} {d : Document} {a a' : Agent}
    (h : (saveReceivedDid did d).run a = (.ok (), a')) :
    ∃ texts, d.recipientFingerprints = .ok texts := by
  simp only [saveReceivedDid, bind_run_ok, lift_run_ok] at h
  obtain ⟨names, _, -, now, _, -, record, _, ⟨made, -⟩, -⟩ := h
  exact ⟨_, (DidRecord.new_ok made).2.2⟩

variable [chance : Chance]

theorem drawId_run (a : Agent) : drawId.run a = (.ok (chance.uuid a.draws.ids), (drawId.run a).2) :=
  rfl

theorem drawId_hears : Keeps Hears drawId := fun _ => .of_same rfl

/-! ## The announcement -/

variable {a a' : Agent} {c : Connection} {m : Rotate}

omit suite chance in
theorem requireCompleted_eq_ok : c.requireCompleted = .ok () ↔ c.state = .completed := by
  rw [Connection.requireCompleted, Connection.assertState]
  constructor
  · intro h
    split at h
    · next there => exact List.mem_singleton.mp (List.contains_iff_mem.mp there)
    · cases h
  · intro h
    exact if_pos (List.contains_iff_mem.mpr (List.mem_singleton.mpr h))

theorem processRotate_hears (c : Connection) (m : Rotate) : Keeps Hears (processRotate c m) := by
  unfold processRotate
  refine .bind (.lift _) fun _ => ?_
  intro a
  rw [bind_view]
  rcases checked : checkRotationDid m.did a with ⟨problem, en⟩ | d
  · exact Keeps.bind drawId_hears (fun _ => .pure _) a
  · have announced := checkRotationDid_eq_ok.mp checked
    refine Keeps.bind drawId_hears (fun _ => .bind (saveReceivedDid_hears ?_) fun _ => ?_) a
    · rw [announced.id]
      exact announced.derivable
    · exact .bind (updateConnection_hears _) fun _ => .pure _

/-- What comes of an announcement: it fails, or it is refused with a report, or it is acknowledged
and the connection goes on under the counterparty's new DID. -/
inductive Heeds (a : Agent) (c : Connection) (m : Rotate) (a' : Agent) :
    Except Error Outbound → Prop
  | fails {e : Error} (quiet : Quiet a a') : Heeds a c m a' (.error e)
  | refuses {report : ProblemReport} (quiet : Quiet a a') (kind : report.kind = .rotateProblem)
      (thread : report.thread = some (.reply m.threadId)) :
      Heeds a c m a' (.ok ⟨.rotateProblem report, c⟩)
  | acknowledges {id : String} {d : Document} {stored : Connection} (completed : c.state = .completed)
      (announced : Announced m.did d) (readable : ∃ texts, d.recipientFingerprints = .ok texts)
      (stores : Stores a (c.withTheirDid (some m.did)) stored a') :
      Heeds a c m a' (.ok ⟨.rotateAck (.new id m.threadId .ok), c⟩)

theorem processRotate_heeds {result : Except Error Outbound}
    (h : (processRotate c m).run a = (result, a')) : Heeds a c m a' result := by
  unfold processRotate at h
  rcases required : c.requireCompleted with error | ⟨⟩
  · rw [run_bind, run_lift, required] at h
    cases h
    exact .fails (refl a)
  rw [bind_lift required, bind_view] at h
  rcases checked : checkRotationDid m.did a with ⟨problem, en⟩ | d
  · rw [checked] at h
    cases h
    exact .refuses (drawId_quiet a) rfl rfl
  have announced := checkRotationDid_eq_ok.mp checked
  rw [checked] at h
  dsimp only at h
  rw [bind_ok (drawId_run a)] at h
  have drew := drawId_quiet a
  rcases hsave : (saveReceivedDid d.id d).run (drawId.run a).2 with ⟨error | ⟨⟩, a₁⟩
  · rw [bind_error hsave] at h
    cases h
    exact .fails (IsTrans.trans _ _ _ drew ((saveReceivedDid_quiet _ _).of_run hsave))
  have quiet : Quiet a a₁ := IsTrans.trans _ _ _ drew ((saveReceivedDid_quiet _ _).of_run hsave)
  rw [bind_ok hsave] at h
  rcases hupdate : (updateConnection (c.withTheirDid (some m.did))).run a₁ with ⟨error | stored, a₂⟩
  · rw [bind_error hupdate] at h
    cases h
    rw [updateConnection_run_error hupdate]
    exact .fails quiet
  rw [bind_ok hupdate] at h
  cases h
  exact .acknowledges (requireCompleted_eq_ok.mp required) announced (saveReceivedDid_ok hsave)
    (updateConnection_ok quiet hupdate)

theorem processRotate_failsQuietly : (processRotate c m).FailsQuietly := by
  intro a a' e run
  cases processRotate_heeds run with
  | fails quiet => exact quiet

/-! ## The answer to it -/

section Answers

variable {stored : Connection}

omit chance in
theorem processRotateAck_ok {n : RotateAck}
    (h : (processRotateAck c n).run a = (.ok stored, a')) :
    c.state = .completed ∧ ∃ r, c.pendingRotation = .ok (some r) ∧ r.threadId = n.threadId ∧
      Stores a (c.commitRotation r) stored a' := by
  simp only [processRotateAck, bind_run_ok, lift_run_ok] at h
  obtain ⟨⟨⟩, _, ⟨required, rfl⟩, r, _, ⟨pending, rfl⟩, h⟩ := h
  split at h
  · cases h
  next same =>
  exact ⟨requireCompleted_eq_ok.mp required, r, (c.requireRotation_eq_ok).mp pending,
    not_not.mp same, updateConnection_ok (refl a) h⟩

omit chance in
/-- An acknowledgement that is not taken in leaves the agent as it was. -/
theorem processRotateAck_error {n : RotateAck} {e : Error}
    (h : (processRotateAck c n).run a = (.error e, a')) : a' = a := by
  unfold processRotateAck at h
  rcases bind_run_error.mp h with h | ⟨⟨⟩, a₁, required, h⟩
  · exact (Prod.mk.inj h).2.symm
  obtain ⟨-, rfl⟩ := lift_run_ok.mp required
  rcases bind_run_error.mp h with h | ⟨r, a₁, pending, h⟩
  · exact (Prod.mk.inj h).2.symm
  obtain ⟨-, rfl⟩ := lift_run_ok.mp pending
  split at h
  · exact (Prod.mk.inj h).2.symm
  · exact updateConnection_run_error h

omit chance in
theorem processRotateAck_failsQuietly (n : RotateAck) : (processRotateAck c n).FailsQuietly := by
  intro a a' e h
  rw [processRotateAck_error h]
  exact refl a

omit chance in
theorem processRotateAck_hears (n : RotateAck) : Keeps Hears (processRotateAck c n) := by
  unfold processRotateAck
  refine .bind (.lift _) fun _ => .bind (.lift _) fun r => ?_
  split
  · exact .fail _
  · exact updateConnection_hears _

omit chance in
/-- The acknowledgement of the rotation that waits is taken in. -/
theorem processRotateAck_run {n : RotateAck} {r : PendingRotation} (completed : c.state = .completed)
    (pending : c.pendingRotation = .ok (some r)) (thread : r.threadId = n.threadId)
    (found : a.connections.find? c.id = some c) :
    ∃ stored a', (processRotateAck c n).run a = (.ok stored, a') := by
  obtain ⟨a', updated, -⟩ := updateConnection_found found (c.commitRotation r) rfl rfl
  refine ⟨(c.commitRotation r).next, a', ?_⟩
  rw [processRotateAck, bind_lift (requireCompleted_eq_ok.mpr completed),
    bind_lift ((c.requireRotation_eq_ok).mpr pending), if_neg (not_not_intro thread)]
  exact updated

omit chance in
theorem processRotateProblem_ok {n : ProblemReport}
    (h : (processRotateProblem c n).run a = (.ok stored, a')) :
    c.state = .completed ∧ Stores a c.dropRotation stored a' := by
  simp only [processRotateProblem, bind_run_ok, lift_run_ok] at h
  obtain ⟨⟨⟩, _, ⟨required, rfl⟩, r, _, ⟨-, rfl⟩, h⟩ := h
  exact ⟨requireCompleted_eq_ok.mp required, updateConnection_ok (refl a) h⟩

omit chance in
theorem processRotateProblem_failsQuietly (n : ProblemReport) :
    (processRotateProblem c n).FailsQuietly := by
  unfold processRotateProblem
  exact .bind (.lift _) fun _ => .bind (.lift _) fun _ => updateConnection_failsQuietly _

omit chance in
theorem processRotateProblem_hears (n : ProblemReport) : Keeps Hears (processRotateProblem c n) := by
  unfold processRotateProblem
  exact .bind (.lift _) fun _ => .bind (.lift _) fun _ => updateConnection_hears _

/-! ## The side that rotates -/

theorem createRotate_ok {r : Routing}
    (h : (createRotate c (.routing r)).run a = (.ok (m, stored), a')) :
    ∃ id peer a₁, c.state = .completed ∧
      (a.settings.strictRotation = true → c.pendingRotation = .ok none) ∧
      (createPeerDid r a.settings.rotationForm).run a = (.ok peer, a₁) ∧ m = .new id peer.did ∧
      a'.dids = a₁.dids ∧ Stores a (c.noteRotation ⟨id, peer.did, r.mediatorId⟩) stored a' := by
  simp only [createRotate, rotationDid, bind_run_ok, lift_run_ok, view_run_ok, pure_run_ok,
    Prod.mk.injEq] at h
  obtain ⟨⟨⟩, _, ⟨required, rfl⟩, settings, _, ⟨rfl, rfl⟩, ⟨⟩, _, ⟨checked, rfl⟩, told, a₂,
    ⟨_, _, ⟨rfl, rfl⟩, peer, a₁, hpeer, rfl, rfl⟩, id, a₃, hid, _, _, hupdate, ⟨rfl, rfl⟩, rfl⟩ := h
  have quiet : Quiet a a₃ :=
    IsTrans.trans _ _ _ ((createPeerDid_quiet _ _).of_run hpeer) (drawId_quiet.of_run hid)
  refine ⟨id, peer, a₁, requireCompleted_eq_ok.mp required, fun strict => ?_, hpeer, rfl, ?_,
    updateConnection_ok quiet hupdate⟩
  · obtain ⟨found, pending, checked⟩ := Outcome.bind_eq_ok.mp checked
    cases found with
    | none => exact pending
    | some rotation =>
      rw [strict] at checked
      cases checked
  · have drew : a₃.dids = a₁.dids := by
      cases hid
      rfl
    exact (updateConnection_dids hupdate).trans drew

theorem createRotate_failsQuietly (t : RotationTarget) : (createRotate c t).FailsQuietly := by
  unfold createRotate
  refine .bind (.lift _) fun _ => .bind (.view _) fun _ => .bind (.lift _) fun _ => ?_
  refine .bind (rotationDid_quiet t) fun _ => .bind drawId_quiet fun _ => ?_
  exact .bind_pure (updateConnection_failsQuietly _) _

/-- Which DID is announced is known before anything is stored of the connection. -/
theorem createRotate_told {t : RotationTarget} {told : String × Option String} {a₁ : Agent}
    (completed : c.state = .completed) (allowed : checkRotation c a.settings = .ok ())
    (chosen : (rotationDid t).run a = (.ok told, a₁)) :
    (createRotate c t).run a = (do
      let next ← updateConnection (c.noteRotation ⟨chance.uuid a₁.draws.ids, told.1, told.2⟩)
      return (Rotate.new (chance.uuid a₁.draws.ids) told.1, next)).run (drawId.run a₁).2 := by
  rw [createRotate, bind_lift (requireCompleted_eq_ok.mpr completed), bind_view, bind_lift allowed,
    bind_ok chosen]
  dsimp only
  rw [bind_ok (drawId_run a₁)]
  rfl

/-- A new DID is announced as soon as it is made, if no rotation waits. -/
theorem createRotate_made {r : Routing} {p : PeerDid} {a₁ : Agent} (completed : c.state = .completed)
    (free : c.pendingRotation = .ok none)
    (created : (createPeerDid r a.settings.rotationForm).run a = (.ok p, a₁)) :
    (createRotate c (.routing r)).run a = (do
      let next ← updateConnection (c.noteRotation ⟨chance.uuid a₁.draws.ids, p.did, r.mediatorId⟩)
      return (Rotate.new (chance.uuid a₁.draws.ids) p.did, next)).run (drawId.run a₁).2 := by
  have allowed : checkRotation c a.settings = .ok () := by
    rw [checkRotation, free]
    rfl
  have chosen : (rotationDid (.routing r)).run a = (.ok (p.did, r.mediatorId), a₁) := by
    rw [rotationDid, bind_view, bind_ok created]
    rfl
  rw [createRotate_told completed allowed chosen]

/-- What is announced and noted is what was chosen for the target. -/
theorem createRotate_chooses {t : RotationTarget}
    (h : (createRotate c t).run a = (.ok (m, stored), a')) :
    ∃ r, c.state = .completed ∧ m = .new r.threadId r.did ∧
      ((rotationDid t).run a).1 = .ok (r.did, r.mediatorId) ∧
      Stores a (c.noteRotation r) stored a' := by
  simp only [createRotate, bind_run_ok, lift_run_ok, view_run_ok, pure_run_ok, Prod.mk.injEq] at h
  obtain ⟨⟨⟩, _, ⟨required, rfl⟩, settings, _, ⟨rfl, rfl⟩, ⟨⟩, _, ⟨-, rfl⟩, told, a₁, htold, id, a₂, hid,
    _, _, hupdate, ⟨rfl, rfl⟩, rfl⟩ := h
  have quiet : Quiet a a₂ :=
    IsTrans.trans _ _ _ ((rotationDid_quiet t).of_run htold) (drawId_quiet.of_run hid)
  exact ⟨⟨id, told.1, told.2⟩, requireCompleted_eq_ok.mp required, rfl, by rw [htold],
    updateConnection_ok quiet hupdate⟩

/-- Whatever is announced is noted. -/
theorem createRotate_notes {t : RotationTarget}
    (h : (createRotate c t).run a = (.ok (m, stored), a')) :
    c.state = .completed ∧
      ∃ mediator, Stores a (c.noteRotation ⟨m.threadId, m.did, mediator⟩) stored a' := by
  obtain ⟨r, completed, rfl, -, stores⟩ := createRotate_chooses h
  exact ⟨completed, r.mediatorId, stores⟩

/-! ## Hanging up -/

theorem createHangup_ok {n : Hangup} (h : (createHangup c).run a = (.ok (n, stored), a')) :
    c.state = .completed ∧ Stores a { c with did := none } stored a' := by
  simp only [createHangup, bind_run_ok, lift_run_ok, pure_run_ok, Prod.mk.injEq] at h
  obtain ⟨⟨⟩, _, ⟨required, rfl⟩, _, a₁, hupdate, id, a₂, hid, ⟨rfl, rfl⟩, rfl⟩ := h
  have stores := updateConnection_ok (refl a) hupdate
  have drew := drawId_quiet.of_run hid
  refine ⟨requireCompleted_eq_ok.mp required, IsTrans.trans _ _ _ stores.toLater drew.toLater, ?_⟩
  rw [drew.connections]
  exact stores.update

theorem createHangup_failsQuietly : (createHangup c).FailsQuietly := by
  unfold createHangup
  refine .bind (.lift _) fun _ => ?_
  intro a a' e h
  rcases bind_run_error.mp h with h | ⟨c', a₁, -, h⟩
  · exact updateConnection_failsQuietly _ _ _ _ h
  · cases h

omit chance in
theorem processHangup_ok {n : Hangup} (h : (processHangup c n).run a = (.ok stored, a')) :
    c.state = .completed ∧ Stores a (c.withTheirDid none) stored a' := by
  simp only [processHangup, bind_run_ok, lift_run_ok] at h
  obtain ⟨⟨⟩, _, ⟨required, rfl⟩, hupdate⟩ := h
  exact ⟨requireCompleted_eq_ok.mp required, updateConnection_ok (refl a) hupdate⟩

omit chance in
theorem processHangup_failsQuietly (n : Hangup) : (processHangup c n).FailsQuietly := by
  unfold processHangup
  exact .bind (.lift _) fun _ => updateConnection_failsQuietly _

end Answers

end Agent

end Pairwise
