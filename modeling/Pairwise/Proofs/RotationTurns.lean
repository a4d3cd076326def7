import Pairwise.Proofs.Network
import Pairwise.Proofs.OwnDids
/-!
# What a rotation does to one side

A side that receives a message of a rotation for a DID of its own takes it in on the connection of the
DID, or drops it. A side that announces a DID has it as one of its own from then on, if the
counterparty can tell it at all.

Results:
* `Connection.Takes`: all that a message of a rotation can do to the connection it is received on.
* `Owns.receive_takes`: nothing else comes of one that is received for a DID of one's own.
* `receiveAck_takes`: the acknowledgement of the rotation that waits is not dropped there.
* `createRotate_announces`: what comes of an announcement that is made.
-/
namespace Pairwise

/-! ## Messages -/

namespace Message

/-- The message is one of a rotation. -/
def OfRotation : Message → Prop
  | rotate m => m.kind = .rotate
  | rotateAck m => m.kind = .rotateAck
  | rotateProblem m => m.kind = .rotateProblem
  | _ => False

/-- Whether the message announces a DID. -/
def announces : Message → Bool
  | rotate _ => true
  | _ => false

/-- A message announces a DID, or is silent about DIDs. -/
theorem announcement (m : Message) : (∃ n, m = rotate n) ∨ m.announces = false := by
  cases m with
  | rotate n => exact .inl ⟨n, rfl⟩
  | _ => exact .inr rfl

end Message

/-! ## Connections -/

namespace Connection

/-- The connection afterwards is the same, with all the DIDs of both sides. -/
structure Carries (c c' : Connection) : Prop where
  id : c'.id = c.id
  state : c'.state = c.state
  own : c.ownDids ⊆ c'.ownDids
  theirs : c.theirDids ⊆ c'.theirDids
  did : c.did.isSome = true → c'.did.isSome = true
  theirDid : c.theirDid.isSome = true → c'.theirDid.isSome = true

theorem Carries.refl (c : Connection) : c.Carries c :=
  ⟨rfl, rfl, List.Subset.refl _, List.Subset.refl _, fun h => h, fun h => h⟩

theorem mem_ownDids_commitRotation {c : Connection} {r : PendingRotation} {did : String} :
    did ∈ (c.commitRotation r).ownDids ↔ did = r.did ∨ did ∈ c.ownDids := by
  change did ∈ r.did :: remember c.did c.previousDids ↔ _
  rw [List.mem_cons, mem_remember, ownDids, List.mem_append, Option.mem_toList]

theorem mem_theirDids_withTheirDid {c : Connection} {told did : String} :
    did ∈ (c.withTheirDid (some told)).theirDids ↔ did = told ∨ did ∈ c.theirDids := by
  change did ∈ told :: remember c.theirDid c.previousTheirDids ↔ _
  rw [List.mem_cons, mem_remember, theirDids, List.mem_append, Option.mem_toList]

theorem carries_noteRotation (c : Connection) (r : PendingRotation) :
    c.Carries (c.noteRotation r).next :=
  ⟨rfl, rfl, List.Subset.refl _, List.Subset.refl _, fun some => some, fun some => some⟩

/-- What a message of a rotation can do to the connection that it is received on, with the answers
to it. -/
inductive Takes [Suite] (c : Connection) : Message → Connection → List Message → Prop
  | drops {m : Message} : Takes c m c []
  | refuses {m : Rotate} {report : ProblemReport} (kind : report.kind = .rotateProblem)
      (thread : report.thread = some (.reply m.threadId)) :
      Takes c (.rotate m) c [.rotateProblem report]
  | follows {m : Rotate} {id : String} {d : Document} (announced : Announced m.did d) :
      Takes c (.rotate m) (c.withTheirDid (some m.did)).next [.rotateAck (.new id m.threadId .ok)]
  | commits {n : RotateAck} {r : PendingRotation} (pending : c.pendingRotation = .ok (some r))
      (thread : r.threadId = n.threadId) : Takes c (.rotateAck n) (c.commitRotation r).next []
  | abandons {q : ProblemReport} : Takes c (.rotateProblem q) c.dropRotation.next []

namespace Takes

variable [Suite] {c c' : Connection} {m : Message} {answers : List Message}

theorem carries (h : c.Takes m c' answers) : c.Carries c' := by
  cases h with
  | drops => exact .refl c
  | refuses kind thread => exact .refl c
  | follows announced =>
    exact ⟨rfl, rfl, List.Subset.refl _, fun _ mem => mem_theirDids_withTheirDid.mpr (.inr mem),
      fun some => some, fun _ => rfl⟩
  | commits pending thread =>
    exact ⟨rfl, rfl, fun _ mem => mem_ownDids_commitRotation.mpr (.inr mem), List.Subset.refl _,
      fun _ => rfl, fun some => some⟩
  | abandons =>
    exact ⟨rfl, rfl, List.Subset.refl _, List.Subset.refl _, fun some => some, fun some => some⟩

/-- An announcement leaves the agent's own DIDs as they are, and adds at most the one that it
announces to the counterparty's. -/
theorem of_rotate {m : Rotate} (h : c.Takes (.rotate m) c' answers) :
    c'.ownDids = c.ownDids ∧ c'.did = c.did ∧ c'.pendingRotation = c.pendingRotation ∧
      ∀ did ∈ c'.theirDids, did ∈ c.theirDids ∨ did = m.did ∧ ∃ d, Announced did d := by
  cases h with
  | drops => exact ⟨rfl, rfl, rfl, fun _ mem => .inl mem⟩
  | refuses kind thread => exact ⟨rfl, rfl, rfl, fun _ mem => .inl mem⟩
  | follows announced =>
    refine ⟨rfl, rfl, rfl, fun did mem => ?_⟩
    rcases mem_theirDids_withTheirDid.mp mem with rfl | before
    · exact .inr ⟨rfl, _, announced⟩
    · exact .inl before

/-- All other messages of a rotation leave the counterparty's DIDs as they are, and are not answered. -/
theorem of_silent (h : c.Takes m c' answers) (silent : m.announces = false) :
    answers = [] ∧ c'.theirDid = c.theirDid ∧ c'.theirDids = c.theirDids := by
  cases h with
  | drops => exact ⟨rfl, rfl, rfl⟩
  | refuses kind thread => cases silent
  | follows announced => cases silent
  | commits pending thread => exact ⟨rfl, rfl, rfl⟩
  | abandons => exact ⟨rfl, rfl, rfl⟩

/-- What is answered announces nothing, and can be read. -/
theorem answered (h : c.Takes m c' answers) :
    ∀ n ∈ answers, n.OfRotation ∧ n.Readable ∧ n.announces = false := by
  cases h with
  | drops => exact List.forall_mem_nil _
  | refuses kind thread =>
    refine List.forall_mem_singleton.mpr ⟨kind, ProblemReport.readable_rotation kind ?_, rfl⟩
    rw [thread]
    exact fun t ht => Option.mem_some_iff.mp ht ▸ Thread.plain_replyUnder _ none
  | follows announced =>
    exact List.forall_mem_singleton.mpr ⟨rfl, RotateAck.readable rfl fun t ht =>
      Option.mem_some_iff.mp ht ▸ Thread.plain_replyUnder _ none, rfl⟩
  | commits pending thread => exact List.forall_mem_nil _
  | abandons => exact List.forall_mem_nil _

end Takes

end Connection

namespace Agent

variable [suite : Suite] [chance : Chance] {a a' : Agent} {c c₁ : Connection} {m : Message}
  {result : Except Error (Option Outbound)}

/-! ## Receiving -/

omit chance in
theorem Stores.find?_next {next stored : Connection} (h : Stores a next stored a') :
    a'.connections.find? next.id = some next.next := h.find?_self.trans (congrArg some h.stored_eq)

/-- No report goes back when a message of a rotation cannot be processed. -/
theorem handle_rotation (rotation : m.OfRotation) : (handle m c).run a = (dispatch m c).run a := by
  have unreported (e : Error) : e.problem? m.kind = none := by
    have silent : KnownProblem.ofFailed? m.kind = none := by
      cases m with
      | rotate m => rw [Message.kind, show m.kind = _ from rotation]; rfl
      | rotateAck m => rw [Message.kind, show m.kind = _ from rotation]; rfl
      | rotateProblem m => rw [Message.kind, show m.kind = _ from rotation]; rfl
      | _ => exact rotation.elim
    rw [Error.problem?, silent, ite_self]
  rw [handle, Step.bind_ok (Step.attempt_run _ _)]
  rcases (dispatch m c).run a with ⟨error | answer, a₁⟩
  · dsimp only
    rw [unreported]
    rfl
  · rfl

/-- Nothing comes of a message of a rotation while the exchange lasts. -/
theorem dispatch_incomplete (rotation : m.OfRotation) (state : c.state ≠ .completed) :
    ∃ e, (dispatch m c).run a = (.error e, a) := by
  rcases required : c.requireCompleted with e | ⟨⟩
  · refine ⟨e, ?_⟩
    rw [dispatch, Step.bind_view]
    cases m with
    | rotate m =>
      dsimp only
      rw [processRotate, Step.run_bind, Step.run_bind, Step.run_lift, required]
    | rotateAck m =>
      dsimp only
      rw [processRotateAck, Step.run_bind, Step.run_bind, Step.run_lift, required]
    | rotateProblem m =>
      dsimp only
      rw [processRotateProblem, Step.run_bind, Step.run_bind, Step.run_lift, required]
    | _ => exact rotation.elim
  · exact absurd (requireCompleted_eq_ok.mp required) state

/-- The message has been taken in on the connection, and what is to be sent then answers it. Nothing
that the agent owns or was told is lost. -/
structure TakesIn (a : Agent) (c : Connection) (m : Message)
    (result : Except Error (Option Outbound)) (a' : Agent) (c' : Connection)
    (answers : List Message) : Prop where
  takes : c.Takes m c' answers
  answer : Side.answerOf result = answers.map fun n => ⟨n, c⟩
  continues : Continues c.id a a'
  stored : a'.connections.find? c.id = some c'

omit chance in
/-- A message that fails quietly is dropped. -/
theorem TakesIn.of_quiet {e : Error} (quiet : Quiet a a') (hears : Hears a a')
    (stored : a.connections.find? c.id = some c) : TakesIn a c m (.error e) a' c [] where
  takes := .drops
  answer := rfl
  continues := quiet.continues fun k _ => hears.own k
  stored := quiet.connections ▸ stored

omit chance in
/-- A step that answers nothing takes the message in, or drops it if it fails. -/
theorem TakesIn.of_silent {x : Step Connection} (fails : x.FailsQuietly)
    (hears : Step.Keeps Hears x) (stored : a.connections.find? c.id = some c)
    (takes : ∀ {next a₁}, x.run a = (.ok next, a₁) →
      ∃ c', c'.id = c.id ∧ c.Takes m c'.next [] ∧ Stores a c' next a₁)
    (run : (x >>= fun _ => pure none).run a = (result, a')) :
    ∃ c' answers, TakesIn a c m result a' c' answers := by
  rcases h : x.run a with ⟨error | next, a₁⟩
  all_goals
    rw [Step.run_bind, h] at run
    have heard := hears.of_run h
    cases run
  · exact ⟨c, [], .of_quiet (fails _ _ _ h) heard stored⟩
  · obtain ⟨c', id, takes, stores⟩ := takes h
    exact ⟨_, _, takes, rfl, id ▸ stores.continues fun k _ => heard.own k,
      id ▸ stores.find?_next⟩

theorem dispatch_takes (rotation : m.OfRotation) (stored : a.connections.find? c.id = some c)
    (run : (dispatch m c).run a = (result, a')) :
    ∃ c' answers, TakesIn a c m result a' c' answers := by
  rw [dispatch, Step.bind_view] at run
  cases m with
  | rotate m =>
    rcases h : (processRotate c m).run a with ⟨outcome, a₁⟩
    dsimp only at run
    rw [Step.run_bind, h] at run
    have hears := (processRotate_hears c m).of_run h
    cases processRotate_heeds h with
    | fails quiet =>
      cases run
      exact ⟨c, [], .of_quiet quiet hears stored⟩
    | refuses quiet kind thread =>
      cases run
      exact ⟨c, _, .refuses kind thread, rfl, quiet.continues fun k _ => hears.own k,
        quiet.connections ▸ stored⟩
    | acknowledges completed announced readable stores =>
      cases run
      exact ⟨_, _, .follows announced, rfl, stores.continues fun k _ => hears.own k,
        stores.find?_next⟩
  | rotateAck n =>
    refine TakesIn.of_silent (processRotateAck_failsQuietly n) (processRotateAck_hears n) stored
      (fun h => ?_) run
    obtain ⟨-, r, pending, thread, stores⟩ := processRotateAck_ok h
    exact ⟨c.commitRotation r, rfl, .commits pending thread, stores⟩
  | rotateProblem q =>
    refine TakesIn.of_silent (processRotateProblem_failsQuietly q) (processRotateProblem_hears q)
      stored (fun h => ?_) run
    obtain ⟨-, stores⟩ := processRotateProblem_ok h
    exact ⟨c.dropRotation, rfl, .abandons, stores⟩
  | _ => exact rotation.elim

section Receiving

variable {p : PeerDid} {r : Routing} {e : Envelope} {sender : Option Key}

/-- A message of a rotation that is received for a DID of one's own is taken in on the connection of
the DID. -/
theorem Owns.receive_takes (owns : a.Owns c.id p r) (stored : a.connections.find? c.id = some c)
    (holds : e.Holds m.toJson [r.recipientKey] sender) (readable : m.Readable)
    (rotation : m.OfRotation) (run : (receive e).run a = (result, a')) :
    ∃ c' answers, TakesIn a c m result a' c' answers := by
  rcases receive_cases run with
    ⟨⟨error, rfl⟩, rfl⟩ | ⟨opened, m', c₁, hopen, hm, hc, -, hhandle⟩
  · exact ⟨c, [], .of_quiet (refl _) (refl _) stored⟩
  have found := connectionFor_eq_ok.mp hc
  have unpacked : opened = ⟨m.toJson.sorted, sender, r.recipientKey⟩ :=
    Except.ok.inj (hopen.symm.trans (unpack_run holds owns.held))
  rw [unpacked] at hm found
  obtain rfl : m = m' := Except.ok.inj (readable.read.symm.trans hm)
  rw [handle_rotation rotation] at hhandle
  rcases owns.leads found with same | waiting
  · obtain rfl : c₁ = c := by
      have there := connectionOfKey_stored found
      rw [same, stored] at there
      exact (Option.some.inj there).symm
    exact dispatch_takes rotation stored hhandle
  · -- an invitation that the key leads to is still to be answered
    have state : c₁.state ≠ .completed := by
      rw [waiting]
      decide
    obtain ⟨error, failed⟩ := dispatch_incomplete rotation state (a := a)
    cases failed.symm.trans hhandle
    exact ⟨c, [], .of_quiet (refl a) (refl a) stored⟩

/-- The acknowledgement of the rotation that waits is taken in when it is received on the connection. -/
theorem receiveAck_takes (found : a.connectionOfKey r.recipientKey = .ok (some c))
    (held : a.wallet.holds r.recipientKey = true) {n : RotateAck}
    (holds : e.Holds (Message.rotateAck n).toJson [r.recipientKey] sender)
    (readable : (Message.rotateAck n).Readable) (rotation : (Message.rotateAck n).OfRotation)
    (checked : checkSender (.rotateAck n) c sender a = .ok ()) (completed : c.state = .completed)
    {ρ : PendingRotation} (pending : c.pendingRotation = .ok (some ρ))
    (thread : ρ.threadId = n.threadId) (run : (receive e).run a = (result, a')) :
    TakesIn a c (.rotateAck n) result a' (c.commitRotation ρ).next [] := by
  obtain ⟨next, a₁, taken⟩ :=
    processRotateAck_run completed pending thread (connectionOfKey_stored found)
  have dispatched : (dispatch (.rotateAck n) c).run a = (.ok none, a₁) := by
    rw [dispatch, Step.bind_view]
    exact Step.bind_ok taken
  rw [Agent.receive_run holds readable held found checked, handle_rotation rotation,
    dispatched] at run
  cases run
  obtain ⟨-, ρ', pending', -, stores⟩ := processRotateAck_ok taken
  cases pending.symm.trans pending'
  have hears := (processRotateAck_hears n).of_run taken
  exact ⟨.commits pending thread, rfl, stores.continues fun k _ => hears.own k, stores.find?_next⟩

end Receiving

/-! ## Announcing -/

omit chance in
/-- The agent knows nothing of the DID: neither is it stored, nor does or did a connection go by it. -/
structure Unheard (a : Agent) (did : String) : Prop where
  dids : a.dids.find? did = none
  connections : ∀ c ∈ a.connections.records, (Query.on "did" did).accepts c.tags = false ∧
    (Query.on "previousDids" did).accepts c.tags = false

omit chance in
/-- No stored connection goes or went by a DID that the agent knows nothing of. -/
theorem Unheard.not_mem {did : String} (new : a.Unheard did)
    (stored : a.connections.find? c.id = some c) : did ∉ c.ownDids := by
  intro mem
  obtain ⟨now, before⟩ := new.connections c (Store.find?_eq_some.mp stored).1
  rcases List.mem_append.mp mem with current | previous
  · have named : c.did = some did := Option.mem_toList.mp current
    exact Bool.eq_false_iff.mp now ((Connection.accepts_did_of_some named).mpr rfl)
  · exact Bool.eq_false_iff.mp before (Connection.accepts_previousDids.mpr previous)

omit chance in
/-- A routing to a key that the agent has and has made no DID for. -/
structure Ready (a : Agent) (r : Routing) : Prop where
  sound : r.Sound
  held : a.wallet.holds r.recipientKey = true
  unused : a.didsOfKey r.recipientKey = []

section Announcing

variable {r : Routing} {stored : Connection} {n : Rotate}

/-- An agent that makes a key has all that it had. -/
theorem freshRouting_continues (mediator : Option Mediator) (id : String) :
    Step.Keeps (Continues id) (freshRouting mediator) := by
  intro a
  cases mediator with
  | none =>
    exact ⟨rfl, fun _ held => Wallet.holds_add held _, List.prefix_rfl, fun _ _ => rfl,
      fun _ mem _ => mem⟩
  | some mediator =>
    exact ⟨rfl, fun _ held => Wallet.holds_add held _, List.prefix_rfl, fun _ _ => rfl,
      fun _ mem _ => mem⟩

theorem freshRouting_connections (mediator : Option Mediator) (a : Agent) :
    ((freshRouting mediator).run a).2.connections = a.connections := by
  cases mediator <;> rfl

theorem createRotate_mints (sound : r.Sound) (c : Connection) :
    Step.Keeps (Mints r) (createRotate c (.routing r)) := by
  unfold createRotate rotationDid
  refine .bind (.lift _) fun _ => .bind (.view _) fun _ => .bind (.lift _) fun _ => ?_
  refine .bind (.bind (.view _) fun _ => .bind (createPeerDid_mints sound _) fun _ => .pure _) ?_
  intro told
  refine .bind (fun _ => .of_same rfl) fun id => ?_
  exact .bind (fun _ => .of_same (updateConnection_dids rfl)) fun _ => .pure _

/-- An agent that cannot announce a DID goes on with its connections as they were. -/
theorem createRotate_fails (ready : a.Ready r) {e : Error}
    (h : (createRotate c (.routing r)).run a = (.error e, a')) :
    Continues c.id a a' ∧ a'.connections = a.connections := by
  have quiet := createRotate_failsQuietly (.routing r) _ _ _ h
  have mints := (createRotate_mints ready.sound c).of_run h
  exact ⟨quiet.continues (mints.own ready.unused), quiet.connections⟩

/-- An agent that announces a new DID notes that on its connection. The DID is its own then, if the
counterparty can tell its document. -/
theorem createRotate_announces (ready : a.Ready r)
    (h : (createRotate c (.routing r)).run a = (.ok (n, stored), a')) (new : a.Unheard n.did) :
    ∃ id, n = .new id n.did ∧ stored = (c.noteRotation ⟨id, n.did, r.mediatorId⟩).next ∧
      (a.settings.strictRotation = true → c.pendingRotation = .ok none) ∧
      Continues c.id a a' ∧ a'.connections.find? c.id = some stored ∧
      (PeerDid.form n.did = .ok .hashAndDocument → ∃ p, p.did = n.did ∧ a'.Owns c.id p r) := by
  have mints := (createRotate_mints ready.sound c).of_run h
  obtain ⟨id, peer, a₁, -, strict, hpeer, rfl, dids, stores⟩ := createRotate_ok h
  have continues : Continues c.id a a' := stores.continues (mints.own ready.unused)
  refine ⟨id, rfl, stores.stored_eq, strict, continues, stores.find?_self, fun form => ?_⟩
  obtain ⟨own, tells⟩ := createPeerDid_own ready.sound ready.unused hpeer new.dids
  have made : peer.Made r := tells form
  obtain ⟨d, announced, -⟩ := made.announced form
  refine ⟨peer, rfl, ?_⟩
  exact {
    sound := ready.sound, made, resolves := .inl announced.derivable
    own := by
      rw [didsOfKey, dids]
      exact own
    held := continues.wallet _ ready.held
    others := fun c' mem other => new.connections c' (stores.others c' mem other) }

/-- A DID that the agent makes next can be announced on a completed connection on which no rotation
waits. -/
theorem createRotate_run (ready : a.Ready r) (form : a.settings.rotationForm ≠ .inceptionKey)
    (found : a.connections.find? c.id = some c) (completed : c.state = .completed)
    (free : c.pendingRotation = .ok none)
    (new : ∀ p, r.peerDid a.settings.rotationForm (chance.uuid a.draws.ids)
      (chance.uuid (a.draws.ids + 1)) = .ok p → a.dids.find? p.did = none) :
    ∃ p id a', r.peerDid a.settings.rotationForm (chance.uuid a.draws.ids)
        (chance.uuid (a.draws.ids + 1)) = .ok p ∧
      (createRotate c (.routing r)).run a
        = (.ok (.new id p.did, (c.noteRotation ⟨id, p.did, r.mediatorId⟩).next), a') := by
  obtain ⟨p, a₁, record, hp, -, created, -, gains⟩ := createPeerDid_run ready.sound form new
  let id := chance.uuid a₁.draws.ids
  have found' : (drawId.run a₁).2.connections.find? c.id = some c := by
    change a₁.connections.find? c.id = some c
    rw [gains.connections]
    exact found
  obtain ⟨a', updated, -⟩ :=
    updateConnection_found found' (c.noteRotation ⟨id, p.did, r.mediatorId⟩) rfl rfl
  refine ⟨p, id, a', hp, ?_⟩
  rw [createRotate_made completed free created]
  exact Step.bind_ok updated

end Announcing

end Agent

end Pairwise
