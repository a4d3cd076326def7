import Mathlib.Logic.Relation
import Pairwise.Proofs.OpenInvitations
import Pairwise.Proofs.RotationSteps
/-!
# Announcements that come again

Nothing on the receiving side of a rotation tells an old announcement from a new one. Once it was
acknowledged it is acknowledged again whenever it comes again, whatever the connection has been
rotated to in the meantime, and the connection goes back to the DID that it announces.

Results:
* `Announced.processRotate_run`: what is acknowledged once is acknowledged by every agent.
* `Agent.GoesOn`: what the announcements that a connection takes in leave as it was.
* `replay_taken_back`: an old announcement takes the connection back, by itself and in its envelope.
-/
namespace Pairwise

open Step

/-! ## What goes on -/

namespace Connection

/-- The connection goes on under other DIDs of its counterparty, and remembers those it had. -/
structure GoesOn (c c' : Connection) : Prop where
  same : c' = { c with
    theirDid := c'.theirDid, previousTheirDids := c'.previousTheirDids, version := c'.version }
  known : ∀ did ∈ c.theirDids, did ∈ c'.theirDids
  named : c.theirDid.isSome = true → c'.theirDid.isSome = true

instance : IsPreorder Connection GoesOn where
  refl c := ⟨rfl, fun _ h => h, fun h => h⟩
  trans c₁ c₂ c₃ h h' := by
    refine ⟨?_, fun did mem => h'.known did (h.known did mem), fun some => h'.named (h.named some)⟩
    rw [h'.same, h.same]

theorem goesOn_withTheirDid (c : Connection) (did : String) :
    c.GoesOn (c.withTheirDid (some did)).next where
  same := rfl
  named := fun _ => rfl
  known := by
    intro x mem
    refine List.mem_append_right _ (mem_remember.mpr ?_)
    exact (List.mem_append.mp mem).imp_left Option.mem_toList.mp

/-- The tags that messages are received by do not name the counterparty. -/
theorem GoesOn.lookup_tags {c c' : Connection} (h : c.GoesOn c') {name : String}
    (own : name ≠ "theirDid" ∧ name ≠ "previousTheirDids") :
    c'.tags.lookup name = c.tags.lookup name := by
  rw [h.same]
  simp [tags, own.1, own.2, invitationId, invitationKey]

end Connection

namespace Query

/-- The query does not ask for the counterparty. -/
def Own (q : Query) : Prop :=
  ∀ condition ∈ q.conditions, condition.1 ≠ "theirDid" ∧ condition.1 ≠ "previousTheirDids"

theorem own_on {name : String} (h : name ≠ "theirDid" ∧ name ≠ "previousTheirDids")
    (value : String) : (on name value).Own := List.forall_mem_singleton.mpr h

theorem Own.and {q : Query} (own : q.Own) {name : String}
    (h : name ≠ "theirDid" ∧ name ≠ "previousTheirDids") (value : String) :
    (q.and name value).Own := List.forall_mem_append.mpr ⟨own, List.forall_mem_singleton.mpr h⟩

end Query

/-- All connections of the store go on, and no others are there. -/
def Store.GoesOn (s s' : Store Connection) : Prop :=
  ∃ next : Connection → Connection, s'.records = s.records.map next ∧
    ∀ c ∈ s.records, c.GoesOn (next c)

namespace Store.GoesOn

variable {s s' : Store Connection}

instance : IsPreorder (Store Connection) Store.GoesOn where
  refl s := ⟨id, s.records.map_id.symm, fun c _ => refl c⟩
  trans s₁ s₂ s₃ := by
    rintro ⟨next, records, goes⟩ ⟨next', records', goes'⟩
    refine ⟨next' ∘ next, by rw [records', records, List.map_map], fun c mem => ?_⟩
    refine IsTrans.trans _ _ _ (goes c mem) (goes' _ ?_)
    rw [records]
    exact List.mem_map_of_mem mem

/-- A stored connection goes on under its id. -/
theorem find? (h : s.GoesOn s') {id : String} {c : Connection} (stored : s.find? id = some c) :
    ∃ c', s'.find? id = some c' ∧ c.GoesOn c' := by
  obtain ⟨next, records, goes⟩ := h
  obtain ⟨mem, rfl⟩ := Store.find?_eq_some.mp stored
  refine ⟨next c, Store.find?_eq_some.mpr ⟨records ▸ List.mem_map_of_mem mem, ?_⟩, goes c mem⟩
  rw [(goes c mem).same]
  rfl

/-- What one connection was found by, it is found by when it has gone on. -/
theorem firstOf (h : s.GoesOn s') {qs : List Query} (own : ∀ q ∈ qs, q.Own) {c : Connection}
    (found : Agent.firstOf s qs = .ok (some c)) :
    ∃ c', Agent.firstOf s' qs = .ok (some c') ∧ c.GoesOn c' := by
  obtain ⟨next, records, goes⟩ := h
  have query (q : Query) (hq : q.Own) : s'.query q = (s.query q).map next := by
    rw [Store.query, Store.query, records, List.filter_map]
    refine congrArg _ (List.filter_congr fun c mem => ?_)
    exact Query.accepts_congr fun condition mem' => (goes c mem).lookup_tags (hq condition mem')
  induction qs with
  | nil => cases found
  | cons q qs ih =>
    obtain ⟨first, rest⟩ := List.forall_mem_cons.mp own
    obtain ⟨answer, asked, found⟩ := Outcome.bind_eq_ok.mp found
    cases answer with
    | some c' =>
      cases found
      have one := Store.querySingle_eq_some.mp asked
      refine ⟨next c, Agent.firstOf_cons (by rw [query q first, one]; rfl), goes c ?_⟩
      have mem : c ∈ s.query q := by
        rw [one]
        exact List.mem_cons_self
      exact (Store.mem_query.mp mem).1
    | none =>
      have none : s'.query q = [] := by
        rw [query q first, Store.querySingle_eq_none.mp asked]
        rfl
      obtain ⟨c', found', goes'⟩ := ih rest found
      refine ⟨c', ?_, goes'⟩
      rw [Agent.firstOf, Store.querySingle_eq_none.mpr none]
      exact found'

end Store.GoesOn

section Rotation

variable [suite : Suite]

/-! ## Acknowledged again -/

namespace Announced

variable {did : String} {d : Document} (h : Announced did d)

include h

/-- The other names of an announced DID can be told. -/
theorem otherNames_ok : ∃ names, Agent.otherNames d.id d = .ok names := by
  have valid : PeerDid.isValid d.id = true := by
    rw [h.id]
    exact PeerDid.isValid_of_form h.form
  rw [Agent.otherNames, if_pos valid, h.id, h.read]
  exact ⟨_, rfl⟩

/-- An announced DID is taken in by every agent, if the keys of its document can be read. -/
theorem saveReceivedDid_run (readable : ∃ texts, d.recipientFingerprints = .ok texts) (a : Agent) :
    ∃ a', (Agent.saveReceivedDid d.id d).run a = (.ok (), a') := by
  obtain ⟨names, hnames⟩ := h.otherNames_ok
  obtain ⟨texts, htexts⟩ := readable
  let record : DidRecord := {
    did := d.id, role := .received, document := some d, createdAt := a.now, fingerprints := texts
    alternatives := names }
  have made : DidRecord.new d.id .received d names a.now = .ok record := by
    rw [DidRecord.new, htexts]
    rfl
  rw [Agent.saveReceivedDid, bind_lift hnames, bind_view, bind_lift made]
  rcases stored : a.dids.find? record.did with _ | old
  · obtain ⟨a', hsave, -⟩ := Agent.saveNewDid_run record stored
    exact ⟨a', hsave⟩
  · refine ⟨a, ?_⟩
    rw [Agent.saveNewDid, bind_view, stored]
    rfl

variable [chance : Chance]

/-- An announcement that can be acknowledged is acknowledged on every completed connection. -/
theorem processRotate_run {m : Rotate} (hdid : m.did = did)
    (readable : ∃ texts, d.recipientFingerprints = .ok texts) {a : Agent} {c : Connection}
    (completed : c.state = .completed) (stored : a.connections.find? c.id = some c) :
    ∃ n a', (Agent.processRotate c m).run a = (.ok ⟨.rotateAck n, c⟩, a') ∧
      a'.connections.find? c.id = some (c.withTheirDid (some did)).next := by
  subst hdid
  obtain ⟨a₁, hsave⟩ := h.saveReceivedDid_run readable (Agent.drawId.run a).2
  have stored₁ : a₁.connections.find? c.id = some c := by
    rw [((Agent.saveReceivedDid_quiet _ _).of_run hsave).connections]
    exact stored
  obtain ⟨a₂, updated, after⟩ :=
    Agent.updateConnection_found stored₁ (c.withTheirDid (some m.did)) rfl rfl
  refine ⟨.new (chance.uuid a.draws.ids) m.threadId .ok, a₂, ?_, after⟩
  have checked := (Agent.checkRotationDid_eq_ok (a := a)).mpr h
  rw [Agent.processRotate, bind_lift (Agent.requireCompleted_eq_ok.mpr completed), bind_view, checked]
  dsimp only
  rw [bind_ok (Agent.drawId_run a), bind_ok hsave, bind_ok updated]
  rfl

end Announced

namespace Agent

/-- The agent has taken in announced DIDs, its connections have gone on, and it has kept its keys. -/
structure GoesOn (a a' : Agent) : Prop where
  wallet : a'.wallet = a.wallet
  hears : Hears a a'
  connections : a.connections.GoesOn a'.connections

instance : IsPreorder Agent GoesOn where
  refl a := ⟨rfl, refl a, refl a.connections⟩
  trans _ _ _ h h' := ⟨h'.wallet.trans h.wallet, IsTrans.trans _ _ _ h.hears h'.hears,
    IsTrans.trans _ _ _ h.connections h'.connections⟩

/-- The key leads to the same connection, wherever that has gone on to. -/
theorem GoesOn.connectionOfKey {a a' : Agent} (h : GoesOn a a') {key : Key} {c : Connection}
    (found : a.connectionOfKey key = .ok (some c)) :
    ∃ c', a'.connectionOfKey key = .ok (some c') ∧ c.GoesOn c' := by
  obtain ⟨more, records, new⟩ := h.hears
  have same : a'.didsOfKey key = a.didsOfKey key :=
    didsOfKey_received records (fun r hr => (new r hr).1) key
  rw [Agent.connectionOfKey] at found ⊢
  rw [same]
  refine h.connections.firstOf (fun q hq => ?_) found
  rcases List.mem_append.mp hq with mem | mem
  · obtain ⟨r, -, hr⟩ := List.mem_flatMap.mp mem
    rcases List.mem_pair.mp hr with rfl | rfl
    · exact Query.own_on (by decide) _
    · exact Query.own_on (by decide) _
  · rw [List.mem_singleton.mp mem]
    exact (Query.own_on (by decide) _).and (by decide) _

variable {a a₁ a₂ : Agent} {c c₁ : Connection} {m : Rotate} {e : Envelope}

theorem Quiet.goesOn (quiet : Quiet a a₁) (hears : Hears a a₁) : GoesOn a a₁ :=
  ⟨quiet.wallet, hears, by rw [quiet.connections]; exact refl a.connections⟩

variable [chance : Chance]

/-- Whatever comes of an announcement, the agent goes on. -/
theorem processRotate_goesOn {result : Except Error Outbound}
    (stored : a.connections.find? c.id = some c)
    (h : (processRotate c m).run a = (result, a₁)) : GoesOn a a₁ := by
  have hears := (processRotate_hears c m).of_run h
  cases processRotate_heeds h with
  | fails quiet => exact quiet.goesOn hears
  | refuses quiet _ _ => exact quiet.goesOn hears
  | acknowledges completed announced readable stores =>
    obtain ⟨-, rfl, replaced⟩ := Store.update_eq_ok.mp stores.update
    refine ⟨stores.wallet, hears, _, congrArg Store.records replaced, fun old mem => ?_⟩
    split
    · next same =>
      obtain rfl : old = c :=
        Option.some.inj ((Store.find?_eq_some.mpr ⟨mem, same⟩).symm.trans stored)
      exact old.goesOn_withTheirDid _
    · exact refl old

/-- Any number of announcements have been taken in on the connection stored under an id, or have been
refused, or have failed. -/
def Rotated (id : String) : Agent → Agent → Prop :=
  Relation.ReflTransGen fun a a' => ∃ c m result, c.id = id ∧
    a.connections.find? id = some c ∧ (processRotate c m).run a = (result, a')

theorem Rotated.goesOn {id : String} (h : Rotated id a a₁) : GoesOn a a₁ := by
  induction h with
  | refl => exact refl a
  | tail _ next ih =>
    obtain ⟨c, m, result, rfl, stored, run⟩ := next
    exact IsTrans.trans _ _ _ ih (processRotate_goesOn stored run)

/-! ## Taken back -/

/-- The step acknowledges an announcement on a connection, which has gone back to the DID then and
remembers the one that it leaves. -/
def TakesBack {α : Type} (a : Agent) (c : Connection) (did : String) (answer : Outbound → α)
    (x : Step α) : Prop :=
  ∃ n a', x.run a = (.ok (answer ⟨.rotateAck n, c⟩), a') ∧
    a'.connections.find? c.id = some (c.withTheirDid (some did)).next

/-- What was acknowledged once is acknowledged on whatever the connection has gone on to. -/
theorem processRotate_takesBack {n : RotateAck}
    (acked : (processRotate c m).run a = (.ok ⟨.rotateAck n, c⟩, a₁))
    (goes : c.GoesOn c₁) (stored : a₂.connections.find? c₁.id = some c₁) :
    TakesBack a₂ c₁ m.did id (processRotate c₁ m) := by
  have heeds := processRotate_heeds acked
  generalize hresult : Except.ok (⟨.rotateAck n, c⟩ : Outbound) = result at heeds
  cases heeds with
  | fails quiet => cases hresult
  | refuses quiet _ _ => cases hresult
  | acknowledges completed announced readable stores =>
    have completed' : c₁.state = .completed := by
      rw [goes.same]
      exact completed
    exact announced.processRotate_run rfl readable completed' stored

omit chance in
/-- An announcement is accepted from a known counterparty only, by a key of one of its DIDs. -/
theorem checkSender_rotate {sender : Option Key} (h : checkSender (.rotate m) c sender a = .ok ()) :
    c.theirDid.isSome = true ∧ ∃ key, sender = some key ∧
      ∃ did ∈ c.theirDids, ∃ d, a.resolve did = .ok d ∧ d.HasKey key := by
  rcases named : c.theirDid with _ | did
  · unfold checkSender at h
    rw [named] at h
    cases h
  · rw [Connection.theirDids_eq named]
    exact ⟨rfl, checkSender_ok h named⟩

/-- The envelope of an announcement is acknowledged again, unless its sender cannot be told: among the
DIDs that the counterparty goes by or went by is one whose keys cannot be read. -/
theorem receive_takesBack {n : RotateAck} (brings : a.Brings e (.rotate m) c)
    (received : (receive e).run a = (.ok (some ⟨.rotateAck n, c⟩), a₁))
    (acked : (processRotate c m).run a = (.ok ⟨.rotateAck n, c⟩, a₁)) (goes : GoesOn a a₂)
    (now : a₂.connections.find? c.id = some c₁) :
    TakesBack a₂ c₁ m.did some (receive e) ∨
      (∃ error, (receive e).run a₂ = (.error error, a₂)) ∧
        ∃ did ∈ c₁.theirDids, ∃ d, a₂.resolve did = .ok d ∧ ¬ d.Legible := by
  rcases receive_cases received with
    ⟨⟨error, failed⟩, -⟩ | ⟨opened, m', c', hopen, hm, hc, checked, -⟩
  · cases failed
  have found := connectionFor_eq_ok.mp hc
  obtain ⟨rfl, rfl⟩ := brings.unique ⟨opened, hopen, hm, found⟩
  obtain ⟨named, key, hkey, did, mem, d, resolved, has⟩ := checkSender_rotate checked
  -- the key leads to the connection that is stored now
  obtain ⟨c₂, found', goes'⟩ := goes.connectionOfKey found
  have id : c₂.id = c.id := by
    rw [goes'.same]
  obtain rfl : c₁ = c₂ := by
    have stored := connectionOfKey_stored found'
    rw [id, now] at stored
    exact Option.some.inj stored
  have hopen' : a₂.unpack e = .ok opened := by
    rw [unpack, goes.wallet]
    exact hopen
  rcases checked' : checkSender (.rotate m) c₁ opened.sender a₂ with error | ⟨⟩
  · -- the key is still known, so that something must have come before it
    refine .inr ⟨⟨error, ?_⟩, ?_⟩
    · rw [receive, bind_ask hopen', bind_lift hm, bind_ask (connectionFor_eq_ok.mpr found'),
        run_bind, run_ask, checked']
    · by_contra none
      push Not at none
      rw [hkey, checkSender_legible ⟨did, goes'.known did mem, d, goes.hears.resolve resolved, has⟩
        (goes'.named named) none] at checked'
      cases checked'
  · obtain ⟨n', a', run, after⟩ := processRotate_takesBack acked goes' (id ▸ now)
    refine .inl ⟨n', a', ?_, after⟩
    rw [receive, bind_ask hopen', bind_lift hm, bind_ask (connectionFor_eq_ok.mpr found'),
      bind_ask checked']
    refine handle_run ?_
    rw [dispatch, bind_view]
    exact bind_ok run

/-- Whatever announcements have come after it, one that was acknowledged is acknowledged when it comes
again, and takes the connection back to its DID: when it is processed, and when its envelope is
received, unless that is not accepted because keys of the counterparty cannot be read. -/
theorem replay_taken_back {n : RotateAck} (stored : a.connections.find? c.id = some c)
    (acked : (processRotate c m).run a = (.ok ⟨.rotateAck n, c⟩, a₁)) (later : Rotated c.id a₁ a₂) :
    ∃ c₂, a₂.connections.find? c.id = some c₂ ∧
      TakesBack a₂ c₂ m.did id (processRotate c₂ m) ∧
      ∀ e, a.Brings e (.rotate m) c → (receive e).run a = (.ok (some ⟨.rotateAck n, c⟩), a₁) →
        TakesBack a₂ c₂ m.did some (receive e) ∨
          (∃ error, (receive e).run a₂ = (.error error, a₂)) ∧
            ∃ did ∈ c₂.theirDids, ∃ d, a₂.resolve did = .ok d ∧ ¬ d.Legible := by
  have goes : GoesOn a a₂ := IsTrans.trans _ _ _ (processRotate_goesOn stored acked) later.goesOn
  obtain ⟨c₂, now, goes'⟩ := goes.connections.find? stored
  have id : c₂.id = c.id := by
    rw [goes'.same]
  refine ⟨c₂, now, processRotate_takesBack acked goes' (id ▸ now), fun e brings received => ?_⟩
  exact receive_takesBack brings received acked goes now

end Agent

end Rotation

/-! ## A rotation that is taken back -/

section Plain

attribute [local instance] Suite.plain Chance.counting

/-- A DID that announces the routing to the key of a seed. -/
theorem Announced.plain (seed : Bytes) : ∃ did d, Announced did d ∧ d.Tells (.plain seed []) := by
  have form : PeerForm.hashAndDocument ≠ .inceptionKey := nofun
  have sound := (Agent.plain_host form seed []).sound
  obtain ⟨p, hp, made⟩ := Routing.peerDid_made sound form "1" "2"
  obtain ⟨d, announced, tells, -⟩ := made.announced (Routing.form_peerDid form hp)
  exact ⟨p.did, d, announced, tells⟩

namespace Agent

/-- A counterparty announces a DID and then another, both are acknowledged, and the connection goes
on under the second. -/
theorem plain_rotated : ∃ (a a₁ a₂ : Agent) (c c₁ c₂ : Connection) (x y : Rotate) (n n' : RotateAck),
    c.state = .completed ∧ x.did ≠ y.did ∧ a.connections.find? c.id = some c ∧
      (processRotate c x).run a = (.ok ⟨.rotateAck n, c⟩, a₁) ∧
      a₁.connections.find? c₁.id = some c₁ ∧
      (processRotate c₁ y).run a₁ = (.ok ⟨.rotateAck n', c₁⟩, a₂) ∧
      a₂.connections.find? c₂.id = some c₂ ∧ c₁.id = c.id ∧ c₂.id = c.id ∧
      c₂.theirDid = some y.did := by
  obtain ⟨did, d, announced, tells⟩ := Announced.plain [1]
  obtain ⟨did', d', announced', tells'⟩ := Announced.plain [2]
  have apart : did ≠ did' := by
    rintro rfl
    obtain rfl := announced.unique announced'
    have keys := Except.ok.inj (tells.recipientKeys.symm.trans tells'.recipientKeys)
    exact absurd keys (by decide)
  let c : Connection := {
    id := "connection", createdAt := .epoch, role := .responder, state := .completed }
  obtain ⟨connections, hsave⟩ : ∃ s, (Store.empty : Store Connection).save c = .ok s := ⟨_, rfl⟩
  let a : Agent := { plain .hashAndDocument [3] with connections }
  have stored : a.connections.find? c.id = some c := Store.find?_save_self hsave
  obtain ⟨n, a₁, acked, stored₁⟩ := announced.processRotate_run (m := .new "1" did) rfl
    ⟨_, tells.recipientFingerprints⟩ rfl stored
  let c₁ : Connection := (c.withTheirDid (some did)).next
  obtain ⟨n', a₂, acked', stored₂⟩ := announced'.processRotate_run (m := .new "2" did') (c := c₁) rfl
    ⟨_, tells'.recipientFingerprints⟩ rfl stored₁
  exact ⟨a, a₁, a₂, c, c₁, (c₁.withTheirDid (some did')).next, .new "1" did, .new "2" did', n, n', rfl,
    apart, stored, acked, stored₁, acked', stored₂, rfl, rfl, rfl⟩

/-- The first announcement comes again, and takes the connection back from the second. -/
theorem plain_taken_back : ∃ (a a₁ a₂ : Agent) (c c₂ : Connection) (x y : Rotate) (n : RotateAck),
    (processRotate c x).run a = (.ok ⟨.rotateAck n, c⟩, a₁) ∧ Rotated c.id a₁ a₂ ∧
      a₂.connections.find? c.id = some c₂ ∧ c₂.theirDid = some y.did ∧ x.did ≠ y.did ∧
      TakesBack a₂ c₂ x.did id (processRotate c₂ x) := by
  obtain ⟨a, a₁, a₂, c, c₁, c₂, x, y, n, n', -, apart, stored, acked, stored₁, acked', stored₂, id₁,
    id₂, theirs⟩ := plain_rotated
  have later : Rotated c.id a₁ a₂ := .single ⟨c₁, y, _, id₁, id₁ ▸ stored₁, acked'⟩
  obtain ⟨c₃, now, back, -⟩ := replay_taken_back stored acked later
  obtain rfl : c₃ = c₂ := by
    rw [← id₂, stored₂] at now
    exact (Option.some.inj now).symm
  exact ⟨a, a₁, a₂, c, c₃, x, y, n, acked, later, now, theirs, apart, back⟩

/-- It is not so that an announcement that comes again, after another one was acknowledged, leaves
the connection as it is. -/
theorem rotation_not_final :
    ¬ ∀ (a a₁ a₂ a₃ : Agent) (c c₁ c₂ : Connection) (x y : Rotate) (n n' : RotateAck)
        (result : Except Error Outbound),
      c.state = .completed → x.did ≠ y.did → a.connections.find? c.id = some c →
      (processRotate c x).run a = (.ok ⟨.rotateAck n, c⟩, a₁) →
      a₁.connections.find? c.id = some c₁ →
      (processRotate c₁ y).run a₁ = (.ok ⟨.rotateAck n', c₁⟩, a₂) →
      a₂.connections.find? c.id = some c₂ →
      (processRotate c₂ x).run a₂ = (result, a₃) → a₃.connections.find? c.id = some c₂ := by
  intro final
  obtain ⟨a, a₁, a₂, c, c₁, c₂, x, y, n, n', completed, apart, stored, acked, stored₁, acked', stored₂,
    id₁, id₂, theirs⟩ := plain_rotated
  have goes : GoesOn a a₂ := IsTrans.trans _ _ _ (processRotate_goesOn stored acked)
    (processRotate_goesOn stored₁ acked')
  obtain ⟨c₃, now, goes'⟩ := goes.connections.find? stored
  obtain rfl : c₃ = c₂ := by
    rw [← id₂, stored₂] at now
    exact (Option.some.inj now).symm
  obtain ⟨n'', a₃, again, after⟩ := processRotate_takesBack acked goes' stored₂
  have kept := final a a₁ a₂ a₃ c c₁ c₃ x y n n' _ completed apart stored acked (id₁ ▸ stored₁) acked'
    now again
  rw [id₂, kept] at after
  have same : c₃.theirDid = some x.did := congrArg Connection.theirDid (Option.some.inj after)
  rw [theirs] at same
  exact apart (Option.some.inj same).symm

end Agent

end Plain

end Pairwise
