import Pairwise.Proofs.Answerability
import Pairwise.Proofs.HeardDids
/-!
# How senders are checked

Whoever writes to a connection that has a counterparty must be the counterparty. The agent goes through the
DIDs that the counterparty has and had, and passes over those that it finds no document for. It cannot pass
over a document that it finds and whose keys for signatures cannot be read, and a counterparty can announce
such a document: if the sender's key was not found before, the check ends there, with the error of that
document, for senders that the later documents would vouch for and for strangers alike.

Results:
* `Agent.Judges`: the check accepts every sender that a document of the counterparty vouches for, and
  fails with a mismatch for all others.
* `Agent.Blocked`: what stands in the way of that.
* `Agent.sender_judged_iff`: in a run from empty stores nothing else does.
* `Agent.sender_not_always_judged`: so it is not always so.
-/
namespace Pairwise

open Step

/-! ## One document -/

theorem Document.hasKey_iff {d : Document} {keys : List Key} (h : d.recipientKeys = .ok keys) {k : Key} :
    d.HasKey k ↔ k ∈ keys ∨ ∃ others, d.authenticationKeys = .ok others ∧ k ∈ others := by
  constructor
  · rintro ⟨found, same | same, mem⟩
    · exact .inl (Except.ok.inj (h.symm.trans same) ▸ mem)
    · exact .inr ⟨found, same, mem⟩
  · rintro (mem | ⟨others, same, mem⟩)
    · exact ⟨keys, .inl h, mem⟩
    · exact ⟨others, .inr same, mem⟩

namespace Agent

/-- It can be told whether a document has a key, unless its keys for signatures would have to be read for
that and cannot be. -/
theorem holdsKey_addressable {d : Document} (addressable : d.Addressable) (k : Key) :
    (∃ held, holdsKey d k = .ok held ∧ (held = true ↔ d.HasKey k) ∧
        (held = false → ∃ others, d.authenticationKeys = .ok others)) ∨
      ¬ d.HasKey k ∧ ∃ e, d.authenticationKeys = .error e ∧ holdsKey d k = .error e := by
  obtain ⟨keys, hkeys⟩ := addressable
  rw [Document.hasKey_iff hkeys, holdsKey, hkeys, Outcome.ok_bind]
  split
  · next recipient =>
    refine .inl ⟨true, rfl, ⟨fun _ => .inl (List.contains_iff_mem.mp recipient), fun _ => rfl⟩, ?_⟩
    intro lacks
    cases lacks
  next stranger =>
  have stranger : k ∉ keys := mt List.contains_iff_mem.mpr stranger
  rcases hothers : d.authenticationKeys with e | others
  · refine .inr ⟨?_, e, rfl, rfl⟩
    rintro (mem | ⟨_, same, -⟩)
    · exact stranger mem
    · cases same
  · refine .inl ⟨others.contains k, rfl, ?_, fun _ => ⟨others, rfl⟩⟩
    rw [List.contains_iff_mem]
    constructor
    · exact fun mem => .inr ⟨others, rfl, mem⟩
    · rintro (mem | ⟨_, same, mem⟩)
      · exact absurd mem stranger
      · exact Except.ok.inj same ▸ mem

/-! ## All documents -/

/-- A document of one of the DIDs has the key. -/
def Vouched [Suite] (a : Agent) (k : Key) (dids : List String) : Prop :=
  ∃ did ∈ dids, ∃ d, a.resolve did = .ok d ∧ d.HasKey k

/-- Among the documents of the DIDs there is one whose keys for signatures cannot be read, and neither this
nor one before it has the key. -/
inductive Blocked [Suite] (a : Agent) (k : Key) : List String → Prop
  | here {did : String} {dids : List String} {d : Document} {e : Error}
      (resolved : a.resolve did = .ok d) (unread : d.authenticationKeys = .error e)
      (lacks : ¬ d.HasKey k) : Blocked a k (did :: dids)
  | later {did : String} {dids : List String} (lacks : ∀ d, a.resolve did = .ok d → ¬ d.HasKey k)
      (rest : Blocked a k dids) : Blocked a k (did :: dids)

section Searching

variable [Suite] {a : Agent} {k : Key} {dids : List String}

theorem vouched_cons {did : String} :
    a.Vouched k (did :: dids) ↔ (∃ d, a.resolve did = .ok d ∧ d.HasKey k) ∨ a.Vouched k dids := by
  rw [Vouched, List.exists_mem_cons_iff]
  rfl

theorem anyHoldsKey_passed {did : String} (lacks : ∀ d, a.resolve did = .ok d → holdsKey d k = .ok false) :
    a.anyHoldsKey k (did :: dids) = a.anyHoldsKey k dids := by
  rw [anyHoldsKey]
  split
  · rfl
  · next d resolved => rw [lacks d resolved]; rfl

theorem anyHoldsKey_resolved {did : String} {d : Document} (resolved : a.resolve did = .ok d) :
    a.anyHoldsKey k (did :: dids) = (do
      if ← holdsKey d k then return true else a.anyHoldsKey k dids) := by
  rw [anyHoldsKey, resolved]

/-- The search ends with the error of a document that stands in the way. -/
theorem Blocked.anyHoldsKey (h : a.Blocked k dids)
    (addressable : ∀ did ∈ dids, ∀ d, a.resolve did = .ok d → d.Addressable) :
    ∃ did ∈ dids, ∃ d e, a.resolve did = .ok d ∧ d.authenticationKeys = .error e ∧
      a.anyHoldsKey k dids = .error e := by
  have ends {did : String} {dids : List String} {d : Document} (resolved : a.resolve did = .ok d)
      {e : Error} (unread : d.authenticationKeys = .error e) (fails : holdsKey d k = .error e) :
      ∃ did' ∈ did :: dids, ∃ d e, a.resolve did' = .ok d ∧ d.authenticationKeys = .error e ∧
        a.anyHoldsKey k (did :: dids) = .error e := by
    refine ⟨did, List.mem_cons_self, d, e, resolved, unread, ?_⟩
    rw [anyHoldsKey_resolved resolved, fails]
    rfl
  induction h with
  | @here did dids d e resolved unread lacks =>
    rcases holdsKey_addressable (addressable did List.mem_cons_self d resolved) k with
      ⟨held, -, has, read⟩ | ⟨-, e', unread', fails⟩
    · cases held with
      | true => exact absurd (has.mp rfl) lacks
      | false =>
        obtain ⟨others, read⟩ := read rfl
        cases unread.symm.trans read
    · exact ends resolved unread' fails
  | @later did dids lacks rest ih =>
    obtain ⟨first, others⟩ := List.forall_mem_cons.mp addressable
    obtain ⟨did', mem, d', e, blocked⟩ := ih others
    rcases resolved : a.resolve did with error | d
    · refine ⟨did', List.mem_cons_of_mem did mem, d', e, ?_⟩
      rwa [anyHoldsKey_passed fun d found => nomatch resolved.symm.trans found]
    rcases holdsKey_addressable (first d resolved) k with ⟨held, tells, has, -⟩ | ⟨-, e', unread, fails⟩
    · obtain rfl : held = false := Bool.eq_false_iff.mpr fun true => lacks d resolved (has.mp true)
      refine ⟨did', List.mem_cons_of_mem did mem, d', e, ?_⟩
      rwa [anyHoldsKey_passed fun d' found => Except.ok.inj (resolved.symm.trans found) ▸ tells]
    · exact ends resolved unread fails

/-- If nothing stands in the way, the search tells whether a document has the key. -/
theorem anyHoldsKey_free (free : ¬ a.Blocked k dids)
    (addressable : ∀ did ∈ dids, ∀ d, a.resolve did = .ok d → d.Addressable) :
    ∃ held, a.anyHoldsKey k dids = .ok held ∧ (held = true ↔ a.Vouched k dids) := by
  induction dids with
  | nil => exact ⟨false, rfl, nofun, fun ⟨_, mem, _⟩ => nomatch mem⟩
  | cons did dids ih =>
    obtain ⟨first, others⟩ := List.forall_mem_cons.mp addressable
    rw [vouched_cons]
    by_cases here : ∃ d, a.resolve did = .ok d ∧ d.HasKey k
    · obtain ⟨d, resolved, key⟩ := here
      refine ⟨true, ?_, fun _ => .inl ⟨d, resolved, key⟩, fun _ => rfl⟩
      rcases holdsKey_addressable (first d resolved) k with ⟨held, tells, has, -⟩ | ⟨lacks, -⟩
      · rw [anyHoldsKey_resolved resolved, tells, has.mpr key]
        rfl
      · exact absurd key lacks
    have lacks (d : Document) (resolved : a.resolve did = .ok d) : ¬ d.HasKey k :=
      fun key => here ⟨d, resolved, key⟩
    obtain ⟨held, tells, has⟩ := ih (fun blocked => free (.later lacks blocked)) others
    refine ⟨held, ?_, has.trans (or_iff_right here).symm⟩
    rw [anyHoldsKey_passed fun d resolved => ?_, tells]
    rcases holdsKey_addressable (first d resolved) k with ⟨held, tells, has, -⟩ | ⟨lacks, e, unread, -⟩
    · rw [tells, Bool.eq_false_iff.mpr fun true => lacks d resolved (has.mp true)]
    · exact absurd (.here resolved unread lacks) free

end Searching

/-! ## The check -/

/-- The check accepts the sender if a document of the counterparty has its key, and fails with a mismatch of
senders if none has. -/
structure Judges [Suite] (a : Agent) (m : Message) (c : Connection) (sender : Option Key) : Prop where
  complete : ∀ k, sender = some k → a.Vouched k c.theirDids → checkSender m c sender a = .ok ()
  uniform : (∀ k, sender = some k → ¬ a.Vouched k c.theirDids) →
    ∃ why, checkSender m c sender a = .error (.senderMismatch why)

section Checking

variable [Suite] {a : Agent} {k : Key} {c : Connection} {m : Message}

theorem checkSender_known_eq (known : c.theirDid.isSome = true) : ∃ why, checkSender m c (some k) a = (do
    if ← a.anyHoldsKey k c.theirDids then return () else .error (.senderMismatch why)) := by
  obtain ⟨did, hdid⟩ := Option.isSome_iff_exists.mp known
  unfold checkSender
  rw [hdid, Connection.theirDids_eq hdid]
  exact ⟨_, rfl⟩

/-- What stands in the way of the search stands in the way of the check. -/
theorem Blocked.checkSender (h : a.Blocked k c.theirDids) (known : c.theirDid.isSome = true)
    (addressable : ∀ did ∈ c.theirDids, ∀ d, a.resolve did = .ok d → d.Addressable) :
    ∃ did ∈ c.theirDids, ∃ d e, a.resolve did = .ok d ∧ d.authenticationKeys = .error e ∧
      checkSender m c (some k) a = .error e := by
  obtain ⟨did, mem, d, e, resolved, unread, fails⟩ := h.anyHoldsKey addressable
  obtain ⟨why, check⟩ := checkSender_known_eq known
  refine ⟨did, mem, d, e, resolved, unread, ?_⟩
  rw [check, fails]
  rfl

theorem Blocked.not_judges (h : a.Blocked k c.theirDids) (known : c.theirDid.isSome = true)
    (addressable : ∀ did ∈ c.theirDids, ∀ d, a.resolve did = .ok d → d.Addressable) :
    ¬ a.Judges m c (some k) := by
  intro judges
  obtain ⟨-, -, d, e, -, unread, fails⟩ := h.checkSender (m := m) known addressable
  by_cases vouched : a.Vouched k c.theirDids
  · cases fails.symm.trans (judges.complete k rfl vouched)
  · obtain ⟨why, mismatch⟩ := judges.uniform fun _ same => Option.some.inj same ▸ vouched
    cases fails.symm.trans mismatch
    exact d.authenticationKeys_fails _ unread

end Checking

variable [suite : Suite] [chance : Chance]

/-- In a run from empty stores, the sender of a message to a connection with a counterparty is accepted if
it is the counterparty, and otherwise refused as somebody else, exactly if no document stands in the way:
one whose keys for signatures cannot be read, where neither it nor one before it has the sender's key. The
check then ends with the error of such a document. -/
theorem sender_judged_iff {a : Agent} {xs : List Operation} {c : Connection}
    (connections : a.connections.records = []) (dids : a.dids.records = [])
    (copies : ∀ id, a.CopiesRead id xs) (stored : (a.after xs).connections.find? c.id = some c)
    (known : c.theirDid.isSome = true) (m : Message) (sender : Option Key) :
    ((a.after xs).Judges m c sender ↔ ∀ k, sender = some k → ¬ (a.after xs).Blocked k c.theirDids) ∧
      ∀ k, sender = some k → (a.after xs).Blocked k c.theirDids →
        ∃ did ∈ c.theirDids, ∃ d e, (a.after xs).resolve did = .ok d ∧
          d.authenticationKeys = .error e ∧ checkSender m c sender (a.after xs) = .error e := by
  have addressable := resolves_addressable connections dids copies stored
  cases sender with
  | none =>
    obtain ⟨did, hdid⟩ := Option.isSome_iff_exists.mp known
    have anonymous : checkSender m c none (a.after xs) =
        .error (.senderMismatch s!"anonymous {m.kind.uri} on connection {c.id}") := by
      unfold checkSender
      rw [hdid]
    exact ⟨⟨fun _ => nofun, fun _ => ⟨nofun, fun _ => ⟨_, anonymous⟩⟩⟩, nofun⟩
  | some k =>
    refine ⟨⟨?_, fun free => ?_⟩, ?_⟩
    · rintro judges _ ⟨⟩ blocked
      exact blocked.not_judges known addressable judges
    · obtain ⟨held, tells, vouched⟩ := anyHoldsKey_free (free k rfl) addressable
      obtain ⟨why, check⟩ := checkSender_known_eq (a := a.after xs) (m := m) (k := k) known
      rw [tells, Outcome.ok_bind] at check
      refine ⟨?_, fun stranger => ?_⟩
      · rintro _ ⟨⟩ has
        rw [check, vouched.mpr has]
        rfl
      · rw [check, Bool.eq_false_iff.mpr fun true => stranger k rfl (vouched.mp true)]
        exact ⟨why, rfl⟩
    · rintro _ ⟨⟩ blocked
      exact blocked.checkSender known addressable

end Agent

/-! ## A document that cannot be passed over -/

section Plain

attribute [local instance] Suite.plain Chance.counting

/-- A document without keys that names one for signatures. -/
def Document.plainDangling : Document := { Document.new "" with authentication := [.reference "#gone"] }

namespace Agent

/-- An agent takes in a request that tells such a document. No sender is found there. -/
theorem plain_dangling : ∃ (a : Agent) (xs : List Operation) (c : Connection),
    a.connections.records = [] ∧ a.dids.records = [] ∧ (∀ id, a.CopiesRead id xs) ∧
      (a.after xs).connections.find? c.id = some c ∧ c.theirDid.isSome = true ∧
        ∀ k, (a.after xs).Blocked k c.theirDids := by
  let a := plain .hashAndDocument [2]
  let r := Routing.plain [2] []
  let p := PeerDid.ofHashAndDocument .plainDangling
  obtain ⟨d, e, hd, services, unread⟩ : ∃ d e, p.document = some d ∧ d.service = [] ∧
      d.authenticationKeys = .error e := ⟨_, _, rfl, rfl, rfl⟩
  have read : PeerDid.ofDid p.did = .ok p := PeerDid.ofDid_ofHashAndDocument (List.forall_mem_nil _)
  have keys : d.recipientKeys = .ok [] := by
    rw [Document.recipientKeys, Document.didcommServices_nil services]
    rfl
  have texts : d.recipientFingerprints = .ok [] := by
    rw [Document.recipientFingerprints, keys]
    rfl
  obtain ⟨a₁, c, m, a₂, invited, -, first, did, taken, last, after⟩ :=
    invites_requested (a := a) rfl r rfl fun _ new => acceptTheirDid_telling read hd texts new []
  have found : a₁.connections.find? c.id = some c :=
    Store.find?_eq_some.mpr ⟨first ▸ List.mem_cons_self, rfl⟩
  have copies (id : String) :
      a.CopiesRead id ([.invite r false none] ++ [.on c (.processRequest m none)]) := by
    refine .append (.of_none fun c y mem => ?_) (fun own => invited.symm ▸ own ▸ found) _
    cases List.mem_singleton.mp mem
  refine ⟨a, _, (requested c m).next, rfl, rfl, copies, ?_, rfl, fun k => ?_⟩
  · rw [after]
    exact Store.find?_eq_some.mpr ⟨last ▸ List.mem_cons_self, rfl⟩
  · refine .here (d := d) (Did.resolve_told (hd ▸ did ▸ read) _) unread ?_
    rw [Document.hasKey_iff keys, unread]
    rintro (mem | ⟨others, same, -⟩)
    · cases mem
    · cases same

/-- A stranger's message to that agent is neither accepted nor refused as one. -/
theorem sender_judged_iff_plain : ∃ (a : Agent) (xs : List Operation) (c : Connection) (m : Message)
    (k : Key), a.connections.records = [] ∧ a.dids.records = [] ∧ (∀ id, a.CopiesRead id xs) ∧
      (a.after xs).connections.find? c.id = some c ∧ c.theirDid.isSome = true ∧
      (a.after xs).Blocked k c.theirDids ∧ ¬ (a.after xs).Judges m c (some k) := by
  obtain ⟨a, xs, c, connections, dids, copies, stored, known, blocked⟩ := plain_dangling
  let m : Message := .hangup (.new "hangup")
  let k := Wallet.keyOf [9]
  have judged := (sender_judged_iff connections dids copies stored known m (some k)).1
  exact ⟨a, xs, c, m, k, connections, dids, copies, stored, known, blocked k,
    fun judges => judged.mp judges k rfl (blocked k)⟩

/-- It is not so that the check accepts the counterparty and fails with a mismatch for everybody else. -/
theorem sender_not_always_judged :
    ¬ ∀ (a : Agent) (xs : List Operation) (c : Connection) (m : Message) (sender : Option Key),
      a.connections.records = [] → a.dids.records = [] → (∀ id, a.CopiesRead id xs) →
      (a.after xs).connections.find? c.id = some c → c.theirDid.isSome = true →
      (a.after xs).Judges m c sender := by
  intro always
  obtain ⟨a, xs, c, connections, dids, copies, stored, known, blocked⟩ := plain_dangling
  have addressable := resolves_addressable connections dids copies stored
  let m : Message := .hangup (.new "hangup")
  let k := Wallet.keyOf [9]
  exact (blocked k).not_judges known addressable
    (always a xs c m (some k) connections dids copies stored known)

end Agent

end Plain

end Pairwise
