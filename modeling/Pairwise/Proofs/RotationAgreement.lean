import Pairwise.Proofs.Completion
import Pairwise.Proofs.RotationCompletion
/-!
# Rotations keep both sides in agreement

Whatever the two sides of a connection do, each of them takes the other to be under the DID that it
has, or under the one that it has announced; and when nothing is under way, under the one that it has.

Results:
* `World.Linked`: two sides under DIDs that they know of each other, before any rotation.
* `rotations_agree`: the agreement in every world that two linked sides come to.
-/
namespace Pairwise

section Agreement

variable [suite : Suite]

/-! ## The agreement -/

/-- One side is linked to the other: its connection stands, the other side goes by its DID and knows it,
no DIDs came before, and no rotation waits. Nothing is under way. -/
structure Side.LinkedTo (mediators : Wallet) (s t : Side) (c d : Connection) : Prop where
  standing : s.agent.Standing c
  agree : d.theirDid = c.did
  shared : ∀ did ∈ c.did, Shared mediators s.agent c.id t.agent did
  unrotated : c.previousDids = [] ∧ c.previousTheirDids = [] ∧ c.pendingRotation = .ok none
  still : s.outbox = [] ∧ s.inbox = []

/-- The two sides are linked to each other, as an exchange leaves them. -/
structure World.Linked (mediators : Wallet) (w : World) (c d : Connection) : Prop where
  requester : w.requester.LinkedTo mediators w.responder c d
  responder : w.responder.LinkedTo mediators w.requester d c

theorem Side.LinkedTo.line {mediators : Wallet} {s t : Side} {c d : Connection}
    (h : s.LinkedTo mediators t c d) (other : t.LinkedTo mediators s d c) :
    Line mediators s t c d := by
  obtain ⟨noDids, -, free⟩ := h.unrotated
  obtain ⟨-, noTheirDids, -⟩ := other.unrotated
  have own : c.ownDids = c.did.toList := by rw [Connection.ownDids, noDids, List.append_nil]
  have theirs : d.theirDids = c.did.toList := by
    rw [Connection.theirDids, noTheirDids, List.append_nil, h.agree]
  have empty : s.underWay t = 0 ∧ t.underWay s = 0 := by
    rw [Side.underWay, Side.underWay, h.still.1, h.still.2, other.still.1, other.still.2]
    exact ⟨rfl, rfl⟩
  exact {
    follows := {
      own := by rw [own, theirs]; exact List.Subset.refl _
      shared := fun did mem => h.shared did (Option.mem_toList.mp (theirs ▸ mem))
      waits := fun ρ waits => by cases free.symm.trans waits }
    sent := by rw [h.still.1]; exact List.forall_mem_nil _
    arriving := by rw [other.still.2]; exact List.forall_mem_nil _
    phase := by
      rw [empty.1, empty.2]
      exact .settled free h.agree rfl rfl }

theorem World.Linked.agree {mediators : Wallet} {w : World} {c d : Connection}
    (h : w.Linked mediators c d) : Agree mediators w.requester w.responder c d where
  here := h.requester.standing
  there := h.responder.standing
  forth := h.requester.line h.responder
  back := h.responder.line h.requester

/-- Two sides that are linked rotate their connection, as often as they like and in any order. In every
world that they come to, each of them has a DID, and the other side goes by that or by the one that
waits in its rotation; and when nothing is under way, by the DID that it has. -/
theorem rotations_agree [chance : Chance] (lawful : suite.Lawful) (drawn : chance.Lawful)
    {mediators : Wallet} {w w' : World} {c d : Connection} (linked : w.Linked mediators c d)
    (run : Relation.ReflTransGen (World.Rotates mediators c.id d.id) w w') :
    ∃ c' d', w'.requester.agent.connections.find? c.id = some c' ∧
      w'.responder.agent.connections.find? d.id = some d' ∧
      c'.did.isSome = true ∧ d'.did.isSome = true ∧ c'.Tracks d' ∧ d'.Tracks c' ∧
      (w'.Still → d'.theirDid = c'.did ∧ c'.theirDid = d'.did) := by
  obtain ⟨c', d', sameC, sameD, agree⟩ := linked.agree.run lawful drawn run
  exact ⟨c', d', sameC ▸ agree.here.stored, sameD ▸ agree.there.stored, agree.here.did,
    agree.there.did, agree.forth.phase.tracks, agree.back.phase.tracks, agree.still⟩

end Agreement

/-! ## Two sides that are linked -/

section Plain

attribute [local instance] Suite.plain Chance.counting

/-- A completed connection under two DIDs. -/
def Connection.between (did theirDid : String) : Connection where
  id := "connection"
  createdAt := .epoch
  role := .responder
  state := .completed
  did := some did
  theirDid := some theirDid

/-- An agent with the key of a seed and one DID for it, on its only connection. -/
def Agent.between (seed : Bytes) (p : PeerDid) (theirDid : String) : Agent where
  settings := { strictRotation := true }
  wallet := (Agent.plain .hashAndDocument seed).wallet
  connections := ⟨[.between p.did theirDid], List.nodup_singleton _⟩
  dids := ⟨[{
    did := p.did, role := .created, document := p.document, createdAt := .epoch
    fingerprints := [(Wallet.keyOf seed).fingerprint], alternatives := [] }], List.nodup_singleton _⟩

/-- A DID that announces the routing to the key of a seed. -/
theorem PeerDid.plain (seed : Bytes) : ∃ p : PeerDid, p.Made (.plain seed []) ∧
    PeerDid.form p.did = .ok .hashAndDocument := by
  have form : PeerForm.hashAndDocument ≠ .inceptionKey := nofun
  obtain ⟨p, hp, made⟩ :=
    Routing.peerDid_made (Agent.plain_host form seed []).sound form "1" "2"
  exact ⟨p, made, Routing.form_peerDid form hp⟩

/-- DIDs of different keys are different. -/
theorem PeerDid.Made.did_ne {p q : PeerDid} {r u : Routing} (hp : p.Made r) (hq : q.Made u)
    (form : PeerDid.form p.did = .ok .hashAndDocument) (apart : r.recipientKey ≠ u.recipientKey) :
    p.did ≠ q.did := by
  intro same
  obtain ⟨d, announced, tells, -⟩ := hp.announced form
  obtain ⟨d', announced', tells', -⟩ := hq.announced (same ▸ form)
  obtain rfl := announced.unique (same ▸ announced')
  have keys := Except.ok.inj (tells.recipientKeys.symm.trans tells'.recipientKeys)
  exact apart (List.cons.inj keys).1

namespace Agent

variable {seed : Bytes} {p : PeerDid} (theirDid : String)

theorem between_owns (made : p.Made (.plain seed []))
    (form : PeerDid.form p.did = .ok .hashAndDocument) :
    (between seed p theirDid).Owns "connection" p (.plain seed []) where
  sound :=
    have notKey : PeerForm.hashAndDocument ≠ .inceptionKey := nofun
    (plain_host notKey seed []).sound
  made := made
  resolves := by
    obtain ⟨d, announced, -⟩ := made.announced form
    exact .inl announced.derivable
  own := by
    refine ⟨_, List.filter_eq_self.mpr (List.forall_mem_singleton.mpr ?_), rfl⟩
    exact DidRecord.accepts_key.mpr ⟨rfl, List.mem_cons_self⟩
  held := Wallet.holds_add_self _ _
  others := fun c mem other => absurd (List.mem_singleton.mp mem ▸ rfl) other

theorem between_standing : (between seed p theirDid).Standing (.between p.did theirDid) where
  stored := Store.find?_eq_some.mpr ⟨List.mem_cons_self, rfl⟩
  completed := rfl
  did := rfl
  theirDid := rfl
  strict := rfl

/-- The key that the agent makes next is ready to be rotated to. -/
theorem between_ready :
    let a := between [1] p theirDid
    Ready { a with
      wallet := a.wallet.add (Chance.seed a.draws.seeds)
      draws := { a.draws with seeds := a.draws.seeds + 1 } } (nextRouting a) := by
  intro a
  have sound := nextRouting_sound (a := a) Suite.plain_lawful (List.cons_ne_nil _ _)
  refine ⟨sound, Wallet.holds_add_self _ _, List.filter_eq_nil_iff.mpr ?_⟩
  refine List.forall_mem_singleton.mpr fun accepted => ?_
  have same := List.mem_singleton.mp (DidRecord.accepts_key.mp accepted).2
  have sized : (Wallet.keyOf [1]).Sized := (Key.usable_keyOf Suite.plain_lawful [1]).sized
  have apart : Wallet.keyOf (Chance.seed 0) ≠ Wallet.keyOf [1] := by decide
  exact apart (Key.fingerprint_inj sound.recipient.sized sized same)

/-- The DIDs of other keys are new to the agent. -/
theorem between_unheard (made : p.Made (.plain seed []))
    (form : PeerDid.form p.did = .ok .hashAndDocument) {q : PeerDid} {r : Routing} (new : q.Made r)
    (apart : Wallet.keyOf seed ≠ r.recipientKey) : (between seed p theirDid).Unheard q.did where
  dids := Store.find?_eq_none.mpr (List.forall_mem_singleton.mpr (made.did_ne new form apart))
  connections := List.forall_mem_singleton.mpr <| by
    refine ⟨Bool.eq_false_iff.mpr fun accepted => ?_, Bool.eq_false_iff.mpr fun accepted => ?_⟩
    · exact made.did_ne new form apart ((Connection.accepts_did_of_some rfl).mp accepted)
    · exact absurd (Connection.accepts_previousDids.mp accepted) List.not_mem_nil

end Agent

/-- Two agents, each with a DID that the other one goes by, are linked. -/
theorem World.between_linked {seed seed' : Bytes} {p q : PeerDid} (hp : p.Made (.plain seed []))
    (hq : q.Made (.plain seed' [])) (form : PeerDid.form p.did = .ok .hashAndDocument)
    (form' : PeerDid.form q.did = .ok .hashAndDocument) :
    World.Linked {} ⟨{ agent := .between seed p q.did }, { agent := .between seed' q p.did }⟩
      (.between p.did q.did) (.between q.did p.did) := by
  have linked {seed seed' : Bytes} {p q : PeerDid} (made : p.Made (.plain seed []))
      (form : PeerDid.form p.did = .ok .hashAndDocument) :
      Side.LinkedTo {} { agent := .between seed p q.did } { agent := .between seed' q p.did }
        (.between p.did q.did) (.between q.did p.did) := by
    have owns := Agent.between_owns q.did made form
    refine ⟨Agent.between_standing q.did, rfl, ?_, ⟨rfl, rfl, rfl⟩, rfl, rfl⟩
    rintro did ⟨⟩
    obtain ⟨d, announced, -⟩ := made.announced form
    exact ⟨p, _, rfl, owns, ⟨owns.sound, made, .inl announced.derivable⟩, nofun⟩
  exact ⟨linked hp form, linked hq form'⟩

/-- One of two linked agents makes a key, and can announce a DID for it. -/
theorem World.between_announces : ∃ (w w₁ : World) (c d c₁ : Connection) (m : Rotate) (a : Agent),
    w.Linked {} c d ∧ w.Rotates {} c.id d.id w₁ ∧ w₁.Still ∧
      Agree {} w₁.requester w₁.responder c d ∧ w₁.requester.agent.Unheard m.did ∧
      PeerDid.form m.did = .ok .hashAndDocument ∧
      ∃ r, w₁.requester.agent.Ready r ∧ r.routingKeys = [] ∧
        (Agent.createRotate c (.routing r)).run w₁.requester.agent = (.ok (m, c₁), a) := by
  obtain ⟨p, hp, form⟩ := PeerDid.plain [1]
  obtain ⟨q, hq, form'⟩ := PeerDid.plain [2]
  have linked := World.between_linked hp hq form form'
  let a : Agent := .between [1] p q.did
  let a₁ : Agent := { a with
    wallet := a.wallet.add (Chance.seed a.draws.seeds)
    draws := { a.draws with seeds := a.draws.seeds + 1 } }
  have ready : a₁.Ready a.nextRouting := Agent.between_ready q.did
  have notKey : PeerForm.hashAndDocument ≠ .inceptionKey := nofun
  have apart : Wallet.keyOf [1] ≠ Wallet.keyOf (Chance.seed 0) := by decide
  have unheard {id id' : String} {p' : PeerDid}
      (h : a.nextRouting.peerDid .hashAndDocument id id' = .ok p') : a₁.Unheard p'.did := by
    have made := Routing.made_of_peerDid ready.sound notKey h
    have new := Agent.between_unheard q.did hp form made apart
    exact ⟨new.dids, new.connections⟩
  have standing : a.Standing (.between p.did q.did) := Agent.between_standing q.did
  let w : World := ⟨{ agent := a }, { agent := .between [2] q p.did }⟩
  let w₁ : World := ⟨{ agent := a₁ }, w.responder⟩
  have made := Agent.freshRouting_run a
  have prepares : w.Rotates {} "connection" "connection" w₁ := .requester (.prepares made)
  have agree : Agree {} w₁.requester w₁.responder (.between p.did q.did) (.between q.did p.did) :=
    linked.agree.prepares made
  obtain ⟨p', id, a₂, hp', announced⟩ := Agent.createRotate_run ready notKey
    (c := .between p.did q.did) standing.stored rfl rfl fun p' h => (unheard h).dids
  have new : a₁.Unheard p'.did := unheard hp'
  have long : PeerDid.form p'.did = .ok .hashAndDocument := Routing.form_peerDid notKey hp'
  have still : w₁.Still := ⟨⟨rfl, rfl⟩, rfl, rfl⟩
  exact ⟨w, w₁, _, _, _, .new id p'.did, a₂, linked, prepares, still, agree, new, long,
    a.nextRouting, ready, rfl, announced⟩

/-- One of two linked agents makes a key and rotates to a DID for it. In the end it goes by that DID,
and so does the other one for it. -/
theorem rotations_agree_rotated : ∃ (w w' : World) (c d c' d' : Connection),
    w.Linked {} c d ∧ Relation.ReflTransGen (World.Rotates {} c.id d.id) w w' ∧ w'.Still ∧
      w'.requester.agent.connections.find? c.id = some c' ∧
      w'.responder.agent.connections.find? d.id = some d' ∧
      c'.did ≠ c.did ∧ d'.theirDid = c'.did ∧ c'.theirDid = d'.did := by
  obtain ⟨w, w₁, c, d, c₁, m, a, linked, prepares, quiet, agree, new, form, r, ready, direct,
    announced⟩ := World.between_announces
  obtain ⟨w', c', d', completes, still, sameC, sameD, agree', did, -⟩ :=
    agree.completes Suite.plain_lawful Chance.counting_lawful quiet ready
      (direct ▸ List.forall_mem_nil _) announced new form
  have run := (Relation.ReflTransGen.single prepares).trans completes
  obtain ⟨c₂, d₂, stored, stored', -, -, -, -, same⟩ :=
    rotations_agree Suite.plain_lawful Chance.counting_lawful linked run
  obtain rfl : c' = c₂ := Option.some.inj ((sameC ▸ agree'.here.stored).symm.trans stored)
  refine ⟨w, w', c, d, c', d₂, linked, run, still, stored, stored', fun e => ?_, same still⟩
  exact new.not_mem agree.here.stored (Connection.mem_ownDids_of_did (e.symm.trans did))

end Plain

end Pairwise
