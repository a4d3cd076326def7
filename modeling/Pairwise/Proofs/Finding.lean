import Pairwise.Agent.Inbound
import Pairwise.Proofs.Stores
/-!
# How connections and senders are found

Results:
* `firstOf_eq_some`, `connectionOfKey_stored`: a connection that is found is a stored one, and it
  alone answers one of the queries.
* `firstOf_append`, `none_of_firstOf_append`: queries that nothing answers are passed over, and no others.
* `checkSender_ok`: a sender that is accepted has a key of the counterparty.
* `connectionOfKey_own`, `connectionOfKey_waiting`: the connection of a key is that of its DID, or the
  one whose invitation is answered to the key.
* `checkSender_known`: the key of the counterparty's DID is accepted.
* `Document.Legible`, `checkSender_legible`: so is every key of the DIDs it had, if all keys of these
  can be read.
-/
namespace Pairwise

/-- The key is one for messages or one for signatures of the document. -/
def Document.HasKey (document : Document) (key : Key) : Prop :=
  ∃ keys, (document.recipientKeys = .ok keys ∨ document.authenticationKeys = .ok keys) ∧ key ∈ keys

/-- The keys of the document can be read. -/
structure Document.Legible (document : Document) : Prop where
  recipients : ∃ keys, document.recipientKeys = .ok keys
  authentication : ∃ keys, document.authenticationKeys = .ok keys

/-- The DIDs of the counterparty, the one that it has and those that it had. -/
def Connection.theirDids (c : Connection) : List String := c.theirDid.toList ++ c.previousTheirDids

theorem Connection.theirDids_eq {c : Connection} {did : String} (h : c.theirDid = some did) :
    c.theirDids = did :: c.previousTheirDids := by
  rw [theirDids, h]
  rfl

namespace Agent

theorem firstOf_eq_some {s : Store Connection} {qs : List Query} {c : Connection}
    (h : firstOf s qs = .ok (some c)) : ∃ q ∈ qs, s.query q = [c] := by
  induction qs with
  | nil => cases h
  | cons q qs ih =>
    obtain ⟨found, hfound, h⟩ := Outcome.bind_eq_ok.mp h
    cases found with
    | some c' =>
      cases h
      exact ⟨q, List.mem_cons_self, Store.querySingle_eq_some.mp hfound⟩
    | none =>
      obtain ⟨q', hq', hc⟩ := ih h
      exact ⟨q', List.mem_cons_of_mem q hq', hc⟩

theorem firstOf_cons {s : Store Connection} {q : Query} {qs : List Query} {c : Connection}
    (h : s.query q = [c]) : firstOf s (q :: qs) = .ok (some c) := by
  rw [firstOf, Store.querySingle_eq_some.mpr h]
  rfl

/-- Queries that nothing answers are passed over. -/
theorem firstOf_append {s : Store Connection} {qs : List Query} (none : ∀ q ∈ qs, s.query q = [])
    (qs' : List Query) : firstOf s (qs ++ qs') = firstOf s qs' := by
  induction qs with
  | nil => rfl
  | cons q qs ih =>
    obtain ⟨first, rest⟩ := List.forall_mem_cons.mp none
    rw [List.cons_append, firstOf, Store.querySingle_eq_none.mpr first]
    exact ih rest

/-- A connection that answers none of the first queries is found if nothing else answers them. -/
theorem none_of_firstOf_append {s : Store Connection} {qs qs' : List Query} {c : Connection}
    (h : firstOf s (qs ++ qs') = .ok (some c)) (other : ∀ q ∈ qs, ¬ q.accepts c.tags = true) :
    ∀ q ∈ qs, s.query q = [] := by
  induction qs with
  | nil => exact List.forall_mem_nil _
  | cons q qs ih =>
    obtain ⟨first, rest⟩ := List.forall_mem_cons.mp other
    obtain ⟨found, hfound, h⟩ := Outcome.bind_eq_ok.mp h
    cases found with
    | some c' =>
      cases h
      have mem : c ∈ s.query q := Store.querySingle_eq_some.mp hfound ▸ List.mem_cons_self
      exact absurd (Store.mem_query.mp mem).2 first
    | none => exact List.forall_mem_cons.mpr ⟨Store.querySingle_eq_none.mp hfound, ih h rest⟩

theorem holdsKey_eq_true {document : Document} {key : Key} (h : holdsKey document key = .ok true) :
    document.HasKey key := by
  obtain ⟨keys, hkeys, h⟩ := Outcome.bind_eq_ok.mp h
  split at h
  · next hmem => exact ⟨keys, .inl hkeys, List.contains_iff_mem.mp hmem⟩
  · obtain ⟨others, hothers, h⟩ := Outcome.bind_eq_ok.mp h
    have hmem : others.contains key = true := Except.ok.inj h
    exact ⟨others, .inr hothers, List.contains_iff_mem.mp hmem⟩

/-- It can be told of every key whether a document has it, if its keys can be read. -/
theorem holdsKey_legible {document : Document} (legible : document.Legible) (key : Key) :
    ∃ held, holdsKey document key = .ok held ∧ (document.HasKey key → held = true) := by
  obtain ⟨⟨keys, hkeys⟩, others, hothers⟩ := legible
  rw [holdsKey, hkeys, Outcome.ok_bind]
  split
  · exact ⟨true, rfl, fun _ => rfl⟩
  next unheld =>
  refine ⟨others.contains key, by rw [hothers]; rfl, ?_⟩
  rintro ⟨found, same | same, mem⟩
  · cases hkeys.symm.trans same
    exact absurd (List.contains_iff_mem.mpr mem) unheld
  · cases hothers.symm.trans same
    exact List.contains_iff_mem.mpr mem

variable [Suite]

/-- The connection that a key leads to is a stored one. -/
theorem connectionOfKey_stored {key : Key} {a : Agent} {c : Connection}
    (h : a.connectionOfKey key = .ok (some c)) : a.connections.find? c.id = some c := by
  obtain ⟨q, -, hq⟩ := firstOf_eq_some h
  have hc : c ∈ a.connections.query q := by
    rw [hq]
    exact List.mem_singleton.mpr rfl
  exact Store.find?_eq_some.mpr ⟨(Store.mem_query.mp hc).1, rfl⟩

/-- A key of one DID leads to the connection with the DID. -/
theorem connectionOfKey_own {key : Key} {a : Agent} {record : DidRecord} {c : Connection}
    (own : a.didsOfKey key = [record]) (h : a.connections.query (.on "did" record.did) = [c]) :
    a.connectionOfKey key = .ok (some c) := by
  rw [connectionOfKey, own]
  exact firstOf_cons h

/-- A key without a DID leads to the connection that waits for an answer to it. -/
theorem connectionOfKey_waiting {key : Key} {a : Agent} {c : Connection}
    (own : a.didsOfKey key = [])
    (h : a.connections.query
      ((Query.on "invitationKey" key.base58).and "state" ExchangeState.invitationSent.name) = [c]) :
    a.connectionOfKey key = .ok (some c) := by
  rw [connectionOfKey, own]
  exact firstOf_cons h

theorem connectionFor_eq_ok {m : Message} {key : Key} {a : Agent} {c : Connection} :
    connectionFor m key a = .ok c ↔ a.connectionOfKey key = .ok (some c) := by
  unfold connectionFor
  rw [Outcome.bind_eq_ok]
  constructor
  · rintro ⟨found, hfound, h⟩
    cases found with
    | none => cases h
    | some c' =>
      cases h
      exact hfound
  · intro h
    exact ⟨some c, h, rfl⟩

theorem anyHoldsKey_eq_true {a : Agent} {key : Key} {dids : List String}
    (h : anyHoldsKey a key dids = .ok true) :
    ∃ did ∈ dids, ∃ document, a.resolve did = .ok document ∧ document.HasKey key := by
  induction dids with
  | nil => cases h
  | cons did dids ih =>
    unfold anyHoldsKey at h
    split at h
    · obtain ⟨other, hother, found⟩ := ih h
      exact ⟨other, List.mem_cons_of_mem did hother, found⟩
    · next document hdocument =>
      obtain ⟨held, hheld, h⟩ := Outcome.bind_eq_ok.mp h
      cases held with
      | true => exact ⟨did, List.mem_cons_self, document, hdocument, holdsKey_eq_true hheld⟩
      | false =>
        obtain ⟨other, hother, found⟩ := ih h
        exact ⟨other, List.mem_cons_of_mem did hother, found⟩

/-- A message that may come before the counterparty's DID is known can come from anyone until
then. -/
theorem checkSender_stranger {m : Message} {c : Connection} {sender : Option Key} {a : Agent}
    (stranger : c.theirDid = none) (early : comesBeforeDid m = true) :
    checkSender m c sender a = .ok () := by
  unfold checkSender
  rw [stranger]
  dsimp only
  rw [if_pos early]

theorem checkSender_ok {m : Message} {c : Connection} {sender : Option Key} {a : Agent}
    {did : String} (h : checkSender m c sender a = .ok ()) (hdid : c.theirDid = some did) :
    ∃ key, sender = some key ∧
      ∃ name ∈ did :: c.previousTheirDids, ∃ document, a.resolve name = .ok document ∧
        document.HasKey key := by
  unfold checkSender at h
  rw [hdid] at h
  cases sender with
  | none => cases h
  | some key =>
    obtain ⟨held, hheld, h⟩ := Outcome.bind_eq_ok.mp h
    cases held with
    | false => cases h
    | true => exact ⟨key, rfl, anyHoldsKey_eq_true hheld⟩

theorem checkSender_known {m : Message} {c : Connection} {key : Key} {a : Agent} {did : String}
    (hdid : c.theirDid = some did) {d : Document} (hd : a.resolve did = .ok d)
    (keys : d.recipientKeys = .ok [key]) : checkSender m c (some key) a = .ok () := by
  have held : holdsKey d key = .ok true := by
    rw [holdsKey, keys, Outcome.ok_bind, if_pos (List.contains_iff_mem.mpr List.mem_cons_self)]
    rfl
  unfold checkSender
  rw [hdid]
  dsimp only
  rw [anyHoldsKey, hd]
  dsimp only
  rw [held]
  rfl

/-- A key of one of the DIDs is found if the keys of all of them can be read. -/
theorem anyHoldsKey_legible {a : Agent} {key : Key} {dids : List String}
    (legible : ∀ did ∈ dids, ∀ d, a.resolve did = .ok d → d.Legible)
    (has : ∃ did ∈ dids, ∃ d, a.resolve did = .ok d ∧ d.HasKey key) :
    anyHoldsKey a key dids = .ok true := by
  induction dids with
  | nil =>
    obtain ⟨did, mem, -⟩ := has
    cases mem
  | cons did dids ih =>
    obtain ⟨first, rest⟩ := List.forall_mem_cons.mp legible
    unfold anyHoldsKey
    rcases resolved : a.resolve did with error | d
    · refine ih rest ?_
      obtain ⟨other, mem, d, hd, key⟩ := has
      cases mem with
      | head => cases resolved.symm.trans hd
      | tail _ later => exact ⟨other, later, d, hd, key⟩
    · obtain ⟨held, hheld, found⟩ := holdsKey_legible (first d resolved) key
      dsimp only
      rw [hheld, Outcome.ok_bind]
      cases held with
      | true => rfl
      | false =>
        refine ih rest ?_
        obtain ⟨other, mem, d', hd, key⟩ := has
        cases mem with
        | head =>
          cases resolved.symm.trans hd
          exact absurd (found key) Bool.false_ne_true
        | tail _ later => exact ⟨other, later, d', hd, key⟩

theorem checkSender_legible {m : Message} {c : Connection} {key : Key} {a : Agent}
    (has : ∃ did ∈ c.theirDids, ∃ d, a.resolve did = .ok d ∧ d.HasKey key)
    (known : c.theirDid.isSome = true)
    (legible : ∀ did ∈ c.theirDids, ∀ d, a.resolve did = .ok d → d.Legible) :
    checkSender m c (some key) a = .ok () := by
  obtain ⟨did, hdid⟩ := Option.isSome_iff_exists.mp known
  rw [Connection.theirDids_eq hdid] at has legible
  unfold checkSender
  rw [hdid]
  dsimp only
  rw [anyHoldsKey_legible legible has]
  rfl

end Agent

end Pairwise
