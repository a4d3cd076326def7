import Pairwise.Connection.Record
import Pairwise.Did.Record
import Pairwise.Proofs.JsonValues
import Pairwise.Proofs.Stores
/-!
# What queries find

The tags of a connection are its own, and below them the ones that its fields give; a query asks for
these.

Results:
* `Query.accepts_on`, `Query.accepts_and`, `Query.accepts_congr`: what a query asks for.
* `Connection.accepts_did`, `Connection.accepts_previousDids`, `Connection.accepts_state`,
  `Connection.accepts_invitationKey`, `DidRecord.accepts_key`: which connections and DIDs the queries
  for received messages ask for.
* `Store.query_append`, `Store.query_last`: a query of all records asks every part of them.
-/
namespace Pairwise

namespace Tags

variable (tags : Tags) (name n : String)

@[simp] theorem lookup_set (v : TagValue) :
    (tags.set name v).lookup n = if n = name then some v else tags.lookup n :=
  Json.lookup_putMember name v tags n

@[simp] theorem lookup_setSome (s : Option String) :
    (tags.setSome name s).lookup n
      = if n = name then (s.map TagValue.str).or (tags.lookup n) else tags.lookup n := by
  cases s with
  | none => simp [setSome]
  | some s => simp [setSome]

end Tags

namespace Query

/-- A query on one string asks for the tag of its name. -/
theorem accepts_on {name value : String} {tags : Tags} :
    (on name value).accepts tags = true ↔
      ∃ stored, tags.lookup name = some stored ∧ stored.answers (.str value) = true := by
  rw [on, accepts, List.all_cons, List.all_nil, Bool.and_true]
  dsimp only
  cases tags.lookup name with
  | none => exact ⟨nofun, fun ⟨_, h, _⟩ => nomatch h⟩
  | some stored => exact ⟨fun h => ⟨stored, rfl, h⟩, fun ⟨_, e, h⟩ => Option.some.inj e ▸ h⟩

theorem accepts_and {q : Query} {name value : String} {tags : Tags} :
    (q.and name value).accepts tags = true ↔
      q.accepts tags = true ∧ (on name value).accepts tags = true := by
  rw [accepts, accepts, accepts, and, List.all_append, Bool.and_eq_true]
  rfl

/-- A query looks at the tags that it names, and at no others. -/
theorem accepts_congr {q : Query} {tags tags' : Tags}
    (same : ∀ condition ∈ q.conditions, tags'.lookup condition.1 = tags.lookup condition.1) :
    q.accepts tags' = q.accepts tags := by
  rw [Bool.eq_iff_iff, accepts, accepts, List.all_eq_true, List.all_eq_true]
  refine forall₂_congr fun condition mem => ?_
  dsimp only
  rw [same condition mem]

end Query

/-! ## Connections -/

namespace Connection

/-- Only a connection with the DID is asked for by it, if it has no tags of its own. -/
theorem accepts_did {c : Connection} (own : c.customTags = []) {did : String} :
    (Query.on "did" did).accepts c.tags = true ↔ c.did = some did := by
  have found : c.tags.lookup "did" = c.did.map .str := by simp [tags, own]
  rw [Query.accepts_on, found]
  cases c.did with
  | none => simp
  | some d => simp [TagValue.answers]

/-- Only the connection of a thread is asked for by it, if it has no tags of its own. -/
theorem accepts_thread {c : Connection} (own : c.customTags = []) {thread : String} :
    (Query.on "threadId" thread).accepts c.tags = true ↔ c.threadId = some thread := by
  have found : c.tags.lookup "threadId" = c.threadId.map .str := by simp [tags, own]
  rw [Query.accepts_on, found]
  cases c.threadId with
  | none => simp
  | some t => simp [TagValue.answers]

/-- A connection with a DID is asked for by it and no other, whatever tags it has of its own. -/
theorem accepts_did_of_some {c : Connection} {own did : String} (h : c.did = some own) :
    (Query.on "did" did).accepts c.tags = true ↔ own = did := by
  have found : c.tags.lookup "did" = some (.str own) := by simp [tags, h]
  rw [Query.accepts_on, found]
  simp [TagValue.answers]

/-- A connection is asked for by the DIDs that it had. -/
theorem accepts_previousDids {c : Connection} {did : String} :
    (Query.on "previousDids" did).accepts c.tags = true ↔ did ∈ c.previousDids := by
  have found : c.tags.lookup "previousDids" = some (.list c.previousDids) := by simp [tags]
  rw [Query.accepts_on, found]
  simp [TagValue.answers]

/-- A connection is asked for by the state that it is in. -/
theorem accepts_state {c : Connection} {s : ExchangeState} :
    (Query.on "state" s.name).accepts c.tags = true ↔ c.state = s := by
  have found : c.tags.lookup "state" = some (.str c.state.name) := by simp [tags]
  have names : c.state.name = s.name ↔ c.state = s := by cases c.state <;> cases s <;> decide
  rw [Query.accepts_on, found]
  simp [TagValue.answers, names]

/-- A connection is asked for by the key to which its invitation is answered, and by no other. -/
theorem accepts_invitation {c : Connection} {own key : String} (first : c.invitationKey = some own) :
    (Query.on "invitationKey" key).accepts c.tags = true ↔ own = key := by
  have found : c.tags.lookup "invitationKey" = some (.str own) := by simp [tags, first]
  rw [Query.accepts_on, found]
  simp [TagValue.answers]

/-- The connection whose invitation is answered to the key, while it waits, is asked for by the
key. -/
theorem accepts_invitationKey {c : Connection} {key : String} (first : c.invitationKey = some key) :
    ((Query.on "invitationKey" key).and "state" ExchangeState.invitationSent.name).accepts c.tags
      = true ↔ c.state = .invitationSent := by
  rw [Query.accepts_and, accepts_invitation first, accepts_state]
  exact and_iff_right rfl

end Connection

/-! ## DIDs -/

namespace DidRecord

/-- A DID of the agent's own is asked for by its recipient keys. -/
theorem accepts_key {r : DidRecord} {fingerprint : String} :
    ((Query.on "role" DidRole.created.name).and "recipientKeyFingerprints" fingerprint).accepts r.tags
      = true ↔ r.role = .created ∧ fingerprint ∈ r.fingerprints := by
  have role : r.tags.lookup "role" = some (.str r.role.name) := rfl
  have keys : r.tags.lookup "recipientKeyFingerprints" = some (.list r.fingerprints) := rfl
  rw [Query.accepts_and, Query.accepts_on, Query.accepts_on, role, keys]
  have names : r.role.name = DidRole.created.name ↔ r.role = .created := by
    cases r.role <;> decide
  simp [TagValue.answers, names]

end DidRecord

/-! ## Parts of stores -/

namespace Store

variable {R : Type} [Storable R]

theorem query_append {s s₀ : Store R} {more : List R} (h : s.records = s₀.records ++ more)
    (q : Query) : s.query q = s₀.query q ++ more.filter fun r => q.accepts (Storable.tags r) := by
  rw [query, h, List.filter_append]
  rfl

/-- A query that accepts the last record and no other gives it. -/
theorem query_last {s : Store R} {front : List R} {r : R} (last : s.records = front ++ [r])
    {q : Query} (others : ∀ r' ∈ front, q.accepts (Storable.tags r') = false)
    (accepted : q.accepts (Storable.tags r) = true) : s.query q = [r] := by
  have none : front.filter (fun r' => q.accepts (Storable.tags r')) = [] :=
    List.filter_eq_nil_iff.mpr fun r' hr' => by
      rw [others r' hr']
      exact nofun
  rw [query, last, List.filter_append, none, List.filter_cons, if_pos accepted]
  rfl

end Store

end Pairwise
