import Pairwise.Proofs.Completion
/-!
# Tags that fields give

Ten fields of a connection are queried by a tag of their name. The tags that they give lie over the
tags of the connection's own making, but a field that is absent gives none, and a tag of its name stays
in its place: there the connection answers for a field that it does not have.

Results:
* `Connection.Field`, `Connection.bears`, `Connection.strays`: what the fields of a connection answer, and
  what other tags under their names do.
* `Connection.lookup_tags`, `Connection.accepts_field`: what is tagged, and what is asked for by it.
* `Agent.findsBy_answers`, `Agent.findsBy_bears`, `Agent.FindsBy.findsByFields`: which connections the
  lookups find.
* `Agent.fields_tagged_iff`: when tags tell the fields, and lookups find by the fields.
* `Agent.not_always_found_by_fields`: a connection without a counterparty can be found by a DID.
-/
namespace Pairwise

namespace Connection

/-- The fields that give tags. -/
inductive Field where
  | state | role | threadId | did | theirDid | invitationId | invitationKey | mediatorId
  | previousDids | previousTheirDids
  deriving DecidableEq, Repr

namespace Field

/-- The name of the tag. -/
def name : Field → String
  | state => "state"
  | role => "role"
  | threadId => "threadId"
  | did => "did"
  | theirDid => "theirDid"
  | invitationId => "invitationId"
  | invitationKey => "invitationKey"
  | mediatorId => "mediatorId"
  | previousDids => "previousDids"
  | previousTheirDids => "previousTheirDids"

/-- The value of the field, if the connection has it. -/
def value (c : Connection) : Field → Option TagValue
  | state => some (.str c.state.name)
  | role => some (.str c.role.name)
  | threadId => c.threadId.map .str
  | did => c.did.map .str
  | theirDid => c.theirDid.map .str
  | invitationId => c.invitationId.map .str
  | invitationKey => c.invitationKey.map .str
  | mediatorId => c.mediatorId.map .str
  | previousDids => some (.list c.previousDids)
  | previousTheirDids => some (.list c.previousTheirDids)

end Field

/-- What is asked for of the fields. -/
abbrev Wanted := List (Field × String)

/-- The query that asks for it. -/
def Wanted.query (wanted : Wanted) : Query := ⟨wanted.map fun (f, text) => (f.name, .str text)⟩

/-- Whether the field of the connection answers to a text. -/
def bears (c : Connection) (f : Field) (text : String) : Bool :=
  (f.value c).any (·.answers (.str text))

/-- Whether the connection lacks the field, but answers to the text by a tag of its own. -/
def strays (c : Connection) (f : Field) (text : String) : Bool :=
  (f.value c).isNone && (c.customTags.lookup f.name).any (·.answers (.str text))

/-- Whether the connection answers to the text when it is asked for the field. -/
def answers (c : Connection) (f : Field) (text : String) : Bool := c.bears f text || c.strays f text

/-- A tag of the connection's own stands in the place of a field that is absent. -/
def Replaces (c : Connection) (f : Field) : Prop :=
  f.value c = none ∧ c.customTags.lookup f.name ≠ none

variable {c : Connection}

/-! ## One connection -/

/-- The tags of the fields lie over those of the connection's own. -/
theorem lookup_tags (c : Connection) (f : Field) :
    c.tags.lookup f.name = (f.value c).or (c.customTags.lookup f.name) := by
  cases f <;> simp [tags, Field.name, Field.value]

theorem lookup_tags_eq_value {f : Field} :
    c.tags.lookup f.name = f.value c ↔ ¬ c.Replaces f := by
  rw [lookup_tags, Replaces]
  cases f.value c with
  | none => rw [Option.none_or, and_iff_right rfl, not_not]
  | some v => simp

/-- A query for a field is answered by the field, or by a tag in its place. -/
theorem accepts_field (c : Connection) (f : Field) (text : String) :
    (Query.on f.name text).accepts c.tags = c.answers f text := by
  have asked : (Query.on f.name text).accepts c.tags
      = (c.tags.lookup f.name).any (·.answers (.str text)) := by
    rw [Bool.eq_iff_iff, Query.accepts_on, Option.any_eq_true]
  rw [asked, lookup_tags, answers, bears, strays]
  cases f.value c with
  | none => rfl
  | some v => exact (Bool.or_false _).symm

theorem accepts_wanted (c : Connection) (wanted : Wanted) :
    wanted.query.accepts c.tags = wanted.all fun (f, text) => c.answers f text := by
  rw [Wanted.query, Query.accepts, List.all_map]
  refine List.all_congr rfl ?_
  rintro ⟨f, text⟩
  refine Eq.trans ?_ (c.accepts_field f text)
  rw [Query.on, Query.accepts, List.all_cons, List.all_nil, Bool.and_true]
  rfl

theorem not_bears_of_strays {f : Field} {text : String} (h : c.strays f text = true) :
    ¬ c.bears f text = true := by
  rw [strays, Bool.and_eq_true, Option.isNone_iff_eq_none] at h
  rw [bears, h.1]
  exact Bool.false_ne_true

/-- A field with a text answers to this text. -/
theorem bears_text {f : Field} {own : Option String} (field : f.value c = own.map .str)
    {text : String} : c.bears f text = true ↔ own = some text := by
  rw [bears, field]
  cases own with
  | none => simp
  | some t => simp [TagValue.answers]

/-- A field with a list answers to every text in it. -/
theorem bears_list {f : Field} {own : List String} (field : f.value c = some (.list own))
    {text : String} : c.bears f text = true ↔ text ∈ own := by
  rw [bears, field]
  simp [TagValue.answers]

/-- The field of the state answers to the state. -/
theorem bears_state {s : ExchangeState} : c.bears .state s.name = true ↔ c.state = s := by
  have queried := c.accepts_field .state s.name
  have unstrayed : c.strays .state s.name = false := rfl
  rw [answers, unstrayed, Bool.or_false] at queried
  rw [← queried]
  exact accepts_state

end Connection

open Connection (Field Wanted)

/-! ## A store -/

namespace Store

variable {s : Store Connection} {has : Connection → Field → String → Bool}

/-- The connections that have all that is wanted. -/
def having (s : Store Connection) (has : Connection → Field → String → Bool) (wanted : Wanted) :
    List Connection :=
  s.records.filter fun c => wanted.all fun (f, text) => has c f text

/-- What is found of things that are wanted in turn: the only connection that has the first of them
that any connection has. -/
inductive Finds (s : Store Connection) (has : Connection → Field → String → Bool) :
    List Wanted → Option Connection → Prop
  | nothing : Finds s has [] none
  | here {wanted : Wanted} {rest : List Wanted} {c : Connection} (sole : s.having has wanted = [c]) :
      Finds s has (wanted :: rest) (some c)
  | later {wanted : Wanted} {rest : List Wanted} {found : Option Connection}
      (missing : s.having has wanted = []) (next : Finds s has rest found) :
      Finds s has (wanted :: rest) found

/-- What is found has all of one thing that is wanted. -/
theorem Finds.has_all {wanted : List Wanted} {c : Connection} (h : s.Finds has wanted (some c)) :
    ∃ asked ∈ wanted, ∀ f text, (f, text) ∈ asked → has c f text = true := by
  generalize hfound : some c = found at h
  induction h with
  | nothing => cases hfound
  | @here first rest c' sole =>
    cases hfound
    have mem : c ∈ s.having has first := sole ▸ List.mem_singleton.mpr rfl
    have all := List.all_eq_true.mp (List.mem_filter.mp mem).2
    exact ⟨first, List.mem_cons_self, fun f text asked => all (f, text) asked⟩
  | later _ _ ih =>
    obtain ⟨asked, mem, all⟩ := ih hfound
    exact ⟨asked, List.mem_cons_of_mem _ mem, all⟩

/-- No connection strays. -/
def Unstrayed (s : Store Connection) : Prop :=
  ∀ c ∈ s.records, ∀ f text, c.strays f text = false

theorem query_wanted (s : Store Connection) (wanted : Wanted) :
    s.query wanted.query = s.having Connection.answers wanted :=
  List.filter_congr fun c _ => c.accepts_wanted wanted

theorem Unstrayed.having_eq (h : s.Unstrayed) (wanted : Wanted) :
    s.having Connection.answers wanted = s.having Connection.bears wanted := by
  refine List.filter_congr fun c mem => List.all_congr rfl ?_
  rintro ⟨f, text⟩
  exact (congrArg (c.bears f text || ·) (h c mem f text)).trans (Bool.or_false _)

theorem Finds.congr {has has' : Connection → Field → String → Bool} {wanted : List Wanted}
    {found : Option Connection} (h : s.Finds has wanted found)
    (same : ∀ wanted, s.having has' wanted = s.having has wanted) : s.Finds has' wanted found := by
  induction h with
  | nothing => exact .nothing
  | here sole => exact .here ((same _).trans sole)
  | later missing _ ih => exact .later ((same _).trans missing) ih

theorem Unstrayed.finds_iff (h : s.Unstrayed) {wanted : List Wanted} {found : Option Connection} :
    s.Finds Connection.answers wanted found ↔ s.Finds Connection.bears wanted found :=
  ⟨fun finds => finds.congr fun wanted => (h.having_eq wanted).symm,
    fun finds => finds.congr h.having_eq⟩

/-- Queries for fields find the connections with the fields, and no others, if and only if none
strays. -/
theorem query_eq_bearing_iff (s : Store Connection) :
    (∀ f text, s.query (.on f.name text) = s.having Connection.bears [(f, text)]) ↔ s.Unstrayed := by
  constructor
  · intro found c mem f text
    by_contra strays
    rw [Bool.not_eq_false] at strays
    have answers : c.answers f text = true := by rw [Connection.answers, strays, Bool.or_true]
    have queried : c ∈ s.query (.on f.name text) :=
      Store.mem_query.mpr ⟨mem, (c.accepts_field f text).trans answers⟩
    rw [found, having, List.mem_filter, List.all_cons, Bool.and_eq_true] at queried
    exact Connection.not_bears_of_strays strays queried.2.1
  · intro h f text
    exact (s.query_wanted [(f, text)]).trans (h.having_eq [(f, text)])

end Store

namespace Agent

/-! ## Lookups -/

theorem firstOf_wanted {s : Store Connection} (wanted : List Wanted) {found : Option Connection} :
    firstOf s (wanted.map Wanted.query) = .ok found ↔ s.Finds Connection.answers wanted found := by
  induction wanted with
  | nil =>
    constructor
    · rintro ⟨⟩
      exact .nothing
    · rintro ⟨⟩
      rfl
  | cons first rest ih =>
    have queried := s.query_wanted first
    constructor
    · intro h
      obtain ⟨one, hone, h⟩ := Outcome.bind_eq_ok.mp h
      cases one with
      | some c =>
        cases h
        exact .here (queried.symm.trans (Store.querySingle_eq_some.mp hone))
      | none => exact .later (queried.symm.trans (Store.querySingle_eq_none.mp hone)) (ih.mp h)
    · intro h
      cases h with
      | here sole => exact firstOf_cons (queried.trans sole)
      | later missing next =>
        rw [List.map_cons, firstOf, Store.querySingle_eq_none.mpr (queried.trans missing)]
        exact ih.mpr next

theorem firstOf_singleton (s : Store Connection) (q : Query) : firstOf s [q] = s.querySingle q := by
  rw [firstOf]
  rcases s.querySingle q with error | one | c <;> rfl

variable [Suite]

/-- How an agent finds connections, if it is known which connection has which fields. -/
structure FindsBy (a : Agent) (has : Connection → Field → String → Bool) : Prop where
  thread : ∀ thread found, a.connectionOfThread thread = .ok found ↔
    a.connections.Finds has [[(.threadId, thread)]] found
  theirDid : ∀ did found, a.connectionOfTheirDid did = .ok found ↔
    a.connections.Finds has [[(.theirDid, did)], [(.previousTheirDids, did)]] found
  invitation : ∀ id, a.connectionsOfInvitation id = a.connections.having has [(.invitationId, id)]
  key : ∀ key found, a.connectionOfKey key = .ok found ↔
    a.connections.Finds has
      (((a.didsOfKey key).flatMap fun r => [[(.did, r.did)], [(.previousDids, r.did)]])
        ++ [[(.invitationKey, key.base58), (.state, ExchangeState.invitationSent.name)]]) found

/-- A connection is found for a field that it has, or for one that it lacks and has a tag of its own in
place of. -/
theorem findsBy_answers (a : Agent) : a.FindsBy Connection.answers where
  thread thread found := by
    rw [connectionOfThread, ← firstOf_singleton]
    exact firstOf_wanted [[(.threadId, thread)]]
  theirDid did found := by
    rw [← firstOf_wanted]
    rfl
  invitation id := by
    rw [← Store.query_wanted]
    rfl
  key key found := by
    rw [← firstOf_wanted, List.map_append, List.map_flatMap]
    rfl

/-- Connections that do not stray are found by their fields. -/
theorem findsBy_bears {a : Agent} (h : a.connections.Unstrayed) : a.FindsBy Connection.bears where
  thread thread found := by
    rw [← h.finds_iff]
    exact a.findsBy_answers.thread thread found
  theirDid did found := by
    rw [← h.finds_iff]
    exact a.findsBy_answers.theirDid did found
  invitation id := by
    rw [← h.having_eq]
    exact a.findsBy_answers.invitation id
  key key found := by
    rw [← h.finds_iff]
    exact a.findsBy_answers.key key found

/-- Connections are found for their own fields. -/
structure FindsByFields (a : Agent) : Prop where
  thread : ∀ thread c, a.connectionOfThread thread = .ok (some c) → c.threadId = some thread
  theirDid : ∀ did c, a.connectionOfTheirDid did = .ok (some c) →
    c.theirDid = some did ∨ did ∈ c.previousTheirDids
  invitation : ∀ id, ∀ c ∈ a.connectionsOfInvitation id, c.invitationId = some id
  key : ∀ key c, a.connectionOfKey key = .ok (some c) →
    (∃ r ∈ a.didsOfKey key, c.did = some r.did ∨ r.did ∈ c.previousDids) ∨
      c.invitationKey = some key.base58 ∧ c.state = .invitationSent

theorem FindsBy.findsByFields {a : Agent} (h : a.FindsBy Connection.bears) : a.FindsByFields where
  thread thread c found := by
    obtain ⟨asked, mem, has⟩ := ((h.thread thread _).mp found).has_all
    obtain rfl := List.mem_singleton.mp mem
    exact (Connection.bears_text rfl).mp (has .threadId thread List.mem_cons_self)
  theirDid did c found := by
    obtain ⟨asked, mem, has⟩ := ((h.theirDid did _).mp found).has_all
    rcases List.mem_cons.mp mem with rfl | mem
    · exact .inl ((Connection.bears_text rfl).mp (has .theirDid did List.mem_cons_self))
    · obtain rfl := List.mem_singleton.mp mem
      exact .inr ((Connection.bears_list rfl).mp (has .previousTheirDids did List.mem_cons_self))
  invitation id c mem := by
    rw [h.invitation, Store.having, List.mem_filter, List.all_cons, Bool.and_eq_true] at mem
    exact (Connection.bears_text rfl).mp mem.2.1
  key key c found := by
    obtain ⟨asked, mem, has⟩ := ((h.key key _).mp found).has_all
    rcases List.mem_append.mp mem with mem | mem
    · obtain ⟨r, own, mem⟩ := List.mem_flatMap.mp mem
      refine .inl ⟨r, own, ?_⟩
      rcases List.mem_cons.mp mem with rfl | mem
      · exact .inl ((Connection.bears_text rfl).mp (has .did r.did List.mem_cons_self))
      · obtain rfl := List.mem_singleton.mp mem
        exact .inr ((Connection.bears_list rfl).mp (has .previousDids r.did List.mem_cons_self))
    · obtain rfl := List.mem_singleton.mp mem
      have invited := has .invitationKey key.base58 List.mem_cons_self
      have waits := has .state _ (List.mem_cons_of_mem _ (List.mem_singleton.mpr rfl))
      exact .inr ⟨(Connection.bears_text rfl).mp invited, Connection.bears_state.mp waits⟩

/-- Tags tell the fields of a connection where none is absent under a tag of the connection's own, and
queries find the connections with a field, and no others, where none strays; then the lookups are by
fields. -/
theorem fields_tagged_iff (a : Agent) :
    (∀ (c : Connection) (f : Field), c.tags.lookup f.name = f.value c ↔ ¬ c.Replaces f) ∧
      a.FindsBy Connection.answers ∧
      ((∀ f text, a.connections.query (.on f.name text)
          = a.connections.having Connection.bears [(f, text)]) ↔ a.connections.Unstrayed) ∧
      (a.connections.Unstrayed → a.FindsBy Connection.bears ∧ a.FindsByFields) :=
  ⟨fun _ _ => Connection.lookup_tags_eq_value, a.findsBy_answers, a.connections.query_eq_bearing_iff,
    fun unstrayed => ⟨findsBy_bears unstrayed, (findsBy_bears unstrayed).findsByFields⟩⟩

end Agent

/-! ## A connection that strays -/

section Plain

attribute [local instance] Suite.plain

/-- An agent with one connection. -/
def Agent.having (c : Connection) : Agent :=
  { plain .hashAndDocument [1] with connections := ⟨[c], List.nodup_singleton _⟩ }

/-- A connection of a counterparty, with tags of its own. -/
def Connection.tagged (theirDid : Option String) (customTags : Tags) : Connection where
  id := "connection-1"
  createdAt := .epoch
  role := .responder
  state := .completed
  theirDid
  customTags

/-- A connection is found by the counterparty's DID, whatever its tags say of other things. -/
theorem Agent.fields_tagged_plain :
    let c := Connection.tagged (some "did:peer:0z6Mk") [("topic", .str "did:peer:0z6Mk")]
    (Agent.having c).connections.Unstrayed ∧
      (Agent.having c).connectionOfTheirDid "did:peer:0z6Mk" = .ok (some c) := by
  intro c
  have unstrayed : (Agent.having c).connections.Unstrayed := by
    intro c' mem f text
    obtain rfl := List.mem_singleton.mp mem
    cases f <;> rfl
  have finds := ((Agent.fields_tagged_iff (.having c)).2.2.2 unstrayed).1
  exact ⟨unstrayed, (finds.theirDid _ _).mpr (.here rfl)⟩

/-- A connection without a counterparty that has a tag of its own in place of the counterparty's DID is
tagged with the DID, and is found by it. -/
theorem Agent.not_always_found_by_fields :
    (¬ ∀ (c : Connection) (f : Field), c.tags.lookup f.name = f.value c) ∧
      ¬ ∀ a : Agent, a.FindsByFields := by
  let c := Connection.tagged none [("theirDid", .str "did:peer:0z6Mk")]
  constructor
  · intro always
    cases always c .theirDid
  · intro always
    rcases (always (.having c)).theirDid "did:peer:0z6Mk" c rfl with own | own
    · cases own
    · cases own

end Plain

end Pairwise
