import Mathlib.Data.List.Nodup
import Pairwise.Proofs.Outcome
import Pairwise.Store
/-!
# What stores hold

Every record of a store is found under its id, since no two records share one. An update puts a
record in place of the one that was read, and leaves all others alone.

Results:
* `find?_eq_some`: the record of an id.
* `save_eq_ok`, `find?_save_self`, `find?_save_of_ne`: a record is added under a new id, and all others stay.
* `update_eq_ok`, `find?_update_self`, `find?_update_of_ne`: a record takes the place of the one in the
  same version.
* `querySingle_eq_some`, `querySingle_eq_duplicate`: the one record that a query accepts, and when there
  are more.
-/
namespace Pairwise

namespace Store

variable {R : Type} [Storable R]

/-- Records are the same if they are stored under the same id. -/
theorem eq_of_id_eq {s : Store R} {r r' : R} (h : r ∈ s.records) (h' : r' ∈ s.records)
    (e : Storable.id r = Storable.id r') : r = r' :=
  List.inj_on_of_nodup_map s.distinct h h' e

/-- A record is found under its id, and nothing else is. -/
theorem find?_eq_some {s : Store R} {id : String} {r : R} :
    s.find? id = some r ↔ r ∈ s.records ∧ Storable.id r = id := by
  constructor
  · intro h
    exact ⟨List.mem_of_find?_eq_some h, by simpa using List.find?_some h⟩
  · rintro ⟨hmem, rfl⟩
    have there : (s.find? (Storable.id r)).isSome :=
      List.find?_isSome.mpr ⟨r, hmem, decide_eq_true rfl⟩
    obtain ⟨found, hfound⟩ := Option.isSome_iff_exists.mp there
    have hid : Storable.id found = Storable.id r := by simpa using List.find?_some hfound
    rw [hfound, eq_of_id_eq (List.mem_of_find?_eq_some hfound) hmem hid]

/-- The record that was stored last is found. -/
theorem find?_last {s : Store R} {front : List R} {r : R} (last : s.records = front ++ [r]) :
    s.find? (Storable.id r) = some r :=
  find?_eq_some.mpr ⟨last ▸ List.mem_append_right _ List.mem_cons_self, rfl⟩

theorem find?_eq_none {s : Store R} {id : String} :
    s.find? id = none ↔ ∀ r ∈ s.records, Storable.id r ≠ id := by
  simp [find?, List.find?_eq_none]

/-- A store with more records has none under an id that neither it nor the others had. -/
theorem find?_eq_none_append {s s' : Store R} {more : List R} {id : String}
    (h : s'.records = s.records ++ more) (new : s.find? id = none)
    (others : ∀ r ∈ more, Storable.id r ≠ id) : s'.find? id = none := by
  refine find?_eq_none.mpr fun r hr => ?_
  rw [h, List.mem_append] at hr
  exact hr.elim (find?_eq_none.mp new r) (others r)

/-- A record that is found as it was in another store is a record of that. -/
theorem mem_of_find?_eq {s s' : Store R} {r : R} (mem : r ∈ s'.records)
    (same : s'.find? (Storable.id r) = s.find? (Storable.id r)) : r ∈ s.records := by
  rw [find?_eq_some.mpr ⟨mem, rfl⟩] at same
  exact (find?_eq_some.mp same.symm).1

theorem get_eq_ok {s : Store R} {id : String} {r : R} : s.get id = .ok r ↔ s.find? id = some r := by
  unfold get
  split
  · next found h => exact ⟨fun e => by cases e; exact h, fun e => by rw [h] at e; cases e; rfl⟩
  · next h => exact ⟨fun e => (nomatch e), fun e => by rw [h] at e; cases e⟩

/-! ## Adding -/

theorem save_eq_ok {s s' : Store R} {r : R} :
    s.save r = .ok s' ↔ s.find? (Storable.id r) = none ∧ s'.records = s.records ++ [r] := by
  unfold save
  split
  · next h =>
    refine ⟨fun e => (nomatch e), fun e => ?_⟩
    rw [e.1] at h
    cases h
  · next h =>
    rw [Option.not_isSome_iff_eq_none] at h
    obtain ⟨records, distinct⟩ := s'
    constructor
    · intro e
      cases e
      exact ⟨h, rfl⟩
    · rintro ⟨-, e⟩
      cases e
      rfl

/-- A record that was there stays there. -/
theorem find?_save_of_some {s s' : Store R} {r old : R} {id : String} (h : s.save r = .ok s')
    (hold : s.find? id = some old) : s'.find? id = some old := by
  obtain ⟨-, records⟩ := save_eq_ok.mp h
  obtain ⟨hmem, hid⟩ := find?_eq_some.mp hold
  refine find?_eq_some.mpr ⟨?_, hid⟩
  rw [records]
  exact List.mem_append_left _ hmem

/-- The new record is found. -/
theorem find?_save_self {s s' : Store R} {r : R} (h : s.save r = .ok s') :
    s'.find? (Storable.id r) = some r := by
  refine find?_eq_some.mpr ⟨?_, rfl⟩
  rw [(save_eq_ok.mp h).2]
  exact List.mem_append_right _ (List.mem_singleton.mpr rfl)

/-- All other records are found as they were. -/
theorem find?_save_of_ne {s s' : Store R} {r : R} {id : String} (h : s.save r = .ok s')
    (hne : id ≠ Storable.id r) : s'.find? id = s.find? id := by
  obtain ⟨-, records⟩ := save_eq_ok.mp h
  rw [find?, find?, records, List.find?_append]
  have other : ¬ Storable.id r = id := fun e => hne e.symm
  simp [other]

/-! ## Updating -/

theorem update_eq_ok {s s' : Store R} {r r' : R} :
    s.update r = .ok (r', s') ↔
      (∃ stored, s.find? (Storable.id r) = some stored ∧
        Storable.version stored = Storable.version r) ∧
      r' = Storable.setVersion (Storable.version r + 1) r ∧ s' = s.replace r' := by
  unfold update
  rw [Outcome.bind_eq_ok]
  constructor
  · rintro ⟨stored, hstored, h⟩
    split at h
    · cases h
    · next hv =>
      cases h
      exact ⟨⟨stored, get_eq_ok.mp hstored, not_not.mp hv⟩, rfl, rfl⟩
  · rintro ⟨⟨stored, hstored, hv⟩, rfl, rfl⟩
    exact ⟨stored, get_eq_ok.mpr hstored, if_neg (not_not_intro hv)⟩

/-- The record that was updated is found as it is then. -/
theorem find?_update_self {s s' : Store R} {r r' : R} (h : s.update r = .ok (r', s')) :
    s'.find? (Storable.id r) = some r' := by
  obtain ⟨⟨stored, hstored, -⟩, hr', rfl⟩ := update_eq_ok.mp h
  obtain ⟨hmem, hid⟩ := find?_eq_some.mp hstored
  have hid' : Storable.id r' = Storable.id r := by rw [hr', Storable.id_setVersion]
  refine find?_eq_some.mpr ⟨List.mem_map.mpr ⟨stored, hmem, ?_⟩, hid'⟩
  exact if_pos (hid.trans hid'.symm)

/-- All other records are found as they were. -/
theorem find?_update_of_ne {s s' : Store R} {r r' : R} {id : String} (h : s.update r = .ok (r', s'))
    (hne : id ≠ Storable.id r) : s'.find? id = s.find? id := by
  obtain ⟨-, hr', rfl⟩ := update_eq_ok.mp h
  have hid' : Storable.id r' = Storable.id r := by rw [hr', Storable.id_setVersion]
  refine Option.ext fun found => ?_
  rw [find?_eq_some, find?_eq_some]
  constructor
  · rintro ⟨hmem, rfl⟩
    obtain ⟨old, hold, rfl⟩ := List.mem_map.mp hmem
    split at hne
    · exact absurd hid' hne
    · next hother => exact ⟨by rwa [if_neg hother], rfl⟩
  · rintro ⟨hmem, rfl⟩
    refine ⟨List.mem_map.mpr ⟨found, hmem, ?_⟩, rfl⟩
    rw [hid']
    exact if_neg hne

/-- The record that was saved last takes its next version in its place. -/
theorem update_last {s : Store R} {front : List R} {r next : R} (last : s.records = front ++ [r])
    (id : Storable.id next = Storable.id r) (version : Storable.version next = Storable.version r) :
    ∃ s', s.update next = .ok (Storable.setVersion (Storable.version next + 1) next, s') ∧
      s'.records = front ++ [Storable.setVersion (Storable.version next + 1) next] := by
  have found : s.find? (Storable.id next) = some r := by
    refine find?_eq_some.mpr ⟨?_, id.symm⟩
    rw [last]
    exact List.mem_append_right _ (List.mem_singleton.mpr rfl)
  refine ⟨_, update_eq_ok.mpr ⟨⟨r, found, version.symm⟩, rfl, rfl⟩, ?_⟩
  have others : ∀ old ∈ front, Storable.id old ≠ Storable.id next := by
    have distinct := s.distinct
    rw [last, List.map_append, List.nodup_append] at distinct
    intro old hold
    rw [id]
    exact distinct.2.2 _ (List.mem_map_of_mem hold) _ (List.mem_map_of_mem List.mem_cons_self)
  have kept (old : R) (hold : old ∈ front) :
      (if Storable.id old = Storable.id (Storable.setVersion (Storable.version next + 1) next)
        then Storable.setVersion (Storable.version next + 1) next else old) = old := by
    rw [Storable.id_setVersion]
    exact if_neg (others old hold)
  change (s.records.map fun old => if Storable.id old = _ then _ else old) = _
  rw [last, List.map_append, List.map_congr_left kept, List.map_id', List.map_singleton,
    Storable.id_setVersion, if_pos id.symm]

/-! ## Queries -/

theorem mem_query {s : Store R} {q : Query} {r : R} :
    r ∈ s.query q ↔ r ∈ s.records ∧ q.accepts (Storable.tags r) = true := List.mem_filter

/-- A query that accepts one record of the store and no other gives it. -/
theorem query_single {s : Store R} {q : Query} {r : R} (mem : r ∈ s.records)
    (accepted : q.accepts (Storable.tags r) = true)
    (others : ∀ r' ∈ s.records, Storable.id r' ≠ Storable.id r →
      q.accepts (Storable.tags r') = false) : s.query q = [r] := by
  have only : ∀ r' ∈ s.query q, r' = r := by
    intro r' mem'
    obtain ⟨there, accepted'⟩ := mem_query.mp mem'
    by_contra other
    have apart : Storable.id r' ≠ Storable.id r := fun same => other (eq_of_id_eq there mem same)
    rw [others r' there apart] at accepted'
    cases accepted'
  have distinct : (s.query q).Nodup := (s.distinct.of_map _).filter _
  have there : r ∈ s.query q := mem_query.mpr ⟨mem, accepted⟩
  cases found : s.query q with
  | nil =>
    rw [found] at there
    cases there
  | cons first rest =>
    rw [found] at only distinct
    obtain ⟨rfl, later⟩ := List.forall_mem_cons.mp only
    obtain ⟨new, -⟩ := List.nodup_cons.mp distinct
    rw [List.eq_nil_iff_forall_not_mem.mpr fun r' mem' => new (later r' mem' ▸ mem')]

/-- A query for one record gives it if it accepts that record and no other. -/
theorem querySingle_eq_some {s : Store R} {q : Query} {r : R} :
    s.querySingle q = .ok (some r) ↔ s.query q = [r] := by
  unfold querySingle
  split
  · next h => rw [h]; simp
  · next found h => rw [h]; simp
  · next h => simp_all

theorem querySingle_eq_none {s : Store R} {q : Query} :
    s.querySingle q = .ok none ↔ s.query q = [] := by
  unfold querySingle
  split
  · next h => rw [h]; simp
  · next found h => rw [h]; simp
  · next h => simp_all

/-- A query is ambiguous if it accepts two records. -/
theorem querySingle_eq_duplicate {s : Store R} {q : Query} :
    (∃ what, s.querySingle q = .error (.recordDuplicate what)) ↔
      ∃ r ∈ s.query q, ∃ r' ∈ s.query q, r ≠ r' := by
  have distinct : (s.query q).Nodup := (List.Nodup.of_map _ s.distinct).filter _
  unfold querySingle
  split
  · next h => rw [h]; simp
  · next found h => rw [h]; simp
  · next none one =>
    refine iff_of_true ⟨_, rfl⟩ ?_
    rcases h : s.query q with _ | ⟨r, _ | ⟨r', rest⟩⟩
    · exact absurd h none
    · exact absurd h (one r)
    · rw [h] at distinct
      refine ⟨r, List.mem_cons_self, r', List.mem_cons_of_mem _ List.mem_cons_self, fun same => ?_⟩
      exact (List.nodup_cons.mp distinct).1 (same ▸ List.mem_cons_self)

end Store

end Pairwise
