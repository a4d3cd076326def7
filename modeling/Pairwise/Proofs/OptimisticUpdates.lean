import Mathlib.Data.List.Induction
import Mathlib.Logic.Function.Basic
import Mathlib.Logic.Relation
import Pairwise.Did.Record
import Pairwise.Proofs.Stores
/-!
# Clients that share a store

Any number of clients read records of one store, change their copies, and write them back, each call
at one moment, in any order. Beside the store stands the history of the writes that succeeded; every
write names the record that its writer had, as it was when it was read.

Results:
* `Shared.Next`, `Shared.Reachable`: the runs of the clients.
* `History.version_eq`: versions count the updates.
* `Shared.Reachable.keeps`: what is stored, and what every client has, follows from the history.
* `Shared.Reachable.losesNothing`: an update succeeds on a copy that no other update has overtaken,
  and on no other.
-/
namespace Pairwise

namespace Store

/-- A write that succeeded. -/
structure Write (R : Type) where
  /-- The record as its writer had read it, or none for a record that is new. -/
  base : Option R
  /-- The record as it was stored. -/
  stored : R

/-- A client's copy of a record. -/
structure Copy (R : Type) where
  /-- The record as the client has changed it. -/
  record : R
  /-- The record as it was stored when the client read it, saved it or last updated it. -/
  base : R
  /-- How many writes there had been by then. -/
  since : Nat

/-- A store with its clients' copies. -/
structure Shared (κ R : Type) [Storable R] where
  store : Store R
  copies : κ → Option (Copy R)
  log : List (Write R)

namespace Shared

variable {κ R : Type} [Storable R]

/-- No client has read anything yet. -/
def start (s : Store R) : Shared κ R := ⟨s, fun _ => none, []⟩

variable [DecidableEq κ]

/-- A client has this copy from now on. -/
def put (w : Shared κ R) (k : κ) (c : Copy R) : Shared κ R :=
  { w with copies := Function.update w.copies k (some c) }

/-- A client has a copy of a record, as it is stored now. -/
def take (w : Shared κ R) (k : κ) (r : R) : Shared κ R := w.put k ⟨r, r, w.log.length⟩

/-- A client saves a record, and has a copy of it if that succeeds. -/
def save (w : Shared κ R) (k : κ) (r : R) : Shared κ R :=
  match w.store.save r with
  | .ok s => take { w with store := s, log := w.log ++ [⟨none, r⟩] } k r
  | .error _ => w

/-- A client updates its copy. -/
def update (w : Shared κ R) (k : κ) (c : Copy R) : Shared κ R :=
  match w.store.update c.record with
  | .ok (r, s) => take { w with store := s, log := w.log ++ [⟨some c.base, r⟩] } k r
  | .error _ => w

/-- One client does one thing: it reads a record by its id or by a query, changes its copy but not
its id or version, or writes. -/
inductive Next (w : Shared κ R) : Shared κ R → Prop
  | finds {k : κ} {id : String} {r : R} (found : w.store.find? id = some r) : Next w (w.take k r)
  | queries {k : κ} {q : Query} {r : R} (found : r ∈ w.store.query q) : Next w (w.take k r)
  | edits {k : κ} {c : Copy R} {r : R} (held : w.copies k = some c)
      (id : Storable.id r = Storable.id c.record)
      (version : Storable.version r = Storable.version c.record) :
      Next w (w.put k { c with record := r })
  | saves {k : κ} {r : R} : Next w (w.save k r)
  | updates {k : κ} {c : Copy R} (held : w.copies k = some c)
      (bounded : (Storable.version c.record).toNat + 1 < UInt64.size) : Next w (w.update k c)

/-- The clients have come so far, in any number of steps. -/
def Reachable : Shared κ R → Shared κ R → Prop := Relation.ReflTransGen Next

end Shared

/-! ## Histories -/

/-- An item of a list is the last of it, or comes before the last. -/
theorem split_append {α : Type} {log before after : List α} {x y : α}
    (e : log ++ [y] = before ++ x :: after) :
    (y = x ∧ log = before) ∨ ∃ after', log = before ++ x :: after' := by
  rcases List.eq_nil_or_concat after with rfl | ⟨after', z, rfl⟩
  · obtain ⟨rfl, hyx⟩ := List.append_inj' e rfl
    cases hyx
    exact .inl ⟨rfl, rfl⟩
  · have e' : log ++ [y] = (before ++ x :: after') ++ [z] := by simpa using e
    exact .inr ⟨after', (List.append_inj' e' rfl).1⟩

section

variable {R : Type} [Storable R]

/-- The record of an id after some writes. -/
def latest (first : Store R) (id : String) (log : List (Write R)) : Option R :=
  log.foldl (fun r x => if Storable.id x.stored = id then some x.stored else r) (first.find? id)

/-- How many updates of an id there are among some writes. -/
def updates (id : String) (log : List (Write R)) : Nat :=
  log.countP fun x => x.base.isSome && decide (Storable.id x.stored = id)

variable {first : Store R} {id : String} {log : List (Write R)} {r : R}

@[simp] theorem latest_nil : latest first id [] = first.find? id := rfl

@[simp] theorem latest_append (x : Write R) : latest first id (log ++ [x])
    = if Storable.id x.stored = id then some x.stored else latest first id log := by
  simp [latest, List.foldl_append]

@[simp] theorem updates_nil : updates id ([] : List (Write R)) = 0 := rfl

@[simp] theorem updates_append (x : Write R) : updates id (log ++ [x])
    = updates id log + if x.base.isSome && decide (Storable.id x.stored = id) then 1 else 0 := by
  simp [updates, List.countP_append, List.countP_singleton]

/-- Of some writes, those until a moment are all of them, or were there before the last. -/
theorem latest_take_append {x : Write R} {n : Nat} (hn : n ≤ (log ++ [x]).length)
    (hr : latest first id ((log ++ [x]).take n) = some r) :
    (latest first id (log ++ [x]) = some r ∧ (log ++ [x]).drop n = []) ∨
      n ≤ log.length ∧ latest first id (log.take n) = some r ∧
        (log ++ [x]).drop n = log.drop n ++ [x] := by
  obtain rfl | hlt := Nat.eq_or_lt_of_le hn
  · rw [List.take_length] at hr
    exact .inl ⟨hr, List.drop_length⟩
  · rw [List.length_append] at hlt
    have hn' : n ≤ log.length := Nat.le_of_lt_succ hlt
    rw [List.take_append_of_le_length hn'] at hr
    exact .inr ⟨hn', hr, List.drop_append_of_le_length hn'⟩

/-- What no write has stored was not there, and is not updated. -/
theorem latest_eq_none (h : latest first id log = none) :
    first.find? id = none ∧ updates id log = 0 := by
  induction log using List.reverseRecOn with
  | nil => exact ⟨h, rfl⟩
  | append_singleton log x ih =>
    rw [latest_append] at h
    split at h
    · cases h
    · next hid =>
      obtain ⟨hfirst, hnone⟩ := ih h
      exact ⟨hfirst, by simp [hnone, hid]⟩

/-- A record was there before all writes, or one of them saved it. -/
def Began (first : Store R) (id : String) (log : List (Write R)) (r : R) : Prop :=
  first.find? id = some r ∨ first.find? id = none ∧ Storable.id r = id ∧ ⟨none, r⟩ ∈ log

theorem Began.append (h : Began first id log r) (x : Write R) : Began first id (log ++ [x]) r :=
  h.imp_right fun ⟨new, hid, hmem⟩ => ⟨new, hid, List.mem_append_left _ hmem⟩

/-- Writes each of which follows on what is stored before it: a save on nothing, and an update on
the record that its writer had, in the next version. -/
inductive History (first : Store R) : List (Write R) → Prop
  | none : History first []
  | save {log : List (Write R)} {r : R} (before : History first log)
      (new : latest first (Storable.id r) log = .none) : History first (log ++ [⟨.none, r⟩])
  | update {log : List (Write R)} {b r : R} (before : History first log)
      (base : latest first (Storable.id r) log = some b)
      (version : (Storable.version r).toNat = (Storable.version b).toNat + 1) :
      History first (log ++ [⟨some b, r⟩])

namespace History

/-- A record that is stored stays stored. Its version counts the updates since; if there are none,
it is the record itself that is stored. -/
theorem version_eq (h : History first log) {n : Nat} (hn : n ≤ log.length)
    (hr : latest first id (log.take n) = some r) :
    ∃ r', latest first id log = some r' ∧
      (Storable.version r').toNat = (Storable.version r).toNat + updates id (log.drop n) ∧
      (updates id (log.drop n) = 0 → r' = r) := by
  induction h with
  | none => exact ⟨r, by simpa using hr, by simp, fun _ => rfl⟩
  | @save log x _ new ih =>
    rcases latest_take_append hn hr with ⟨last, none⟩ | ⟨hn', hr', drop⟩
    · exact ⟨r, last, by simp [none], fun _ => rfl⟩
    obtain ⟨r', hr', hv⟩ := ih hn' hr'
    -- The id of a new record is not the one that is stored.
    have other : Storable.id x ≠ id := by
      rintro rfl
      rw [new] at hr'
      cases hr'
    refine ⟨r', by rw [latest_append, if_neg other, hr'], ?_⟩
    rw [drop, updates_append]
    simpa using hv
  | @update log b x _ base version ih =>
    rcases latest_take_append hn hr with ⟨last, none⟩ | ⟨hn', hr', drop⟩
    · exact ⟨r, last, by simp [none], fun _ => rfl⟩
    obtain ⟨r', hr', hv⟩ := ih hn' hr'
    rw [drop, updates_append, latest_append]
    by_cases hid : Storable.id x = id
    · subst hid
      rw [base] at hr'
      cases hr'
      exact ⟨x, if_pos rfl, by simp [version, hv, Nat.add_assoc], by simp⟩
    · exact ⟨r', by rw [if_neg hid, hr'], by simpa [hid] using hv⟩

/-- Every write follows on what is stored just before it. -/
theorem base_eq (h : History first log) {before after : List (Write R)} {x : Write R}
    (hlog : log = before ++ x :: after) : x.base = latest first (Storable.id x.stored) before := by
  induction h generalizing after with
  | none => simp at hlog
  | save _ new ih =>
    rcases split_append hlog with ⟨rfl, rfl⟩ | ⟨after', h⟩
    · exact new.symm
    · exact ih h
  | update _ base _ ih =>
    rcases split_append hlog with ⟨rfl, rfl⟩ | ⟨after', h⟩
    · exact base.symm
    · exact ih h

/-- What was written has a version no later than what is stored. -/
theorem version_le (h : History first log) {x : Write R} (hx : x ∈ log)
    (hr : latest first (Storable.id x.stored) log = some r) :
    (Storable.version x.stored).toNat ≤ (Storable.version r).toNat := by
  obtain ⟨before, after, rfl⟩ := List.append_of_mem hx
  have there : latest first (Storable.id x.stored)
      ((before ++ x :: after).take (before.length + 1)) = some x.stored := by
    rw [List.append_cons, List.take_left' (by simp), latest_append, if_pos rfl]
  obtain ⟨r', hr', hv, -⟩ := h.version_eq (by simp) there
  rw [hr] at hr'
  cases hr'
  rw [hv]
  exact Nat.le_add_right _ _

/-- An update makes the next version. -/
theorem next (h : History first log) {x : Write R} (hx : x ∈ log) {b : R} (hb : x.base = some b) :
    (Storable.version x.stored).toNat = (Storable.version b).toNat + 1 := by
  induction h with
  | none => cases hx
  | save before new ih =>
    rcases List.mem_append.mp hx with hx | hx
    · exact ih hx
    · rw [List.mem_singleton.mp hx] at hb
      cases hb
  | update before base version ih =>
    rcases List.mem_append.mp hx with hx | hx
    · exact ih hx
    · rw [List.mem_singleton.mp hx] at hb ⊢
      cases hb
      exact version

/-- No two updates of an id were made on the same version. -/
theorem pairwise (h : History first log) : log.Pairwise fun x y => ∀ b b',
    x.base = some b → y.base = some b' → Storable.id x.stored = Storable.id y.stored →
    Storable.version b ≠ Storable.version b' := by
  induction h with
  | none => exact .nil
  | save before new ih =>
    refine List.pairwise_append.mpr ⟨ih, List.pairwise_singleton _ _, ?_⟩
    intro x hx y hy b b' hb hb'
    rw [List.mem_singleton.mp hy] at hb'
    exact nomatch hb'
  | @update log d r before base version ih =>
    refine List.pairwise_append.mpr ⟨ih, List.pairwise_singleton _ _, ?_⟩
    intro x hx y hy b b' hb hb' hid same
    rw [List.mem_singleton.mp hy] at hb' hid
    cases hb'
    rw [← hid] at base
    have later : (Storable.version b).toNat + 1 ≤ (Storable.version d).toNat := by
      rw [← before.next hx hb]
      exact before.version_le hx base
    rw [same] at later
    exact Nat.lt_irrefl _ later

/-- The version that is stored is the one that a record began with, and one more for each update. -/
theorem version_stored (h : History first log) (hr : latest first id log = some r) :
    ∃ r₀, Began first id log r₀ ∧
      (Storable.version r).toNat = (Storable.version r₀).toNat + updates id log := by
  induction h generalizing r with
  | none => exact ⟨r, .inl hr, rfl⟩
  | @save log x _ new ih =>
    rw [latest_append] at hr
    split at hr
    · next hid =>
      cases hr
      subst hid
      obtain ⟨hfirst, hnone⟩ := latest_eq_none new
      refine ⟨x, .inr ⟨hfirst, rfl, List.mem_append_right _ (List.mem_singleton.mpr rfl)⟩, ?_⟩
      simp [hnone]
    · next hid =>
      obtain ⟨r₀, hr₀, hv⟩ := ih hr
      exact ⟨r₀, hr₀.append _, by simpa using hv⟩
  | @update log b x _ base version ih =>
    rw [latest_append] at hr
    split at hr
    · next hid =>
      cases hr
      subst hid
      obtain ⟨r₀, hr₀, hv⟩ := ih base
      exact ⟨r₀, hr₀.append _, by simp [version, hv, Nat.add_assoc]⟩
    · next hid =>
      obtain ⟨r₀, hr₀, hv⟩ := ih hr
      exact ⟨r₀, hr₀.append _, by simpa [hid] using hv⟩

end History

end

/-! ## What the clients have -/

namespace Shared

variable {κ R : Type} [Storable R] {first : Store R} {w : Shared κ R}

/-- A copy is of a record that was stored when the client had it last, in the id and the version of
then. -/
structure Holds (first : Store R) (log : List (Write R)) (c : Copy R) : Prop where
  id : Storable.id c.record = Storable.id c.base
  version : Storable.version c.record = Storable.version c.base
  since : c.since ≤ log.length
  base : latest first (Storable.id c.base) (log.take c.since) = some c.base

/-- The store is what the history makes of the first one, and so are the copies. -/
structure Keeps (first : Store R) (w : Shared κ R) : Prop where
  history : History first w.log
  stored : ∀ id, w.store.find? id = latest first id w.log
  held : ∀ k c, w.copies k = some c → Holds first w.log c

theorem Holds.append {log : List (Write R)} {c : Copy R} (h : Holds first log c) (x : Write R) :
    Holds first (log ++ [x]) c where
  id := h.id
  version := h.version
  since := by
    rw [List.length_append]
    exact Nat.le_add_right_of_le h.since
  base := by rw [List.take_append_of_le_length h.since, h.base]

namespace Keeps

theorem start (s : Store R) : Keeps s (start s : Shared κ R) where
  history := .none
  stored _ := rfl
  held _ _ h := nomatch h

/-- A write that follows on what is stored, and that the store shows. -/
theorem write (h : Keeps first w) {s : Store R} {x : Write R}
    (history : History first (w.log ++ [x]))
    (self : s.find? (Storable.id x.stored) = some x.stored)
    (others : ∀ id, id ≠ Storable.id x.stored → s.find? id = w.store.find? id) :
    Keeps first { w with store := s, log := w.log ++ [x] } where
  history := history
  stored id := by
    rw [latest_append]
    split
    · next hid => rw [← hid, self]
    · next hid => rw [others id (Ne.symm hid), h.stored]
  held k c hc := (h.held k c hc).append x

/-- A copy's record is stored, later by as many versions as there were updates since. -/
theorem stored_of_held (h : Keeps first w) {k : κ} {c : Copy R} (held : w.copies k = some c) :
    ∃ stored, w.store.find? (Storable.id c.record) = some stored ∧
      (Storable.version stored).toNat = (Storable.version c.record).toNat
        + updates (Storable.id c.record) (w.log.drop c.since) ∧
      (updates (Storable.id c.record) (w.log.drop c.since) = 0 → stored = c.base) := by
  obtain ⟨hid, hversion, hsince, hbase⟩ := h.held k c held
  obtain ⟨stored, hstored, hv, same⟩ := h.history.version_eq hsince hbase
  rw [← h.stored] at hstored
  rw [hid, hversion]
  exact ⟨stored, hstored, hv, same⟩

/-- A copy can be updated if no update has overtaken it, and only then. -/
theorem update_iff (h : Keeps first w) {k : κ} {c : Copy R} (held : w.copies k = some c) :
    (∃ r s, w.store.update c.record = .ok (r, s)) ↔
      updates (Storable.id c.record) (w.log.drop c.since) = 0 := by
  obtain ⟨stored, hstored, hv, -⟩ := h.stored_of_held held
  constructor
  · rintro ⟨r, s, run⟩
    obtain ⟨⟨stored', hstored', hversion⟩, -, -⟩ := update_eq_ok.mp run
    rw [hstored] at hstored'
    cases hstored'
    rw [hversion] at hv
    exact Nat.left_eq_add.mp hv
  · intro none
    rw [none, Nat.add_zero] at hv
    exact ⟨_, _, update_eq_ok.mpr ⟨⟨stored, hstored, UInt64.toNat_inj.mp hv⟩, rfl, rfl⟩⟩

variable [DecidableEq κ]

theorem put (h : Keeps first w) (k : κ) {c : Copy R} (hc : Holds first w.log c) :
    Keeps first (w.put k c) where
  history := h.history
  stored := h.stored
  held k' c' hc' := by
    change Function.update w.copies k (some c) k' = some c' at hc'
    by_cases hk : k' = k
    · subst hk
      rw [Function.update_self] at hc'
      cases hc'
      exact hc
    · rw [Function.update_of_ne hk] at hc'
      exact h.held k' c' hc'

/-- A client may have a copy of what is stored. -/
theorem take (h : Keeps first w) (k : κ) {r : R}
    (hr : w.store.find? (Storable.id r) = some r) : Keeps first (w.take k r) := by
  refine h.put k ⟨rfl, rfl, Nat.le_refl _, ?_⟩
  rw [List.take_length, ← h.stored]
  exact hr

theorem save (h : Keeps first w) (k : κ) (r : R) : Keeps first (w.save k r) := by
  unfold Shared.save
  split
  · next s run =>
    have new : latest first (Storable.id r) w.log = none := by
      rw [← h.stored]
      exact (save_eq_ok.mp run).1
    have self := find?_save_self run
    refine (h.write (h.history.save new) self fun id hid => find?_save_of_ne run hid).take k self
  · exact h

theorem update (h : Keeps first w) {k : κ} {c : Copy R} (held : w.copies k = some c)
    (bounded : (Storable.version c.record).toNat + 1 < UInt64.size) :
    Keeps first (w.update k c) := by
  unfold Shared.update
  split
  · next next s run =>
    obtain ⟨-, hnext, -⟩ := update_eq_ok.mp run
    have hid : Storable.id next = Storable.id c.record := by rw [hnext, Storable.id_setVersion]
    have self : s.find? (Storable.id next) = some next := by
      rw [hid]
      exact find?_update_self run
    have others (id : String) (hne : id ≠ Storable.id next) : s.find? id = w.store.find? id :=
      find?_update_of_ne run (by rwa [hid] at hne)
    have base : latest first (Storable.id next) w.log = some c.base := by
      obtain ⟨stored, hstored, -, same⟩ := h.stored_of_held held
      rw [← same ((h.update_iff held).mp ⟨_, _, run⟩), ← h.stored, hid, hstored]
    have version : (Storable.version next).toNat = (Storable.version c.base).toNat + 1 := by
      rw [hnext, Storable.version_setVersion, ← (h.held k c held).version, UInt64.toNat_add]
      exact Nat.mod_eq_of_lt bounded
    exact (h.write (h.history.update base version) self others).take k self
  · exact h

/-- Every step keeps it. -/
theorem next (h : Keeps first w) {w' : Shared κ R} (step : Next w w') : Keeps first w' := by
  cases step with
  | finds found =>
    refine h.take _ ?_
    rwa [(find?_eq_some.mp found).2]
  | queries found => exact h.take _ (find?_eq_some.mpr ⟨(mem_query.mp found).1, rfl⟩)
  | edits held id version =>
    obtain ⟨hid, hversion, hsince, hbase⟩ := h.held _ _ held
    exact h.put _ ⟨id.trans hid, version.trans hversion, hsince, hbase⟩
  | saves => exact h.save _ _
  | updates held bounded => exact h.update held bounded

end Keeps

variable [DecidableEq κ]

/-- What is stored, and what every client has, follows from the history in every run. -/
theorem Reachable.keeps (h : Reachable (start first) w) : Keeps first w := by
  induction h with
  | refl => exact .start first
  | tail _ step ih => exact ih.next step

/-- No update is lost. -/
structure LosesNothing (first : Store R) (w : Shared κ R) : Prop where
  /-- An update succeeds if no other update of that id succeeded since the client read its copy,
  saved it or last updated it, and only then. -/
  succeeds : ∀ k c, w.copies k = some c → ((∃ r s, w.store.update c.record = .ok (r, s)) ↔
    ∀ x ∈ w.log.drop c.since, x.base.isSome → Storable.id x.stored ≠ Storable.id c.record)
  /-- Of all updates made on one version, one succeeded at most. -/
  once : w.log.Pairwise fun x y => ∀ b b', x.base = some b → y.base = some b' →
    Storable.id x.stored = Storable.id y.stored → Storable.version b ≠ Storable.version b'
  /-- What a client wrote, it made of what was stored just before. -/
  predecessor : ∀ before x after, w.log = before ++ x :: after →
    x.base = latest first (Storable.id x.stored) before
  /-- The last write of an id is what is stored. -/
  stored : ∀ id, w.store.find? id = latest first id w.log
  /-- A save or an update that fails changes neither the store nor a copy. -/
  saveFails : ∀ k r e, w.store.save r = .error e → w.save k r = w
  updateFails : ∀ k c e, w.store.update c.record = .error e → w.update k c = w
  /-- The version that is stored is the one that was saved, and one more for each update. -/
  version : ∀ id r, w.store.find? id = some r → ∃ r₀, Began first id w.log r₀ ∧
    (Storable.version r).toNat = (Storable.version r₀).toNat + updates id w.log

/-- In no run of any number of clients is an update lost. -/
theorem Reachable.losesNothing (h : Reachable (start first) w) : LosesNothing first w where
  succeeds k c held := by
    rw [h.keeps.update_iff held, updates, List.countP_eq_zero]
    simp
  once := h.keeps.history.pairwise
  predecessor _ _ _ := h.keeps.history.base_eq
  stored := h.keeps.stored
  saveFails k r e failed := by rw [Shared.save, failed]
  updateFails k c e failed := by rw [Shared.update, failed]
  version id r hr := by
    rw [h.keeps.stored] at hr
    exact h.keeps.history.version_stored hr

/-- Two clients have one record in the same version. Once one of them has updated it, the other
cannot. -/
theorem losesNothing_overtaken : ∃ (w : Shared Bool DidRecord) (c : Copy DidRecord),
    Reachable (start empty) w ∧ w.copies true = some c ∧ w.log.length = 2 ∧
      ¬ ∃ r s, w.store.update c.record = .ok (r, s) := by
  let r : DidRecord := ⟨"did:peer:0", .created, none, default, [], [], 0⟩
  let saved : Shared Bool DidRecord := (start empty).save false r
  let read := saved.take true r
  let w := read.update false ⟨r, r, 1⟩
  have found : saved.store.find? "did:peer:0" = some r := rfl
  have reachable : Reachable (start empty) w :=
    ((Relation.ReflTransGen.single .saves).tail (.finds found)).tail (.updates rfl (by decide))
  refine ⟨w, ⟨r, r, 1⟩, reachable, rfl, rfl, fun succeeds => ?_⟩
  have none := ((Reachable.losesNothing reachable).succeeds true _ rfl).mp succeeds
  exact none ⟨some r, { r with version := 1 }⟩ (List.mem_singleton.mpr rfl) rfl rfl

end Shared

end Store

end Pairwise
