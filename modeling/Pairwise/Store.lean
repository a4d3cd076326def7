import Pairwise.Error
import Pairwise.Store.Tags
/-!
# Stores

A store holds records of one type, each under an id of its own. Every record carries the version it
was read in; an update succeeds only on the version that is stored, and makes the next one. Versions
have 64 bits and start over after the last.
-/
namespace Pairwise

/-- What a store needs to know of its records. -/
class Storable (R : Type) where
  /-- The name of the type in messages. -/
  name : String
  id : R → String
  version : R → UInt64
  setVersion : UInt64 → R → R
  tags : R → Tags
  id_setVersion : ∀ n r, id (setVersion n r) = id r := by intros; rfl
  version_setVersion : ∀ n r, version (setVersion n r) = n := by intros; rfl

/-- Records in the order in which they were saved, no two of them under one id. -/
structure Store (R : Type) [Storable R] where
  records : List R
  distinct : (records.map Storable.id).Nodup

namespace Store

variable {R : Type} [Storable R]

/-- A store without records. -/
def empty : Store R := ⟨[], List.nodup_nil⟩

/-- A record's id with the name of its type. -/
def title (R : Type) [Storable R] (id : String) : String := Storable.name R ++ " " ++ id

/-- The record of an id. -/
def find? (s : Store R) (id : String) : Option R := s.records.find? fun r => Storable.id r = id

/-- The record of an id, which must be there. -/
def get (s : Store R) (id : String) : Except Error R :=
  match s.find? id with
  | some r => .ok r
  | none => .error (.recordNotFound (title R id))

theorem id_ne_of_find? {s : Store R} {id : String} (h : ¬ (s.find? id).isSome) :
    ∀ r ∈ s.records, Storable.id r ≠ id := by
  intro r hr he
  refine h ?_
  rw [find?, List.find?_isSome]
  exact ⟨r, hr, decide_eq_true he⟩

/-- Adds a record under a new id. -/
def save (s : Store R) (r : R) : Except Error (Store R) :=
  if h : (s.find? (Storable.id r)).isSome then
    .error (.recordDuplicate (title R (Storable.id r)))
  else .ok ⟨s.records ++ [r], by
    rw [List.map_append, List.nodup_append]
    refine ⟨s.distinct, by simp, ?_⟩
    intro id hid other hother
    obtain ⟨old, hold, rfl⟩ := List.mem_map.mp hid
    rw [List.map_singleton, List.mem_singleton] at hother
    rw [hother]
    exact id_ne_of_find? h old hold⟩

/-- Puts a record in place of the one with its id. -/
def replace (s : Store R) (r : R) : Store R where
  records := s.records.map fun old => if Storable.id old = Storable.id r then r else old
  distinct := by
    have same : (Storable.id ∘ fun old => if Storable.id old = Storable.id r then r else old)
        = (Storable.id : R → String) := by
      funext old
      simp only [Function.comp]
      split
      · next h => exact h.symm
      · rfl
    rw [List.map_map, same]
    exact s.distinct

/-- Updates a record on the version that is stored, and gives it with its next version. -/
def update (s : Store R) (r : R) : Except Error (R × Store R) := do
  let stored ← s.get (Storable.id r)
  if Storable.version stored ≠ Storable.version r then
    .error (.concurrentModification (Storable.id r) (Storable.version r) (Storable.version stored))
  else
    let next := Storable.setVersion (Storable.version r + 1) r
    return (next, s.replace next)

/-- Removes the record of an id. -/
def delete (s : Store R) (id : String) : Except Error (Store R) := do
  let _ ← s.get id
  return ⟨s.records.filter fun r => Storable.id r ≠ id,
    s.distinct.sublist (List.filter_sublist.map Storable.id)⟩

/-- The records that a query accepts. -/
def query (s : Store R) (q : Query) : List R :=
  s.records.filter fun r => q.accepts (Storable.tags r)

/-- The record that a query accepts; there must be one at most. -/
def querySingle (s : Store R) (q : Query) : Except Error (Option R) :=
  match s.query q with
  | [] => .ok none
  | [r] => .ok (some r)
  | rs => .error (.recordDuplicate
      s!"{rs.length} {Storable.name R} records match {q.label}")

end Store

end Pairwise
