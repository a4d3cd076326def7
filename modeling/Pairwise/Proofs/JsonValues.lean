import Mathlib.Data.List.Nodup
import Mathlib.Data.List.Pairwise
import Pairwise.Json.Value
/-!
# Values and the order of their members

Members are put into the order of their names. What is found under a name stays the same, and a
value that is in order stays as it is.

Results:
* `Json.induct`: what holds of a value if it holds of its items and members holds of every value.
* `lookup_putMember`, `lookup_sortMembers`: what is found under a name.
* `sorted_sorted`: sorting twice is sorting once.
-/
namespace Pairwise

namespace Json

/-! ## Induction -/

/-- A property of a value that follows from that of its items and members. -/
theorem induct {P : Json → Prop} (null : P .null) (bool : ∀ b, P (.bool b)) (int : ∀ n, P (.int n))
    (real : ∀ x, P (.real x)) (str : ∀ s, P (.str s))
    (arr : ∀ items, (∀ v ∈ items, P v) → P (.arr items))
    (obj : ∀ members : List (String × Json), (∀ m ∈ members, P m.2) → P (.obj members))
    (v : Json) : P v := by
  refine @Json.rec P (fun items => ∀ v ∈ items, P v) (fun members => ∀ m ∈ members, P m.2)
    (fun m => P m.2) null bool int real str arr obj ?_ ?_ ?_ ?_ ?_ v
  · exact nofun
  · exact fun _ _ first rest => List.forall_mem_cons.mpr ⟨first, rest⟩
  · exact nofun
  · exact fun _ _ first rest => List.forall_mem_cons.mpr ⟨first, rest⟩
  · exact fun _ _ value => value

theorem sortedItems_eq (items : List Json) : sortedItems items = items.map sorted := by
  induction items with
  | nil => rfl
  | cons v rest ih => rw [sortedItems, ih, List.map_cons]

theorem sortedMembers_eq (members : List (String × Json)) :
    sortedMembers members = members.map fun m => (m.1, m.2.sorted) := by
  induction members with
  | nil => rfl
  | cons m rest ih => rw [sortedMembers, ih, List.map_cons]

/-! ## Members in order -/

section Members

variable {α β : Type}

/-- Every member stands before those with later names. -/
def Ascending (members : List (String × α)) : Prop := members.Pairwise fun a b => a.1 < b.1

theorem lookup_cons_eq (name : String) (value : α) (rest : List (String × α)) (n : String) :
    ((name, value) :: rest).lookup n = if n = name then some value else rest.lookup n := by
  rw [List.lookup_cons]
  split
  · next h => rw [if_pos (eq_of_beq h)]
  · next h => rw [if_neg (ne_of_beq_false h)]

theorem mem_putMember {name : String} {value : α} {members : List (String × α)} {m : String × α}
    (h : m ∈ putMember name value members) : m = (name, value) ∨ m ∈ members := by
  induction members with
  | nil => exact .inl (List.mem_singleton.mp h)
  | cons first rest ih =>
    unfold putMember at h
    split at h
    · exact List.mem_cons.mp h
    · split at h
      · rcases List.mem_cons.mp h with h | h
        · exact .inl h
        · exact .inr (List.mem_cons_of_mem _ h)
      · rcases List.mem_cons.mp h with h | h
        · exact .inr (h ▸ List.mem_cons_self)
        · rcases ih h with h | h
          · exact .inl h
          · exact .inr (List.mem_cons_of_mem _ h)

theorem ascending_putMember (name : String) (value : α) {members : List (String × α)}
    (h : Ascending members) : Ascending (putMember name value members) := by
  induction members with
  | nil => exact List.pairwise_singleton _ _
  | cons first rest ih =>
    obtain ⟨before, rest_ascending⟩ := List.pairwise_cons.mp h
    unfold putMember
    split
    · next lt =>
      refine List.pairwise_cons.mpr ⟨fun m hm => ?_, h⟩
      rcases List.mem_cons.mp hm with rfl | hm
      · exact lt
      · exact String.lt_trans lt (before m hm)
    · next not_lt =>
      split
      · next same =>
        refine List.pairwise_cons.mpr ⟨fun m hm => ?_, rest_ascending⟩
        rw [same]
        exact before m hm
      · next other =>
        refine List.pairwise_cons.mpr ⟨fun m hm => ?_, ih rest_ascending⟩
        rcases mem_putMember hm with rfl | hm
        · refine String.not_le.mp fun le => other ?_
          exact String.le_antisymm le (String.not_lt.mp not_lt)
        · exact before m hm

/-- The value that was put is found under its name, and all others are found as before. -/
theorem lookup_putMember (name : String) (value : α) (members : List (String × α)) (n : String) :
    (putMember name value members).lookup n = if n = name then some value else members.lookup n := by
  induction members with
  | nil => exact lookup_cons_eq name value [] n
  | cons first rest ih =>
    obtain ⟨other, v⟩ := first
    unfold putMember
    split
    · exact lookup_cons_eq name value _ n
    · split
      · next same =>
        rw [lookup_cons_eq, lookup_cons_eq, ← same]
        by_cases h : n = name <;> simp only [h, if_true, if_false]
      · next different =>
        rw [lookup_cons_eq, lookup_cons_eq, ih]
        by_cases h : n = name
        · rw [if_neg (h ▸ different), if_pos h, if_pos h]
        · rw [if_neg h, if_neg h]

theorem mem_sortMembers {members : List (String × α)} {m : String × α}
    (h : m ∈ sortMembers members) : m ∈ members := by
  have all (start : List (String × α))
      (h : m ∈ members.foldl (fun sorted m => putMember m.1 m.2 sorted) start) :
      m ∈ start ∨ m ∈ members := by
    clear * - h
    induction members generalizing start with
    | nil => exact .inl h
    | cons first rest ih =>
      rcases ih _ h with h | h
      · rcases mem_putMember h with h | h
        · exact .inr (h ▸ List.mem_cons_self)
        · exact .inl h
      · exact .inr (List.mem_cons_of_mem _ h)
  rcases all [] h with h | h
  · exact absurd h List.not_mem_nil
  · exact h

theorem ascending_sortMembers (members : List (String × α)) : Ascending (sortMembers members) := by
  have all (start : List (String × α)) (h : Ascending start) :
      Ascending (members.foldl (fun sorted m => putMember m.1 m.2 sorted) start) := by
    induction members generalizing start with
    | nil => exact h
    | cons first rest ih => exact ih _ (ascending_putMember _ _ h)
  exact all [] List.Pairwise.nil

/-- If no two members share a name, what is found under a name is the same after sorting. -/
theorem lookup_sortMembers {members : List (String × α)} (h : (members.map Prod.fst).Nodup)
    (n : String) : (sortMembers members).lookup n = members.lookup n := by
  have all (start : List (String × α)) :
      (members.foldl (fun sorted m => putMember m.1 m.2 sorted) start).lookup n
        = (members.lookup n).or (start.lookup n) := by
    induction members generalizing start with
    | nil => rfl
    | cons first rest ih =>
      obtain ⟨fresh, nodup⟩ := List.nodup_cons.mp h
      rw [List.foldl_cons, ih nodup, lookup_putMember, lookup_cons_eq]
      by_cases hn : n = first.1
      · have absent : rest.lookup n = none := by
          rw [List.lookup_eq_none_iff]
          intro m hm
          refine bne_iff_ne.mpr fun e => fresh ?_
          rw [← hn, e]
          exact List.mem_map_of_mem hm
        rw [if_pos hn, if_pos hn, absent]
        rfl
      · rw [if_neg hn, if_neg hn]
  rw [sortMembers, all [], List.lookup_nil, Option.or_none]

theorem putMember_of_lt {name : String} (value : α) {members : List (String × α)}
    (h : ∀ m ∈ members, m.1 < name) : putMember name value members = members ++ [(name, value)] := by
  induction members with
  | nil => rfl
  | cons first rest ih =>
    obtain ⟨lt, rest_lt⟩ := List.forall_mem_cons.mp h
    rw [putMember, if_neg (String.lt_asymm lt), if_neg (String.ne_of_lt lt).symm, ih rest_lt]
    rfl

/-- Members in order stay as they are. -/
theorem sortMembers_of_ascending {members : List (String × α)} (h : Ascending members) :
    sortMembers members = members := by
  have all (start : List (String × α)) (h : Ascending (start ++ members)) :
      members.foldl (fun sorted m => putMember m.1 m.2 sorted) start = start ++ members := by
    clear * - h
    induction members generalizing start with
    | nil => exact (List.append_nil start).symm
    | cons first rest ih =>
      have before : ∀ m ∈ start, m.1 < first.1 := fun m hm =>
        (List.pairwise_append.mp h).2.2 m hm first List.mem_cons_self
      rw [List.foldl_cons, putMember_of_lt _ before]
      have e : start ++ [first] ++ rest = start ++ first :: rest := by simp
      exact (ih (start ++ [first]) (by rwa [e])).trans e
  exact all [] h

/-- The order is that of the names alone. -/
theorem Ascending.map_snd {members : List (String × α)} (h : Ascending members) (f : α → β) :
    Ascending (members.map fun m => (m.1, f m.2)) :=
  List.pairwise_map.mpr h

theorem nodup_of_ascending {members : List (String × α)} (h : Ascending members) :
    (members.map Prod.fst).Nodup :=
  List.pairwise_map.mpr (h.imp fun lt => String.ne_of_lt lt)

end Members

/-! ## Whole values -/

/-- A value whose members are in order stays in order. -/
theorem sorted_sorted (v : Json) : v.sorted.sorted = v.sorted := by
  induction v using induct with
  | null => rfl
  | bool b => rfl
  | int n => rfl
  | real x => rfl
  | str s => rfl
  | arr items ih =>
    rw [sorted, sorted, sortedItems_eq, sortedItems_eq, List.map_map]
    exact congrArg arr (List.map_congr_left ih)
  | obj members ih =>
    have same : sortedMembers (sortMembers (sortedMembers members))
        = sortMembers (sortedMembers members) := by
      rw [sortedMembers_eq (sortMembers _)]
      refine (List.map_congr_left fun m hm => ?_).trans (List.map_id _)
      rw [sortedMembers_eq] at hm
      obtain ⟨m', hm', rfl⟩ := List.mem_map.mp (mem_sortMembers hm)
      exact Prod.ext rfl (ih m' hm')
    rw [sorted, sorted, same, sortMembers_of_ascending (ascending_sortMembers _)]

end Json

end Pairwise
