import Pairwise.Proofs.JsonText
/-!
# The canonical text of a value

The canonical text has the members of every object in the order of their names. Two values have one
text if and only if they differ in the order of members at most, and what is read from it is again the
value but for this order. An object has no more than one member of a name.

Results:
* `perm_sortMembers`: members with names of their own are all kept when they are put in order.
* `Alike.sorted_eq`, `alike_sorted`: the order of members is what is lost when they are put in order.
* `canonicalBytes_eq_iff_alike`: one text for values that are alike, another for all others.
-/
namespace Pairwise

namespace Json

/-! ## Names of their own -/

mutual

/-- No two members of an object have one name. -/
def distinct : Json → Bool
  | .arr items => distinctItems items
  | .obj members => decide (members.map Prod.fst).Nodup && distinctMembers members
  | _ => true
termination_by structural v => v

/-- `distinct` of all items of an array. -/
def distinctItems : List Json → Bool
  | [] => true
  | v :: rest => v.distinct && distinctItems rest
termination_by structural items => items

/-- `distinct` of the values of all members. -/
def distinctMembers : List (String × Json) → Bool
  | [] => true
  | (_, v) :: rest => v.distinct && distinctMembers rest
termination_by structural members => members

end

theorem distinctItems_eq (items : List Json) : distinctItems items = items.all distinct := by
  induction items with
  | nil => rfl
  | cons v rest ih => rw [distinctItems, ih, List.all_cons]

theorem distinctMembers_eq (members : List (String × Json)) :
    distinctMembers members = members.all fun m => m.2.distinct := by
  induction members with
  | nil => rfl
  | cons m rest ih => rw [distinctMembers, ih, List.all_cons]

theorem distinct_arr {items : List Json} :
    (Json.arr items).distinct = true ↔ ∀ v ∈ items, v.distinct = true := by
  rw [distinct, distinctItems_eq, List.all_eq_true]

theorem distinct_obj {members : List (String × Json)} :
    (Json.obj members).distinct = true ↔
      (members.map Prod.fst).Nodup ∧ ∀ m ∈ members, m.2.distinct = true := by
  rw [distinct, distinctMembers_eq, Bool.and_eq_true, decide_eq_true_iff, List.all_eq_true]

/-! ## Members in order -/

section Members

variable {α : Type} {members others : List (String × α)}

theorem perm_putMember {name : String} (value : α) (fresh : name ∉ members.map Prod.fst) :
    (putMember name value members).Perm ((name, value) :: members) := by
  induction members with
  | nil => exact List.Perm.refl _
  | cons first rest ih =>
    obtain ⟨other, later⟩ := not_or.mp (mt List.mem_cons.mpr fresh)
    rw [putMember, if_neg other]
    split
    · exact List.Perm.refl _
    · exact ((ih later).cons first).trans (List.Perm.swap _ _ _)

/-- Members with names of their own are all kept when they are put in order. -/
theorem perm_sortMembers (nodup : (members.map Prod.fst).Nodup) :
    (sortMembers members).Perm members := by
  have all (start : List (String × α)) (names : ((start ++ members).map Prod.fst).Nodup) :
      (members.foldl (fun sorted m => putMember m.1 m.2 sorted) start).Perm (start ++ members) := by
    clear * - names
    induction members generalizing start with
    | nil => rw [List.append_nil, List.foldl_nil]
    | cons first rest ih =>
      have moved : (start ++ first :: rest).Perm (first :: start ++ rest) := List.perm_middle
      have names' := (moved.map Prod.fst).nodup_iff.mp names
      have fresh : first.1 ∉ start.map Prod.fst := fun mem =>
        (List.nodup_cons.mp names').1 (List.map_append ▸ List.mem_append_left _ mem)
      have put := (perm_putMember first.2 fresh).append_right rest
      have next := ih _ ((put.map Prod.fst).nodup_iff.mpr names')
      exact (next.trans put).trans moved.symm
  exact all [] nodup

/-- The same members are in order in one way. -/
theorem sortMembers_eq_of_perm (nodup : (members.map Prod.fst).Nodup) (same : members.Perm others) :
    sortMembers members = sortMembers others := by
  have kept := perm_sortMembers nodup
  have kept' := perm_sortMembers ((same.map Prod.fst).nodup_iff.mp nodup)
  refine List.Perm.eq_of_pairwise ?_ (ascending_sortMembers members) (ascending_sortMembers others)
    (kept.trans (same.trans kept'.symm))
  intro a b _ _ before after
  exact absurd after (String.lt_asymm before)

end Members

/-! ## Values that are alike -/

/-- The values are the same but for the order of the members of their objects. -/
inductive Alike : Json → Json → Prop
  | refl (v : Json) : Alike v v
  | trans {u v w : Json} : Alike u v → Alike v w → Alike u w
  | item {v w : Json} (before after : List Json) :
      Alike v w → Alike (.arr (before ++ v :: after)) (.arr (before ++ w :: after))
  | member {v w : Json} (name : String) (before after : List (String × Json)) :
      Alike v w →
      Alike (.obj (before ++ (name, v) :: after)) (.obj (before ++ (name, w) :: after))
  | reorder {members members' : List (String × Json)} :
      members.Perm members' → Alike (.obj members) (.obj members')

namespace Alike

variable {v w : Json}

theorem symm (same : v.Alike w) : w.Alike v := by
  induction same with
  | refl v => exact refl v
  | trans _ _ ih ih' => exact ih'.trans ih
  | item before after _ ih => exact ih.item before after
  | member name before after _ ih => exact ih.member name before after
  | reorder perm => exact reorder perm.symm

/-- Arrays whose items are alike one by one are alike. -/
theorem items (f : Json → Json) {rest : List Json} (same : ∀ v ∈ rest, v.Alike (f v))
    (before : List Json) : (Json.arr (before ++ rest)).Alike (.arr (before ++ rest.map f)) := by
  induction rest generalizing before with
  | nil => exact refl _
  | cons v rest ih =>
    obtain ⟨first, others⟩ := List.forall_mem_cons.mp same
    have step := ih others (before ++ [f v])
    rw [List.append_assoc, List.append_assoc] at step
    exact (first.item before rest).trans step

/-- Objects whose members are alike one by one are alike. -/
theorem members (f : Json → Json) {rest : List (String × Json)} (same : ∀ m ∈ rest, m.2.Alike (f m.2))
    (before : List (String × Json)) :
    (Json.obj (before ++ rest)).Alike (.obj (before ++ rest.map fun m => (m.1, f m.2))) := by
  induction rest generalizing before with
  | nil => exact refl _
  | cons m rest ih =>
    obtain ⟨first, others⟩ := List.forall_mem_cons.mp same
    have step := ih others (before ++ [(m.1, f m.2)])
    rw [List.append_assoc, List.append_assoc] at step
    exact (first.member m.1 before rest).trans step

/-- A value has names of its own in its objects if one that is alike has, and both are the same once
their members are in order. -/
theorem sorted_eq (same : v.Alike w) (names : v.distinct = true) :
    w.distinct = true ∧ v.sorted = w.sorted := by
  induction same with
  | refl v => exact ⟨names, rfl⟩
  | trans _ _ ih ih' =>
    obtain ⟨middle, first⟩ := ih names
    obtain ⟨last, second⟩ := ih' middle
    exact ⟨last, first.trans second⟩
  | item before after _ ih =>
    rw [distinct_arr, List.forall_mem_append, List.forall_mem_cons] at names
    obtain ⟨value, same⟩ := ih names.2.1
    refine ⟨?_, ?_⟩
    · rw [distinct_arr, List.forall_mem_append, List.forall_mem_cons]
      exact ⟨names.1, value, names.2.2⟩
    · rw [sorted, sorted, sortedItems_eq, sortedItems_eq, List.map_append, List.map_append,
        List.map_cons, List.map_cons, same]
  | member name before after _ ih =>
    rw [distinct_obj, List.forall_mem_append, List.forall_mem_cons] at names
    obtain ⟨nodup, first, changed, last⟩ := names
    obtain ⟨value, same⟩ := ih changed
    refine ⟨?_, ?_⟩
    · rw [distinct_obj, List.forall_mem_append, List.forall_mem_cons]
      rw [List.map_append, List.map_cons] at nodup ⊢
      exact ⟨nodup, first, value, last⟩
    · rw [sorted, sorted, sortedMembers_eq, sortedMembers_eq, List.map_append, List.map_append,
        List.map_cons, List.map_cons, same]
  | reorder perm =>
    obtain ⟨nodup, values⟩ := distinct_obj.mp names
    refine ⟨distinct_obj.mpr ⟨(perm.map Prod.fst).nodup_iff.mp nodup, ?_⟩, ?_⟩
    · exact fun m mem => values m (perm.mem_iff.mpr mem)
    · rw [sorted, sorted, sortedMembers_eq, sortedMembers_eq]
      refine congrArg obj (sortMembers_eq_of_perm ?_ (perm.map _))
      rwa [List.map_map]

end Alike

/-- A value with names of its own in its objects is kept when its members are put in order. -/
theorem alike_sorted {v : Json} (names : v.distinct = true) : v.Alike v.sorted := by
  induction v using induct with
  | null | bool | int | real | str => exact .refl _
  | arr items ih =>
    rw [sorted, sortedItems_eq]
    exact Alike.items sorted (fun v mem => ih v mem (distinct_arr.mp names v mem)) []
  | obj members ih =>
    obtain ⟨nodup, values⟩ := distinct_obj.mp names
    have each := Alike.members sorted (fun m mem => ih m mem (values m mem)) []
    rw [List.nil_append, List.nil_append] at each
    rw [sorted, sortedMembers_eq]
    refine each.trans (.reorder (perm_sortMembers ?_).symm)
    rwa [List.map_map]

theorem Alike.canonicalBytes_eq {v w : Json} (same : v.Alike w) (names : v.distinct = true) :
    v.canonicalBytes = w.canonicalBytes := congrArg bytes (same.sorted_eq names).2

/-- Values of whole numbers of 64 bits, nested no deeper than 127, have one canonical text if and only if
they are the same but for the order of members, and so is what is read from that text. -/
theorem canonicalBytes_eq_iff_alike {v w : Json} (fits : v.fits Source.depthLimit = true)
    (fits' : w.fits Source.depthLimit = true) (names : v.distinct = true)
    (names' : w.distinct = true) :
    (v.canonicalBytes = w.canonicalBytes ↔ v.Alike w) ∧
      ∃ read, ofBytes v.canonicalBytes = .ok read ∧ read.Alike v := by
  have back := ofBytes_canonicalBytes fits
  refine ⟨⟨fun text => ?_, fun same => same.canonicalBytes_eq names⟩, _, back, (alike_sorted names).symm⟩
  rw [text, ofBytes_canonicalBytes fits'] at back
  have same : w.sorted = v.sorted := Except.ok.inj back
  exact (alike_sorted names).trans (same ▸ (alike_sorted names').symm)

/-- Two objects with control characters, letters beyond ASCII and the outermost numbers, with their members
in another order at both depths, have one text. -/
theorem canonicalBytes_eq_iff_alike_nested :
    let inner : List (String × Json) := [("\x00\n\"", .int (-9223372036854775808)), ("é🙂", .arr [.null])]
    let v : Json := .obj [("b", .arr [.obj inner]), ("a", .int 18446744073709551615)]
    let w : Json := .obj [("a", .int 18446744073709551615), ("b", .arr [.obj inner.reverse])]
    v.canonicalBytes = w.canonicalBytes ∧ ∃ read, ofBytes v.canonicalBytes = .ok read ∧ read.Alike v := by
  intro inner v w
  obtain ⟨text, back⟩ := canonicalBytes_eq_iff_alike (v := v) (w := w)
    (by decide) (by decide) (by decide) (by decide)
  have outside : v.Alike (.obj [("a", .int 18446744073709551615), ("b", .arr [.obj inner])]) :=
    .reorder (List.Perm.swap _ _ _)
  have inside : (Json.obj inner).Alike (.obj inner.reverse) := .reorder (List.reverse_perm inner).symm
  exact ⟨text.mpr (outside.trans (.member "b" [_] [] (.item [] [] inside))), back⟩

end Json

end Pairwise
