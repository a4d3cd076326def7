import Pairwise.Json.Reader
import Pairwise.Proofs.JsonText
import Pairwise.Proofs.Outcome
/-!
# Records that were written are read

A record is written as an object, some members of which are left out. It does not matter to a reader
in which order the members stand: as they were written, or by their names.

Results:
* `Reads`: a reader takes a value to a result in both orders.
* `Builds.seq`, `Builds.field`, `Builds.optional`, …: what is built from the members of an object,
  field by field.
* `Builds.reads`: a record is read from an object whose members it can be built from.
-/
namespace Pairwise

namespace Json

/-- The value as it was given, or with its members in the order of their names. -/
def arranged (inOrder : Bool) (v : Json) : Json := if inOrder then v.sorted else v

section Arranged

variable (inOrder : Bool)

theorem arranged_str (s : String) : arranged inOrder (.str s) = .str s := by cases inOrder <;> rfl

theorem arranged_int (n : Int) : arranged inOrder (.int n) = .int n := by cases inOrder <;> rfl

theorem arranged_bool (b : Bool) : arranged inOrder (.bool b) = .bool b := by cases inOrder <;> rfl

theorem arranged_arr (items : List Json) :
    arranged inOrder (.arr items) = .arr (items.map (arranged inOrder)) := by
  cases inOrder with
  | false => exact congrArg arr (List.map_id items).symm
  | true => exact congrArg arr (sortedItems_eq items)

theorem arranged_obj {members : List (String × Json)} (h : (members.map Prod.fst).Nodup) :
    ∃ members', arranged inOrder (.obj members) = .obj members' ∧ (members'.map Prod.fst).Nodup ∧
      ∀ name, members'.lookup name = (members.lookup name).map (arranged inOrder) := by
  cases inOrder with
  | false => exact ⟨members, rfl, h, fun name => Option.map_id'.symm⟩
  | true =>
    have names : (sortedMembers members).map Prod.fst = members.map Prod.fst := by
      rw [sortedMembers_eq, List.map_map]
      rfl
    refine ⟨_, rfl, nodup_of_ascending (ascending_sortMembers _), fun name => ?_⟩
    rw [lookup_sortMembers (names ▸ h), sortedMembers_eq]
    clear h names
    induction members with
    | nil => rfl
    | cons m members ih =>
      rw [List.map_cons, lookup_cons_eq, ih, lookup_cons_eq]
      split <;> rfl

/-- Members in the order of their names stay in it. -/
theorem arranged_ascending {members : List (String × Json)} (h : Ascending members) :
    arranged inOrder (.obj members) = .obj (members.map fun m => (m.1, m.2.arranged inOrder)) := by
  cases inOrder with
  | false => exact congrArg obj (List.map_id members).symm
  | true =>
    have sorted := h.map_snd Json.sorted
    exact congrArg obj (by rw [sortedMembers_eq, sortMembers_of_ascending sorted]; rfl)

end Arranged

namespace Reader

variable {α β : Type}

/-- The reader takes the value to the result, in both orders of its members. -/
def Reads (read : Reader α) (v : Json) (a : α) : Prop :=
  ∀ inOrder, read (Source.ofJson (v.arranged inOrder)) = .ok a

namespace Reads

theorem given {read : Reader α} {v : Json} {a : α} (h : Reads read v a) :
    read (Source.ofJson v) = .ok a := h false

theorem sorted {read : Reader α} {v : Json} {a : α} (h : Reads read v a) :
    read (Source.ofJson v.sorted) = .ok a := h true

theorem string (s : String) : Reads Reader.string (.str s) s := by
  intro inOrder
  rw [arranged_str]
  rfl

theorem bool (b : Bool) : Reads Reader.bool (.bool b) b := by
  intro inOrder
  rw [arranged_bool]
  rfl

theorem natUpTo {n limit : Nat} (h : n ≤ limit) : Reads (Reader.natUpTo limit) (.int n) n := by
  intro inOrder
  rw [arranged_int]
  exact if_pos ⟨Int.natCast_nonneg n, Int.ofNat_le.mpr h⟩

theorem nullable {read : Reader α} {v : Json} {a : α} (h : Reads read v a) (hv : v ≠ .null) :
    Reads (Reader.nullable read) v (some a) := by
  intro inOrder
  have ne : Source.ofJson (v.arranged inOrder) ≠ .null := by
    cases v with
    | null => exact absurd rfl hv
    | _ => cases inOrder <;> exact nofun
  unfold Reader.nullable
  split
  · next e => exact absurd e ne
  · rw [h inOrder]
    rfl

theorem refine {read : Reader α} {make : α → Option β} {v : Json} {a : α} {b : β}
    (h : Reads read v a) (hb : make a = some b) : Reads (Reader.refine read make) v b := by
  intro inOrder
  rw [Reader.refine, h inOrder, Outcome.ok_bind, hb]
  rfl

theorem list {read : Reader α} {write : α → Json} {as : List α}
    (h : ∀ a ∈ as, Reads read (write a) a) : Reads (Reader.list read) (.arr (as.map write)) as := by
  intro inOrder
  have all : items read (Source.ofItems ((as.map write).map (arranged inOrder))) = .ok as := by
    induction as with
    | nil => rfl
    | cons a as ih =>
      obtain ⟨ha, has⟩ := List.forall_mem_cons.mp h
      rw [List.map_cons, List.map_cons, Source.ofItems, items, ha inOrder, ih has]
      rfl
  rw [arranged_arr, Source.ofJson, Reader.list, all]
  rfl

/-- A value whose members are in the order of their names is read as it is. -/
theorem json {v : Json} (ordered : v.sorted = v) : Reads Reader.json v v := by
  intro inOrder
  have same : v.arranged inOrder = v := by cases inOrder with
    | false => rfl
    | true => exact ordered
  rw [same]
  exact (Source.json_ofJson v).trans (congrArg Except.ok ordered)

/-- A table whose entries are in the order of their names is read as it is. -/
theorem table {read : Reader α} (write : α → Json) {entries : List (String × α)}
    (ordered : Ascending entries) (h : ∀ e ∈ entries, Reads read (write e.2) e.2) :
    Reads (Reader.table read) (.obj (entries.map fun e => (e.1, write e.2))) entries := by
  intro inOrder
  rw [arranged_ascending inOrder (ordered.map_snd write), List.map_map, Source.ofJson]
  have all : members read (Source.ofMembers (entries.map fun e => (e.1, (write e.2).arranged inOrder)))
      = .ok entries := by
    clear ordered
    induction entries with
    | nil => rfl
    | cons e entries ih =>
      obtain ⟨first, rest⟩ := List.forall_mem_cons.mp h
      rw [List.map_cons, Source.ofMembers, members, Outcome.ok_bind, first inOrder, Outcome.ok_bind,
        ih rest]
      rfl
  exact Outcome.bind_eq_ok.mpr ⟨entries, all, congrArg Except.ok (sortMembers_of_ascending ordered)⟩

/-- The first of two readers is asked first. -/
theorem orElse_first {first second : Reader α} {v : Json} {a : α} (h : Reads first v a) :
    Reads (Reader.orElse first second) v a := by
  intro inOrder
  rw [Reader.orElse, Source.json_ofJson, Outcome.ok_bind, h inOrder]
  rfl

/-- The second is asked if the first refuses. -/
theorem orElse_second {first second : Reader α} {v : Json} {a : α}
    (hfirst : ∀ inOrder, ∃ f, first (Source.ofJson (v.arranged inOrder)) = .error f)
    (h : Reads second v a) : Reads (Reader.orElse first second) v a := by
  intro inOrder
  obtain ⟨f, hf⟩ := hfirst inOrder
  rw [Reader.orElse, Source.json_ofJson, Outcome.ok_bind, hf]
  dsimp only
  rw [h inOrder]
  rfl

end Reads

end Reader

/-! ## Members that may be left out -/

section Members

attribute [simp] List.lookup_append lookup_cons_eq

variable (name : String)

@[simp] theorem lookup_optional (v : Option Json) (n : String) :
    (optional name v).lookup n = if n = name then v else none := by
  cases v with
  | none => simp [optional]
  | some v => rw [optional, lookup_cons_eq, List.lookup_nil]

@[simp] theorem lookup_unlessEmpty (items : List Json) (n : String) :
    (unlessEmpty name items).lookup n
      = if n = name then (if items.isEmpty then none else some (.arr items)) else none := by
  unfold unlessEmpty
  split
  · simp
  · rw [lookup_cons_eq, List.lookup_nil]

/-- A text that is left out when it is empty. -/
@[simp] theorem lookup_unlessBlank (s n : String) :
    (if s = "" then [] else [(name, Json.str s)]).lookup n
      = if n = name then (if s = "" then none else some (.str s)) else none := by
  split
  · simp
  · rw [lookup_cons_eq, List.lookup_nil]

/-- The members have some of the names, in their order. -/
def Named (names : List String) (members : List (String × Json)) : Prop :=
  (members.map Prod.fst).Sublist names

namespace Named

theorem given (members : List (String × Json)) : Named (members.map Prod.fst) members :=
  List.Sublist.refl _

theorem append {names names' : List String} {members members' : List (String × Json)}
    (h : Named names members) (h' : Named names' members') :
    Named (names ++ names') (members ++ members') := by
  unfold Named
  rw [List.map_append]
  exact List.Sublist.append h h'

theorem optional (v : Option Json) : Named [name] (Json.optional name v) := by
  cases v with
  | none => exact List.nil_sublist _
  | some v => exact List.Sublist.refl _

theorem unlessEmpty (items : List Json) : Named [name] (Json.unlessEmpty name items) := by
  unfold Json.unlessEmpty
  split
  · exact List.nil_sublist _
  · exact List.Sublist.refl _

theorem unlessBlank (s : String) : Named [name] (if s = "" then [] else [(name, Json.str s)]) := by
  split
  · exact List.nil_sublist _
  · exact List.Sublist.refl _

end Named

end Members

/-! ## Records -/

namespace Record

variable {α β : Type}

/-- The values found under names, in one of the two orders of their members. -/
def givenBy (members : List (String × Json)) (inOrder : Bool) : Given :=
  ⟨fun name => (members.lookup name).map fun v => Source.ofJson (v.arranged inOrder), false⟩

/-- The record can be built from the members of an object. -/
def Builds (r : Record α) (members : List (String × Json)) (a : α) : Prop :=
  ∀ inOrder, r.build (givenBy members inOrder) = .ok a

namespace Builds

variable {members : List (String × Json)}

theorem map {x : Record α} {a : α} (f : α → β) (hx : Builds x members a) :
    Builds (f <$> x) members (f a) := by
  intro inOrder
  change (do let f ← Except.ok f; let a ← x.build _; return f a) = _
  rw [hx inOrder]
  rfl

theorem seq {f : Record (α → β)} {x : Record α} {g : α → β} {a : α} (hf : Builds f members g)
    (hx : Builds x members a) : Builds (f <*> x) members (g a) := by
  intro inOrder
  change (do let f ← f.build _; let a ← x.build _; return f a) = _
  rw [hf inOrder, hx inOrder]
  rfl

variable {name : String} {read : Reader α}

/-- What is built from a member that is there. -/
theorem general_some {absent unlisted : Option α} {v : Json} {a : α}
    (hv : members.lookup name = some v) (h : Reader.Reads read v a) :
    Builds (general [name] read absent unlisted) members a := by
  intro inOrder
  have found : Given.findAny? (givenBy members inOrder) [name]
      = some (Source.ofJson (v.arranged inOrder)) := by
    simp only [Given.findAny?, givenBy, List.findSome?_cons, hv, Option.map_some]
  simp only [general, found]
  exact h inOrder

/-- What is built in place of a member that is not there. -/
theorem general_none {unlisted : Option α} {a : α} (hv : members.lookup name = none) :
    Builds (general [name] read (some a) unlisted) members a := by
  intro inOrder
  have found : Given.findAny? (givenBy members inOrder) [name] = none := by
    simp only [Given.findAny?, givenBy, List.findSome?_cons, hv, Option.map_none,
      List.findSome?_nil]
  simp only [general, found]
  rfl

/-- What is built from a member that goes by another name as well. -/
theorem fieldAlso {other : String} {v : Json} {a : α} (hv : members.lookup name = some v)
    (h : Reader.Reads read v a) : Builds (.fieldAlso name other read) members a := by
  intro inOrder
  have found : Given.findAny? (givenBy members inOrder) [name, other]
      = some (Source.ofJson (v.arranged inOrder)) := by
    simp only [Given.findAny?, givenBy, List.findSome?_cons, hv, Option.map_some]
  simp only [Record.fieldAlso, general, found]
  exact h inOrder

/-! The rules for one field each, from what is found under its name. -/

theorem field {v : Json} {a : α} (h : Reader.Reads read v a)
    (hv : members.lookup name = some v) : Builds (.field name read) members a :=
  general_some hv h

theorem optional {o : Option α} {write : α → Json}
    (h : ∀ a ∈ o, Reader.Reads read (write a) a ∧ write a ≠ .null)
    (hv : members.lookup name = o.map write) :
    Builds (.optional name read) members o := by
  cases o with
  | none => exact general_none hv
  | some a => exact general_some hv ((h a rfl).1.nullable (h a rfl).2)

theorem nullable {o : Option α} {write : α → Json}
    (h : ∀ a ∈ o, Reader.Reads read (write a) a ∧ write a ≠ .null)
    (hv : members.lookup name = o.map write) :
    Builds (.nullable name read) members o := by
  cases o with
  | none => exact general_none hv
  | some a => exact general_some hv ((h a rfl).1.nullable (h a rfl).2)

/-- A list that is left out when it is empty. -/
theorem listed {as : List α} {write : α → Json} (h : ∀ a ∈ as, Reader.Reads read (write a) a)
    (hv : members.lookup name
      = if (as.map write).isEmpty then none else some (.arr (as.map write))) :
    Builds (.withDefault name (.list read) []) members as := by
  cases as with
  | nil => exact general_none hv
  | cons a as => exact general_some hv (.list h)

theorem text {s : String} (hv : members.lookup name = some (.str s)) :
    Builds (.field name .string) members s := field (.string s) hv

theorem optionalText {o : Option String} (hv : members.lookup name = o.map .str) :
    Builds (.optional name .string) members o :=
  optional (fun s _ => ⟨.string s, nofun⟩) hv

theorem nullableText {o : Option String} (hv : members.lookup name = o.map .str) :
    Builds (.nullable name .string) members o :=
  nullable (fun s _ => ⟨.string s, nofun⟩) hv

theorem listedTexts {texts : List String}
    (hv : members.lookup name
      = if (texts.map Json.str).isEmpty then none else some (.arr (texts.map .str))) :
    Builds (.withDefault name (.list .string) []) members texts :=
  listed (fun s _ => .string s) hv

/-- A text that is left out when it is empty. -/
theorem textOr {s : String}
    (hv : members.lookup name = if s = "" then none else some (.str s)) :
    Builds (.withDefault name .string "") members s := by
  by_cases h : s = ""
  · rw [h]
    exact general_none (by rw [hv, if_pos h])
  · exact general_some (by rw [hv, if_neg h]) (.string s)

end Builds

/-- A value that is there can be passed over. -/
theorem skip?_ofJson (v : Json) : (Source.ofJson v).skip? = none := by
  induction v using induct with
  | null => rfl
  | bool b => rfl
  | int n => rfl
  | real x => rfl
  | str s => rfl
  | arr items ih =>
    have list : Source.skipItems? (Source.ofItems items) = none := by
      induction items with
      | nil => rfl
      | cons v rest ihrest =>
        obtain ⟨hv, hrest⟩ := List.forall_mem_cons.mp ih
        rw [Source.ofItems, Source.skipItems?, hv, ihrest hrest]
        rfl
    rw [Source.ofJson, Source.skip?, list]
    rfl
  | obj members ih =>
    have list : Source.skipMembers? (Source.ofMembers members) = none := by
      induction members with
      | nil => rfl
      | cons m rest ihrest =>
        obtain ⟨hv, hrest⟩ := List.forall_mem_cons.mp ih
        rw [Source.ofMembers, Source.skipMembers?, hv, ihrest hrest]
        rfl
    rw [Source.ofJson, Source.skip?, list]
    rfl

/-- No field of the record goes by two of the names. -/
def Apart (r : Record α) (names : List String) : Prop :=
  ∀ f ∈ r.fields, ∀ n ∈ f.names, ∀ n' ∈ f.names, n ∈ names → n' ∈ names → n = n'

instance (r : Record α) (names : List String) : Decidable (r.Apart names) :=
  inferInstanceAs (Decidable (∀ f ∈ r.fields, ∀ n ∈ f.names, ∀ n' ∈ f.names, n ∈ names →
    n' ∈ names → n = n'))

theorem apart_of_one {r : Record α} (one : r.fields.all (·.names.length == 1) = true)
    (names : List String) : r.Apart names := by
  intro f hf n hn n' hn' _ _
  obtain ⟨only, e⟩ := List.length_eq_one_iff.mp (eq_of_beq (List.all_eq_true.mp one f hf))
  rw [e] at hn hn'
  exact (List.mem_singleton.mp hn).trans (List.mem_singleton.mp hn').symm

/-- No field is given twice by members of different names, if it goes by one of these only. -/
theorem membersStand_ofMembers {r : Record α} {names : List String} (apart : r.Apart names)
    {members : List (String × Json)} (named : ∀ m ∈ members, m.1 ∈ names)
    (h : (members.map Prod.fst).Nodup) {seen : List String} (hseen : ∀ m ∈ members, m.1 ∉ seen)
    (old : ∀ n ∈ seen, n ∈ names) : r.membersStand seen (Source.ofMembers members) = true := by
  induction members generalizing seen with
  | nil => rfl
  | cons m members ih =>
    obtain ⟨name, v⟩ := m
    obtain ⟨fresh, nodup⟩ := List.nodup_cons.mp h
    obtain ⟨unseen, rest_unseen⟩ := List.forall_mem_cons.mp hseen
    obtain ⟨hname, rest_named⟩ := List.forall_mem_cons.mp named
    rw [Source.ofMembers, membersStand]
    split
    · rw [skip?_ofJson, ih rest_named nodup rest_unseen old]
      rfl
    · next field hfield =>
      have mem := List.mem_of_find?_eq_some hfield
      have found : name ∈ field.names := by simpa using List.find?_some hfield
      have later : ∀ m ∈ members, m.1 ∉ name :: seen := by
        intro m hm hmem
        rcases List.mem_cons.mp hmem with e | hmem
        · exact fresh (List.mem_map.mpr ⟨m, hm, e⟩)
        · exact rest_unseen m hm hmem
      have new : field.names.any seen.contains = false := by
        rw [List.any_eq_false]
        intro n hn there
        have hmem := List.contains_iff_mem.mp there
        exact unseen (apart field mem n hn name found (old n hmem) hname ▸ hmem)
      rw [ih rest_named nodup later (List.forall_mem_cons.mpr ⟨hname, old⟩), new]
      rfl

theorem lookup?_ofMembers (members : List (String × Json)) (name : String) :
    lookup? name (Source.ofMembers members) = (members.lookup name).map Source.ofJson := by
  induction members with
  | nil => rfl
  | cons m members ih =>
    rw [Source.ofMembers, lookup?, ih, lookup_cons_eq]
    by_cases h : name = m.1
    · rw [if_pos h.symm, if_pos h]
      rfl
    · rw [if_neg (Ne.symm h), if_neg h]

/-- What is built from the members of an object in one of the two orders. -/
theorem arranged_given {members : List (String × Json)} (h : (members.map Prod.fst).Nodup)
    (inOrder : Bool) :
    ∃ members', (Json.obj members).arranged inOrder = .obj members' ∧
      (members'.map Prod.fst).Nodup ∧ (∀ m ∈ members', m.1 ∈ members.map Prod.fst) ∧
      (⟨fun name => lookup? name (Source.ofMembers members'), false⟩ : Given)
        = givenBy members inOrder := by
  obtain ⟨members', e, names', lookup⟩ := arranged_obj inOrder h
  refine ⟨members', e, names', fun m hm => ?_, congrArg (Given.mk · false) (funext fun name => ?_)⟩
  · have there : (members'.lookup m.1).isSome = true := by
      rw [Option.isSome_iff_ne_none, ne_eq, List.lookup_eq_none_iff]
      exact fun none => absurd rfl (bne_iff_ne.mp (none m hm))
    rw [lookup, Option.isSome_map] at there
    by_contra absent
    have none : members.lookup m.1 = none := List.lookup_eq_none_iff.mpr fun m' hm' =>
      bne_iff_ne.mpr fun same => absent (same ▸ List.mem_map_of_mem hm')
    rw [none] at there
    cases there
  · rw [lookup?_ofMembers, lookup, Option.map_map]
    rfl

/-- A record is read from an object of different members that it can be built from, if no field of it
goes by two of their names. -/
theorem Builds.reads_apart {r : Record α} {members : List (String × Json)} {a : α}
    (h : Builds r members a) {names : List String} (apart : r.Apart names)
    (named : Named names members) (different : names.Nodup) :
    Reader.Reads r.read (.obj members) a := by
  intro inOrder
  obtain ⟨members', e, names', among, given⟩ := arranged_given (different.sublist named) inOrder
  rw [e, Source.ofJson]
  unfold read
  dsimp only
  rw [given, h inOrder, membersStand_ofMembers apart (fun m hm => named.subset (among m hm)) names'
    (fun m _ => List.not_mem_nil) (List.forall_mem_nil _)]

/-- A record of fields with one name each is read from an object of different members that it can be
built from. -/
theorem Builds.reads {r : Record α} {members : List (String × Json)} {a : α}
    (h : Builds r members a) (one : r.fields.all (·.names.length == 1) = true) {names : List String}
    (named : Named names members) (different : names.Nodup) :
    Reader.Reads r.read (.obj members) a := h.reads_apart (apart_of_one one names) named different

/-- A record is not read from an object that it cannot be built from. -/
theorem refuses {r : Record α} {members : List (String × Json)}
    (h : ∀ inOrder, ∃ f, r.build (givenBy members inOrder) = .error f) {names : List String}
    (named : Named names members) (different : names.Nodup) (inOrder : Bool) :
    ∃ f, r.read (Source.ofJson ((Json.obj members).arranged inOrder)) = .error f := by
  obtain ⟨members', e, -, -, given⟩ := arranged_given (different.sublist named) inOrder
  obtain ⟨f, hf⟩ := h inOrder
  rw [e, Source.ofJson]
  unfold read
  dsimp only
  rw [given, hf]
  exact ⟨_, rfl⟩

end Record

end Json

end Pairwise
