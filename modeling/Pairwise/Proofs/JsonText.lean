import Pairwise.Json.Reader
import Pairwise.Proofs.JsonTokens
import Pairwise.Proofs.JsonValues
import Pairwise.Proofs.Utf8
/-!
# JSON text loses nothing

A value of whole numbers of 64 bits, not nested too deep, is written as a text that is read back as
the same value. The induction is on the value; the fuel of the reader counts two for every character
of the text, one for the value that starts there and one for the list it stands in.

Results:
* `Json.fits`: the values that have a text.
* `readItems_chars`, `readMembers_chars`: the texts of values in a list are read as the values, and what
  follows is left.
* `read_units_bytes`: the bytes of a value are read as the value.
-/
namespace Pairwise

namespace Json

mutual

/-- A value of whole numbers of 64 bits only, with arrays and objects nested no deeper than there is
room. -/
def fits : Json → (room : Nat) → Bool
  | .int n, _ => -Nat.pow 2 63 ≤ n && n ≤ Source.significandLimit
  | .real _, _ => false
  | .arr items, room + 1 => fitsItems items room
  | .obj members, room + 1 => fitsMembers members room
  | .arr _, 0 | .obj _, 0 => false
  | _, _ => true
termination_by structural v => v

/-- `fits` of all items of an array. -/
def fitsItems : List Json → (room : Nat) → Bool
  | [], _ => true
  | v :: rest, room => v.fits room && fitsItems rest room
termination_by structural items => items

/-- `fits` of the values of all members. -/
def fitsMembers : List (String × Json) → (room : Nat) → Bool
  | [], _ => true
  | (_, v) :: rest, room => v.fits room && fitsMembers rest room
termination_by structural members => members

end

theorem fitsItems_eq (items : List Json) (room : Nat) :
    fitsItems items room = items.all fun v => v.fits room := by
  induction items with
  | nil => rfl
  | cons v rest ih => rw [fitsItems, ih, List.all_cons]

theorem fitsMembers_eq (members : List (String × Json)) (room : Nat) :
    fitsMembers members room = members.all fun m => m.2.fits room := by
  induction members with
  | nil => rfl
  | cons m rest ih => rw [fitsMembers, ih, List.all_cons]

@[simp] theorem fits_str (s : String) (room : Nat) : (Json.str s).fits room = true := rfl

@[simp] theorem fits_arr (items : List Json) (room : Nat) :
    (Json.arr items).fits (room + 1) = items.all fun v => v.fits room := fitsItems_eq items room

@[simp] theorem fits_obj (members : List (String × Json)) (room : Nat) :
    (Json.obj members).fits (room + 1) = members.all fun m => m.2.fits room :=
  fitsMembers_eq members room

/-- What is left out needs no room. -/
@[simp] theorem all_optional (name : String) (v : Option Json) (p : String × Json → Bool) :
    (optional name v).all p = v.all fun v => p (name, v) := by
  cases v with
  | none => rfl
  | some v => exact Bool.and_true _

@[simp] theorem all_unlessEmpty (name : String) (items : List Json) (p : String × Json → Bool) :
    (unlessEmpty name items).all p = (items.isEmpty || p (name, .arr items)) := by
  cases items with
  | nil => rfl
  | cons v items => exact Bool.and_true _

@[simp] theorem all_map {α : Type} (o : Option α) (write : α → Json) (p : Json → Bool) :
    (o.map write).all p = o.all fun a => p (write a) := by cases o <;> rfl

@[simp] theorem all_true {α : Type} (o : Option α) : (o.all fun _ => true) = true := by
  cases o <;> rfl

/-- A value that fits also fits with its members in order. -/
theorem fits_sorted {v : Json} {room : Nat} (h : v.fits room = true) : v.sorted.fits room = true := by
  induction v using induct generalizing room with
  | null => rfl
  | bool b => rfl
  | int n => exact h
  | real x => exact h
  | str s => rfl
  | arr items ih =>
    cases room with
    | zero => cases h
    | succ room =>
      rw [fits, fitsItems_eq, List.all_eq_true] at h
      rw [sorted, sortedItems_eq, fits, fitsItems_eq, List.all_map, List.all_eq_true]
      exact fun v hv => ih v hv (h v hv)
  | obj members ih =>
    cases room with
    | zero => cases h
    | succ room =>
      rw [fits, fitsMembers_eq, List.all_eq_true] at h
      rw [sorted, sortedMembers_eq, fits, fitsMembers_eq, List.all_eq_true]
      intro m hm
      obtain ⟨m', hm', rfl⟩ := List.mem_map.mp (mem_sortMembers hm)
      exact ih m' hm' (h m' hm')

namespace Source

theorem ofItems_eq (items : List Json) : ofItems items = items.map ofJson := by
  induction items with
  | nil => rfl
  | cons v rest ih => rw [ofItems, ih, List.map_cons]

theorem ofMembers_eq (members : List (String × Json)) :
    ofMembers members = members.map fun m => (.ok m.1, ofJson m.2) := by
  induction members with
  | nil => rfl
  | cons m rest ih => rw [ofMembers, ih, List.map_cons]

/-! ## The front of a text -/

theorem trim_cons {c : Char} (h : isBlank c = false) (rest : Units) :
    trim (some c :: rest) = some c :: rest := by
  rw [trim, h]
  rfl

/-- A character that a value starts with: no blank, and no closing bracket. -/
def Starts (c : Char) : Prop := isBlank c = false ∧ c ≠ ']'

theorem starts_digit {c : Char} (h : c.isDigit = true) : Starts c := by
  constructor
  · rw [Bool.eq_false_iff]
    intro blank
    simp only [isBlank, Bool.or_eq_true, decide_eq_true_eq] at blank
    rcases blank with ((rfl | rfl) | rfl) | rfl <;> cases h
  · rintro rfl
    cases h

theorem toDigits_eq_cons (n : Nat) : ∃ c rest, Nat.toDigits 10 n = c :: rest ∧ c.isDigit = true := by
  cases h : Nat.toDigits 10 n with
  | nil =>
    have := decimals_ne_nil n
    rw [decimals, h] at this
    exact absurd rfl this
  | cons c rest =>
    refine ⟨c, rest, rfl, Nat.isDigit_of_mem_toDigits (b := 10) (n := n) (by decide) (by decide) ?_⟩
    rw [h]
    exact List.mem_cons_self

theorem chars_eq_cons {v : Json} {room : Nat} (h : v.fits room = true) :
    ∃ c rest, v.chars = c :: rest ∧ Starts c := by
  cases v with
  | null => exact ⟨_, _, rfl, by decide, by decide⟩
  | bool b => cases b <;> exact ⟨_, _, rfl, by decide, by decide⟩
  | int n =>
    change ∃ c rest, intChars n = _ ∧ _
    unfold intChars
    split
    · exact ⟨_, _, rfl, by decide, by decide⟩
    · obtain ⟨c, rest, e, digit⟩ := toDigits_eq_cons n.natAbs
      exact ⟨c, rest, e, starts_digit digit⟩
  | real x => cases h
  | str s => exact ⟨_, _, rfl, by decide, by decide⟩
  | arr items => cases items <;> exact ⟨_, _, rfl, by decide, by decide⟩
  | obj members => cases members <;> exact ⟨_, _, rfl, by decide, by decide⟩

/-! ## Values -/

theorem unitsOf_append (a b : List Char) (rest : Units) :
    unitsOf (a ++ b) ++ rest = unitsOf a ++ (unitsOf b ++ rest) := by
  rw [unitsOf, List.map_append, List.append_assoc]
  rfl

theorem unitsOf_cons (c : Char) (text : List Char) (rest : Units) :
    unitsOf (c :: text) ++ rest = some c :: (unitsOf text ++ rest) := rfl

section Front

variable (fuel depth : Nat) (rest : Units)

/-! What the first character of a value decides. -/

theorem readValue_minus : readValue (fuel + 1) depth (some '-' :: rest) = readNumber true rest := by
  rw [readValue, trim_cons (by decide)]
  rfl

theorem readValue_digit {c : Char} (h : c.isDigit = true) :
    readValue (fuel + 1) depth (some c :: rest) = readNumber false (some c :: rest) := by
  rw [readValue, trim_cons (starts_digit h).1]
  split
  all_goals first
    | next e => cases e; cases h
    | next e => cases e; exact if_pos h
    | next e => cases e

theorem readValue_quote : readValue (fuel + 1) depth (some '"' :: rest) =
    match stringToken rest with
    | .ok (.ok s, rest) => (.str s, rest)
    | .ok (.error _, rest) => (.flawed, rest)
    | .error b => (.broken b, []) := by
  rw [readValue, trim_cons (by decide)]
  rfl

theorem readValue_bracket : readValue (fuel + 1) depth (some '[' :: rest) =
    match trim rest with
    | some ']' :: rest => (bounded (depth + 1) (.arr [] none), rest)
    | [] => (bounded (depth + 1) (.arr [] (some (.every .ended))), [])
    | rest =>
      let (items, stop, rest) := readItems fuel (depth + 1) rest
      (bounded (depth + 1) (.arr items stop), rest) := by
  rw [readValue, trim_cons (by decide)]
  rfl

theorem readValue_brace : readValue (fuel + 1) depth (some '{' :: rest) =
    match trim rest with
    | some '}' :: rest => (bounded (depth + 1) (.obj [] none), rest)
    | [] => (bounded (depth + 1) (.obj [] (some (.every .ended))), [])
    | rest =>
      let (members, stop, rest) := readMembers fuel (depth + 1) rest
      (bounded (depth + 1) (.obj members stop), rest) := by
  rw [readValue, trim_cons (by decide)]
  rfl

theorem readValue_array {c : Char} (h : Starts c) :
    readValue (fuel + 1) depth (some '[' :: some c :: rest)
      = (let (items, stop, rest) := readItems fuel (depth + 1) (some c :: rest)
        (bounded (depth + 1) (.arr items stop), rest)) := by
  rw [readValue_bracket, trim_cons h.1]
  split
  · next e =>
    cases e
    exact absurd rfl h.2
  · next e => cases e
  · rfl

end Front

theorem readValue_int {n : Int} {room : Nat} (h : (Json.int n).fits room = true) (fuel depth : Nat)
    {rest : Units} (hrest : Ends rest) :
    readValue (fuel + 1) depth (unitsOf (intChars n) ++ rest) = (.int n, rest) := by
  have range : -(2 : Int) ^ 63 ≤ n ∧ n ≤ significandLimit := by
    simpa [Json.fits] using h
  unfold intChars
  split
  · next negative =>
    rw [unitsOf_cons, readValue_minus, readNumber_negative (by omega) (by omega) hrest]
    congr 2
    omega
  · next positive =>
    obtain ⟨c, more, e, digit⟩ := toDigits_eq_cons n.natAbs
    have read := readNumber_toDigits (n := n.natAbs) (by omega) hrest
    rw [e, unitsOf_cons] at read
    rw [e, unitsOf_cons, readValue_digit _ _ _ digit, read]
    congr 2
    omega

/-- What a reader makes of a value's text, in front of whatever goes on after it. -/
def ReadBack (v : Json) : Prop :=
  ∀ room fuel depth rest, v.fits room = true → depth + room ≤ depthLimit →
    2 * v.chars.length ≤ fuel → Ends rest →
    readValue fuel depth (unitsOf v.chars ++ rest) = (ofJson v, rest)

theorem ends_comma (rest : Units) : Ends (some ',' :: rest) := by
  rintro u more e
  cases e
  exact .inl rfl

theorem ends_bracket (rest : Units) : Ends (some ']' :: rest) := by
  rintro u more e
  cases e
  exact .inr (.inl rfl)

theorem ends_brace (rest : Units) : Ends (some '}' :: rest) := by
  rintro u more e
  cases e
  exact .inr (.inr rfl)

theorem ofJson_ne_broken (v : Json) (b : Break) : ofJson v ≠ .broken b := by
  cases v <;> exact nofun

/-! One item, and one member, in front of what follows it. -/

section Steps

variable {fuel depth : Nat} {units rest : Units} {v : Json}
  (read : readValue fuel depth units = (ofJson v, rest))

include read

theorem readItems_last (more : Units) (hrest : rest = some ']' :: more) :
    readItems (fuel + 1) depth units = ([ofJson v], none, more) := by
  rw [readItems, read]
  split
  · next e => exact absurd (Prod.mk.inj e).1 (ofJson_ne_broken v _)
  · next e =>
    obtain ⟨rfl, rfl⟩ := Prod.mk.inj e
    rw [hrest, trim_cons (by decide)]
    rfl

theorem readItems_next {c : Char} (more : Units) (hrest : rest = some ',' :: some c :: more)
    (hc : Starts c) :
    readItems (fuel + 1) depth units
      = (let (items, stop, rest) := readItems fuel depth (some c :: more)
        (ofJson v :: items, stop, rest)) := by
  rw [readItems, read]
  split
  · next e => exact absurd (Prod.mk.inj e).1 (ofJson_ne_broken v _)
  · next e =>
    obtain ⟨rfl, rfl⟩ := Prod.mk.inj e
    rw [hrest, trim_cons (by decide)]
    simp only [trim_cons hc.1]
    split
    · next e =>
      cases e
      exact absurd rfl hc.2
    · rfl

theorem readMembers_last (name : String) (more : Units) (hrest : rest = some '}' :: more) :
    readMembers (fuel + 1) depth (unitsOf (quoted name) ++ some ':' :: units)
      = ([(.ok name, ofJson v)], none, more) := by
  rw [unitsOf_quoted, readMembers, trim_cons (by decide)]
  simp only [stringToken_quoted]
  rw [trim_cons (by decide)]
  simp only [read]
  split
  · next e => exact absurd (Prod.mk.inj e).1 (ofJson_ne_broken v _)
  · next e =>
    obtain ⟨rfl, rfl⟩ := Prod.mk.inj e
    rw [hrest, trim_cons (by decide)]
    rfl

theorem readMembers_next (name : String) (more : Units) (hrest : rest = some ',' :: more) :
    readMembers (fuel + 1) depth (unitsOf (quoted name) ++ some ':' :: units)
      = (let (members, stop, rest) := readMembers fuel depth more
        ((.ok name, ofJson v) :: members, stop.map Break.unchosen, rest)) := by
  rw [unitsOf_quoted, readMembers, trim_cons (by decide)]
  simp only [stringToken_quoted]
  rw [trim_cons (by decide)]
  simp only [read]
  split
  · next e => exact absurd (Prod.mk.inj e).1 (ofJson_ne_broken v _)
  · next e =>
    obtain ⟨rfl, rfl⟩ := Prod.mk.inj e
    rw [hrest, trim_cons (by decide)]
    rfl

end Steps

section Lists

variable {room depth : Nat} (hdepth : depth + room ≤ depthLimit)

include hdepth

theorem readItems_chars {items : List Json} {v : Json} (back : ∀ v' ∈ v :: items, ReadBack v')
    (h : ∀ v' ∈ v :: items, v'.fits room = true) (fuel : Nat)
    (hfuel : 2 * (v.chars ++ itemsChars items).length ≤ fuel) (rest : Units) :
    readItems fuel depth (unitsOf (v.chars ++ itemsChars items) ++ rest)
      = ((v :: items).map ofJson, none, rest) := by
  induction items generalizing v fuel with
  | nil =>
    obtain ⟨fuel, rfl⟩ : ∃ n, fuel = n + 1 := ⟨fuel - 1, by simp [itemsChars] at hfuel; omega⟩
    have read := back v List.mem_cons_self room fuel depth (some ']' :: rest)
      (h v List.mem_cons_self) hdepth (by simp [itemsChars] at hfuel; omega) (ends_bracket rest)
    rw [unitsOf_append]
    exact readItems_last read rest rfl
  | cons next items ih =>
    obtain ⟨hv, hitems⟩ := List.forall_mem_cons.mp h
    obtain ⟨backv, backitems⟩ := List.forall_mem_cons.mp back
    obtain ⟨c, more, e, starts⟩ := chars_eq_cons (hitems next List.mem_cons_self)
    have length : (v.chars ++ itemsChars (next :: items)).length
        = v.chars.length + 1 + (next.chars ++ itemsChars items).length := by
      simp [itemsChars]
      omega
    obtain ⟨fuel, rfl⟩ : ∃ n, fuel = n + 1 := ⟨fuel - 1, by omega⟩
    have tail := ih backitems hitems fuel (by omega)
    have read := backv room fuel depth
      (some ',' :: (unitsOf (next.chars ++ itemsChars items) ++ rest)) hv hdepth (by omega)
      (ends_comma _)
    rw [e, List.cons_append, unitsOf_cons] at read tail
    rw [unitsOf_append, itemsChars, unitsOf_cons, e, List.cons_append, unitsOf_cons,
      readItems_next read _ rfl starts, tail]
    rfl

theorem readMembers_chars {members : List (String × Json)} {name : String} {v : Json}
    (back : ∀ m ∈ (name, v) :: members, ReadBack m.2)
    (h : ∀ m ∈ (name, v) :: members, m.2.fits room = true) (fuel : Nat)
    (hfuel : 2 * (v.chars ++ membersChars members).length < fuel) (rest : Units) :
    readMembers fuel depth
        (unitsOf (quoted name ++ ':' :: (v.chars ++ membersChars members)) ++ rest)
      = (((name, v) :: members).map fun m => (.ok m.1, ofJson m.2), none, rest) := by
  induction members generalizing name v fuel with
  | nil =>
    obtain ⟨fuel, rfl⟩ : ∃ n, fuel = n + 1 := ⟨fuel - 1, by omega⟩
    have backv : ReadBack v := back (name, v) List.mem_cons_self
    have read := backv room fuel depth (some '}' :: rest) (h (name, v) List.mem_cons_self) hdepth
      (by simp [membersChars] at hfuel; omega) (ends_brace rest)
    rw [unitsOf_append, unitsOf_cons, unitsOf_append]
    exact readMembers_last read name rest rfl
  | cons next members ih =>
    obtain ⟨hv, hmembers⟩ := List.forall_mem_cons.mp h
    obtain ⟨(backv : ReadBack v), backmembers⟩ := List.forall_mem_cons.mp back
    obtain ⟨nextName, next⟩ := next
    have length : (v.chars ++ membersChars ((nextName, next) :: members)).length
        = v.chars.length + (quoted nextName).length + 2
          + (next.chars ++ membersChars members).length := by
      simp [membersChars]
      omega
    obtain ⟨fuel, rfl⟩ : ∃ n, fuel = n + 1 := ⟨fuel - 1, by omega⟩
    have tail := ih backmembers hmembers fuel (by omega)
    have read := backv room fuel depth (some ',' ::
      (unitsOf (quoted nextName ++ ':' :: (next.chars ++ membersChars members)) ++ rest)) hv hdepth
      (by omega) (ends_comma _)
    rw [unitsOf_append, unitsOf_cons, unitsOf_append, membersChars, unitsOf_cons,
      readMembers_next read name _ rfl, tail]
    rfl

end Lists

theorem bounded_eq {depth : Nat} (h : depth ≤ depthLimit) (s : Source) : bounded depth s = s :=
  if_pos h

theorem ReadBack.arr {items : List Json} (back : ∀ v ∈ items, ReadBack v) : ReadBack (.arr items) := by
  intro room fuel depth rest h hdepth hfuel _
  cases room with
  | zero => cases h
  | succ room =>
    cases items with
    | nil =>
      obtain ⟨fuel, rfl⟩ : ∃ n, fuel = n + 1 := ⟨fuel - 1, by simp [chars] at hfuel; omega⟩
      change readValue (fuel + 1) depth (some '[' :: some ']' :: rest) = _
      rw [readValue_bracket, trim_cons (by decide)]
      exact congrArg (·, rest) (bounded_eq (by omega) _)
    | cons v items =>
      rw [fits, fitsItems_eq, List.all_eq_true] at h
      obtain ⟨c, more, e, starts⟩ := chars_eq_cons (h v List.mem_cons_self)
      rw [chars, List.length_cons] at hfuel
      obtain ⟨fuel, rfl⟩ : ∃ n, fuel = n + 1 := ⟨fuel - 1, by omega⟩
      have within : depth + 1 + room ≤ depthLimit := by omega
      have list := readItems_chars within back h fuel (by omega) rest
      rw [e, List.cons_append, unitsOf_cons] at list
      rw [chars, unitsOf_cons, e, List.cons_append, unitsOf_cons, readValue_array _ _ _ starts, list]
      dsimp only
      rw [bounded_eq (by omega), ofJson, ofItems_eq]

theorem ReadBack.obj {members : List (String × Json)} (back : ∀ m ∈ members, ReadBack m.2) :
    ReadBack (.obj members) := by
  intro room fuel depth rest h hdepth hfuel _
  cases room with
  | zero => cases h
  | succ room =>
    cases members with
    | nil =>
      obtain ⟨fuel, rfl⟩ : ∃ n, fuel = n + 1 := ⟨fuel - 1, by simp [chars] at hfuel; omega⟩
      change readValue (fuel + 1) depth (some '{' :: some '}' :: rest) = _
      rw [readValue_brace, trim_cons (by decide)]
      exact congrArg (·, rest) (bounded_eq (by omega) _)
    | cons m members =>
      obtain ⟨name, v⟩ := m
      rw [fits, fitsMembers_eq, List.all_eq_true] at h
      have length : (chars (.obj ((name, v) :: members))).length
          = (quoted name).length + (v.chars ++ membersChars members).length + 2 := by
        simp [chars]
        omega
      obtain ⟨fuel, rfl⟩ : ∃ n, fuel = n + 1 := ⟨fuel - 1, by omega⟩
      have within : depth + 1 + room ≤ depthLimit := by omega
      have list := readMembers_chars within back h fuel (by omega) rest
      rw [unitsOf_append, unitsOf_quoted] at list
      rw [chars, unitsOf_cons, unitsOf_append, unitsOf_quoted, readValue_brace,
        trim_cons (by decide)]
      change (let (members, stop, rest) := readMembers fuel (depth + 1) _
        (bounded (depth + 1) (.obj members stop), rest)) = _
      rw [list]
      dsimp only
      rw [bounded_eq (by omega), ofJson, ofMembers_eq]

theorem readBack (v : Json) : ReadBack v := by
  induction v using induct with
  | null =>
    intro room fuel depth rest _ _ hfuel _
    obtain ⟨fuel, rfl⟩ : ∃ n, fuel = n + 1 := ⟨fuel - 1, by simp [chars] at hfuel; omega⟩
    rfl
  | bool b =>
    intro room fuel depth rest _ _ hfuel _
    obtain ⟨fuel, rfl⟩ : ∃ n, fuel = n + 1 :=
      ⟨fuel - 1, by cases b <;> simp [chars] at hfuel <;> omega⟩
    cases b <;> rfl
  | int n =>
    intro room fuel depth rest h _ hfuel hrest
    obtain ⟨c, more, e, -⟩ := chars_eq_cons h
    obtain ⟨fuel, rfl⟩ : ∃ n, fuel = n + 1 := ⟨fuel - 1, by rw [e, List.length_cons] at hfuel; omega⟩
    exact readValue_int h fuel depth hrest
  | real x => exact fun room fuel depth rest h => nomatch h
  | str s =>
    intro room fuel depth rest _ _ hfuel _
    obtain ⟨fuel, rfl⟩ : ∃ n, fuel = n + 1 :=
      ⟨fuel - 1, by simp [chars, quoted] at hfuel; omega⟩
    rw [chars, unitsOf_quoted, readValue_quote, stringToken_quoted]
    rfl
  | arr items ih => exact .arr ih
  | obj members ih => exact .obj ih

/-- The text of a value is read to its end as the value. -/
theorem read_chars {v : Json} (h : v.fits depthLimit = true) :
    read (unitsOf v.chars) = (ofJson v, false) := by
  have back := readBack v depthLimit (2 * (unitsOf v.chars).length + 2) 0 [] h (by omega)
    (by rw [unitsOf, List.length_map]; omega) nofun
  rw [List.append_nil] at back
  rw [read, back]
  rfl

theorem read_units_bytes {v : Json} (h : v.fits depthLimit = true) :
    read (Utf8.units v.bytes) = (ofJson v, false) := by
  rw [bytes, Utf8.units_encode]
  exact read_chars h

/-- Any value is read as itself, in order. -/
theorem json_ofJson (v : Json) : (ofJson v).json = .ok v.sorted := by
  induction v using induct with
  | null => rfl
  | bool b => rfl
  | int n => rfl
  | real x => rfl
  | str s => rfl
  | arr items ih =>
    have list : jsonItems (ofItems items) = .ok (sortedItems items) := by
      induction items with
      | nil => rfl
      | cons v rest ihrest =>
        obtain ⟨hv, hrest⟩ := List.forall_mem_cons.mp ih
        rw [ofItems, jsonItems, hv, ihrest hrest]
        rfl
    rw [ofJson, json, list]
    rfl
  | obj members ih =>
    have list : jsonMembers (ofMembers members) = .ok (sortedMembers members) := by
      induction members with
      | nil => rfl
      | cons m rest ihrest =>
        obtain ⟨hv, hrest⟩ := List.forall_mem_cons.mp ih
        rw [ofMembers, jsonMembers, hv, ihrest hrest]
        rfl
    rw [ofJson, json, list]
    rfl

end Source

/-- Reading the text of a value gives what the reader makes of the value itself. -/
theorem Reader.ofBytes_bytes {α : Type} (read : Reader α) {v : Json}
    (h : v.fits Source.depthLimit = true) : ofBytes read v.bytes = read (Source.ofJson v) := by
  rw [ofBytes, ofUnits, Source.read_units_bytes h]
  dsimp only
  cases read (Source.ofJson v) <;> rfl

/-- The canonical text of a value is read as the value in order. -/
theorem ofBytes_canonicalBytes {v : Json} (h : v.fits Source.depthLimit = true) :
    ofBytes v.canonicalBytes = .ok v.sorted := by
  rw [ofBytes, canonicalBytes, Reader.ofBytes_bytes _ (fits_sorted h)]
  exact (Source.json_ofJson v.sorted).trans (congrArg Except.ok (sorted_sorted v))

end Json

end Pairwise
