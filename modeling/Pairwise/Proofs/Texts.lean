import Pairwise.Text.Split
/-!
# Cutting texts that were put together

Results:
* `after?_eq_some`: what follows a leading part that was put in front.
* `append_ne`: a text with something in front is another.
* `startsWith_eq_false`: a text does not start with what it has no characters of.
* `splitFirst?_eq_some`, `before_eq_part`: the parts around a separator that was put between them.
* `before_append`: a part without the separator stays in front.
* `splitLast?_eq_some`: the parts around the last separator.
-/
namespace Pairwise

namespace Text

theorem listAfter?_append {α : Type} [DecidableEq α] (lead rest : List α) :
    listAfter? lead (lead ++ rest) = some rest := by
  induction lead with
  | nil => rfl
  | cons a lead ih => exact (if_pos rfl).trans ih

theorem after?_append (lead s : String) : after? lead (lead ++ s) = some s := by
  rw [after?, String.toList_append, listAfter?_append, Option.map_some, String.ofList_toList]

theorem startsWith_append (lead s : String) : startsWith lead (lead ++ s) = true := by
  rw [startsWith, after?_append]
  rfl

/-- A text with something in front is another text. -/
theorem append_ne {lead : String} (some : lead ≠ "") (s : String) : lead ++ s ≠ s := by
  intro same
  exact some ((String.append_left_inj s).mp (same.trans String.empty_append.symm))

theorem listAfter?_eq_some {α : Type} [DecidableEq α] {lead s rest : List α}
    (h : listAfter? lead s = some rest) : s = lead ++ rest := by
  induction lead generalizing s with
  | nil => exact Option.some.inj h
  | cons a lead ih =>
    cases s with
    | nil => cases h
    | cons b s =>
      rw [listAfter?] at h
      split at h
      · next e => rw [ih h, e, List.cons_append]
      · cases h

theorem after?_eq_some {lead s rest : String} : after? lead s = some rest ↔ s = lead ++ rest := by
  constructor
  · intro h
    rw [after?, Option.map_eq_some_iff] at h
    obtain ⟨chars, hchars, rfl⟩ := h
    rw [← String.toList_inj, String.toList_append, String.toList_ofList]
    exact listAfter?_eq_some hchars
  · rintro rfl
    exact after?_append lead rest

theorem startsWith_iff {lead s : String} : startsWith lead s = true ↔ ∃ rest, s = lead ++ rest := by
  rw [startsWith, Option.isSome_iff_exists]
  exact exists_congr fun rest => after?_eq_some

/-- A text without a character of the leading part does not start with it. -/
theorem startsWith_eq_false {lead s : String} {c : Char} (hc : c ∈ lead.toList)
    (h : c ∉ s.toList) : startsWith lead s = false := by
  rw [startsWith, after?, Option.isSome_map]
  cases e : listAfter? lead.toList s.toList with
  | none => rfl
  | some rest =>
    rw [listAfter?_eq_some e] at h
    exact absurd (List.mem_append_left rest hc) h

theorem cutFirst?_append {sep : Char} {a : List Char} (h : sep ∉ a) (b : List Char) :
    cutFirst? sep (a ++ sep :: b) = some (a, b) := by
  induction a with
  | nil => exact if_pos rfl
  | cons c a ih =>
    obtain ⟨ne, rest⟩ := not_or.mp (mt List.mem_cons.mpr h)
    rw [List.cons_append, cutFirst?, if_neg (Ne.symm ne), ih rest]
    rfl

theorem cutFirst?_append_left {sep : Char} {lead : List Char} (h : sep ∉ lead) (s : List Char) :
    cutFirst? sep (lead ++ s)
      = (cutFirst? sep s).map fun parts => (lead ++ parts.1, parts.2) := by
  induction lead with
  | nil => exact Option.map_id'.symm
  | cons c lead ih =>
    obtain ⟨ne, rest⟩ := not_or.mp (mt List.mem_cons.mpr h)
    rw [List.cons_append, cutFirst?, if_neg (Ne.symm ne), ih rest, Option.map_map]
    rfl

theorem cutFirst?_eq_none {sep : Char} {s : List Char} (h : sep ∉ s) : cutFirst? sep s = none := by
  induction s with
  | nil => rfl
  | cons c s ih =>
    obtain ⟨ne, rest⟩ := not_or.mp (mt List.mem_cons.mpr h)
    rw [cutFirst?, if_neg (Ne.symm ne), ih rest]
    rfl

theorem cutLast?_eq_some {sep : Char} {s a b : List Char} :
    cutLast? sep s = some (a, b) ↔ s = a ++ sep :: b ∧ sep ∉ b := by
  rw [cutLast?, Option.map_eq_some_iff]
  constructor
  · rintro ⟨⟨back, front⟩, cut, ⟨⟩⟩
    obtain ⟨reversed, fresh⟩ := cutFirst?_eq_some cut
    refine ⟨?_, mt List.mem_reverse.mp fresh⟩
    rw [← List.reverse_reverse s, reversed, List.reverse_append, List.reverse_cons, List.append_assoc]
    rfl
  · rintro ⟨rfl, fresh⟩
    have cut := cutFirst?_append (mt List.mem_reverse.mp fresh) a.reverse
    refine ⟨(b.reverse, a.reverse), ?_, ?_⟩
    · rw [List.reverse_append, List.reverse_cons, List.append_assoc]
      exact cut
    · exact Prod.ext (List.reverse_reverse a) (List.reverse_reverse b)

theorem splitLast?_eq_some {sep : Char} {s a b : String} :
    splitLast? sep s = some (a, b) ↔ s.toList = a.toList ++ sep :: b.toList ∧ sep ∉ b.toList := by
  rw [splitLast?, Option.map_eq_some_iff, ← cutLast?_eq_some]
  constructor
  · rintro ⟨⟨front, back⟩, cut, ⟨⟩⟩
    rwa [String.toList_ofList, String.toList_ofList]
  · intro cut
    exact ⟨_, cut, Prod.ext String.ofList_toList String.ofList_toList⟩

/-- The part before the separator stands in front. -/
theorem exists_eq_before_append (sep : Char) (s : String) : ∃ rest, s = before sep s ++ rest := by
  unfold before
  split
  · next a b cut =>
    obtain ⟨⟨front, back⟩, chars, parts⟩ := Option.map_eq_some_iff.mp cut
    obtain ⟨rfl, rfl⟩ := Prod.mk.inj parts
    refine ⟨String.ofList (sep :: back), ?_⟩
    rw [← String.ofList_append, ← (cutFirst?_eq_some chars).1, String.ofList_toList]
  · exact ⟨"", (String.append_empty).symm⟩

section Strings

variable {sep : Char} {a : String} (h : sep ∉ a.toList)

include h

theorem splitFirst?_eq_some {s b : String} (text : s.toList = a.toList ++ sep :: b.toList) :
    splitFirst? sep s = some (a, b) := by
  rw [splitFirst?, text, cutFirst?_append h, Option.map_some]
  dsimp only
  rw [String.ofList_toList, String.ofList_toList]

theorem splitFirst?_eq_none : splitFirst? sep a = none := by
  rw [splitFirst?, cutFirst?_eq_none h, Option.map_none]

theorem before_eq_part {s b : String} (text : s.toList = a.toList ++ sep :: b.toList) :
    before sep s = a := by
  rw [before, splitFirst?_eq_some h text]

theorem before_eq_self : before sep a = a := by
  rw [before, splitFirst?_eq_none h]

/-- A leading part without the separator stays in front when a text is cut. -/
theorem before_append (s : String) : before sep (a ++ s) = a ++ before sep s := by
  rw [before, before, splitFirst?, splitFirst?, String.toList_append, cutFirst?_append_left h]
  cases cutFirst? sep s.toList with
  | none => rfl
  | some parts =>
    rw [Option.map_some, Option.map_some, Option.map_some]
    exact String.ofList_append.trans (congrArg (· ++ _) String.ofList_toList)

end Strings

end Text

end Pairwise
