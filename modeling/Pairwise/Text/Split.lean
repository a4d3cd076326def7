/-!
# Cutting texts

Texts cut at a leading part, and at the first or the last of a separator.

Results:
* `cutFirst?_eq_some`: cutting loses nothing but the separator.
-/
namespace Pairwise

namespace Text

/-- What follows a leading part of a list. -/
def listAfter? {α : Type} [DecidableEq α] : (lead : List α) → List α → Option (List α)
  | [], rest => some rest
  | _ :: _, [] => none
  | a :: lead, b :: rest => if a = b then listAfter? lead rest else none

/-- What follows a leading part. -/
def after? (lead s : String) : Option String :=
  (listAfter? lead.toList s.toList).map String.ofList

/-- Whether a text has a leading part. -/
def startsWith (lead s : String) : Bool := (after? lead s).isSome

/-- The parts before and after the first separator. -/
def cutFirst? (sep : Char) : List Char → Option (List Char × List Char)
  | [] => none
  | c :: rest =>
    if c = sep then some ([], rest)
    else (cutFirst? sep rest).map fun (a, b) => (c :: a, b)

/-- The parts before and after the last separator. -/
def cutLast? (sep : Char) (s : List Char) : Option (List Char × List Char) :=
  (cutFirst? sep s.reverse).map fun (a, b) => (b.reverse, a.reverse)

/-- The parts before and after the first separator. -/
def splitFirst? (sep : Char) (s : String) : Option (String × String) :=
  (cutFirst? sep s.toList).map fun (a, b) => (String.ofList a, String.ofList b)

/-- The parts before and after the last separator. -/
def splitLast? (sep : Char) (s : String) : Option (String × String) :=
  (cutLast? sep s.toList).map fun (a, b) => (String.ofList a, String.ofList b)

/-- The part before the first separator, or all. -/
def before (sep : Char) (s : String) : String :=
  match splitFirst? sep s with
  | some (a, _) => a
  | none => s

theorem cutFirst?_eq_some {sep : Char} {s a b : List Char} (h : cutFirst? sep s = some (a, b)) :
    s = a ++ sep :: b ∧ sep ∉ a := by
  induction s generalizing a with
  | nil => simp [cutFirst?] at h
  | cons c rest ih =>
    by_cases hc : c = sep
    · simp only [cutFirst?, hc, if_true, Option.some.injEq, Prod.mk.injEq] at h
      simp [← h.1, ← h.2, hc]
    · simp only [cutFirst?, hc, if_false, Option.map_eq_some_iff, Prod.exists, Prod.mk.injEq] at h
      obtain ⟨a', b', h', rfl, rfl⟩ := h
      obtain ⟨e, n⟩ := ih h'
      exact ⟨by simp [e], by simp [n, Ne.symm hc]⟩

end Text

end Pairwise
