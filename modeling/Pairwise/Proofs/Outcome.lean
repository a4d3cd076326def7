import Mathlib.Data.List.Forall2
import Pairwise.Error
/-!
# Results that may be errors

How a sequence of checks comes to a result: every one of them has one, and the last gives it.

Results:
* `bind_eq_ok`, `mapError_eq_ok`: one check after another, and a result restated.
* `mapM_eq_ok`: a list of checks has a list of results, item by item.
* `exists_forall₂_iff`: a list of partners can be chosen item by item.
* `Fails`: what is true of every error of a check, and of a sequence of checks.
-/
namespace Pairwise

namespace Outcome

variable {ε ε' α β : Type}

theorem ok_bind {a : α} {f : α → Except ε β} : ((Except.ok a : Except ε α) >>= f) = f a := rfl

theorem bind_eq_ok {x : Except ε α} {f : α → Except ε β} {b : β} :
    (x >>= f) = .ok b ↔ ∃ a, x = .ok a ∧ f a = .ok b := by
  cases x with
  | error e =>
    constructor
    · intro h
      cases h
    · rintro ⟨a, ha, -⟩
      cases ha
  | ok a =>
    constructor
    · intro h
      exact ⟨a, rfl, h⟩
    · rintro ⟨a', ha, hf⟩
      cases ha
      exact hf

theorem mapError_eq_ok {x : Except ε α} {f : ε → ε'} {a : α} :
    x.mapError f = .ok a ↔ x = .ok a := by
  cases x with
  | error e => exact ⟨fun h => (nomatch h), fun h => (nomatch h)⟩
  | ok a' => exact ⟨fun h => by cases h; rfl, fun h => by cases h; rfl⟩

theorem mapM_eq_ok {f : α → Except ε β} {as : List α} {bs : List β} :
    as.mapM f = .ok bs ↔ List.Forall₂ (fun a b => f a = .ok b) as bs := by
  induction as generalizing bs with
  | nil =>
    rw [List.mapM_nil, List.forall₂_nil_left_iff]
    exact ⟨fun h => by cases h; rfl, fun h => by rw [h]; rfl⟩
  | cons a as ih =>
    rw [List.mapM_cons, bind_eq_ok]
    constructor
    · rintro ⟨b, hb, h⟩
      obtain ⟨rest, hrest, h⟩ := bind_eq_ok.mp h
      cases h
      exact .cons hb (ih.mp hrest)
    · intro h
      cases h with
      | cons hb hrest =>
        exact ⟨_, hb, bind_eq_ok.mpr ⟨_, ih.mpr hrest, rfl⟩⟩

/-- A check that has all the results of another has the same results on a list. -/
theorem mapM_eq_ok_of {f g : α → Except ε β} {as : List α} {bs : List β}
    (h : ∀ a ∈ as, ∀ b, f a = .ok b → g a = .ok b) (results : as.mapM f = .ok bs) :
    as.mapM g = .ok bs := by
  induction as generalizing bs with
  | nil => exact results
  | cons a as ih =>
    obtain ⟨first, others⟩ := List.forall_mem_cons.mp h
    rw [mapM_eq_ok] at results ⊢
    cases results with
    | cons ha has => exact .cons (first _ ha) (mapM_eq_ok.mp (ih others (mapM_eq_ok.mpr has)))

/-- Where a list of checks has results, every one of them has. -/
theorem eq_ok_of_mapM {f : α → Except ε β} {as : List α} {bs : List β} (h : as.mapM f = .ok bs)
    {a : α} (mem : a ∈ as) : ∃ b, f a = .ok b := by
  induction mapM_eq_ok.mp h with
  | nil => cases mem
  | cons hb _ ih =>
    rcases List.mem_cons.mp mem with rfl | mem
    · exact ⟨_, hb⟩
    · exact ih (mapM_eq_ok.mpr ‹_›) mem

/-- Partners for all items, each of them good, are a good partner for every item. -/
theorem exists_forall₂_iff {R : α → β → Prop} {P : β → Prop} {as : List α} :
    (∃ bs, List.Forall₂ R as bs ∧ ∀ b ∈ bs, P b) ↔ ∀ a ∈ as, ∃ b, R a b ∧ P b := by
  induction as with
  | nil =>
    exact ⟨fun _ a ha => absurd ha List.not_mem_nil,
      fun _ => ⟨[], .nil, fun b hb => absurd hb List.not_mem_nil⟩⟩
  | cons a as ih =>
    rw [List.forall_mem_cons, ← ih]
    constructor
    · rintro ⟨bs, hR, hP⟩
      cases hR with
      | cons hab hrest =>
        obtain ⟨hb, hbs⟩ := List.forall_mem_cons.mp hP
        exact ⟨⟨_, hab, hb⟩, _, hrest, hbs⟩
    · rintro ⟨⟨b, hab, hb⟩, bs, hrest, hbs⟩
      exact ⟨b :: bs, .cons hab hrest, List.forall_mem_cons.mpr ⟨hb, hbs⟩⟩

/-! ## Errors -/

/-- Whatever goes wrong, it is such an error. -/
def Fails (P : ε → Prop) (x : Except ε α) : Prop := ∀ e, x = .error e → P e

namespace Fails

variable {P : ε → Prop} {Q : ε' → Prop}

theorem imp {P' : ε → Prop} {x : Except ε α} (hx : Fails P x) (h : ∀ e, P e → P' e) : Fails P' x :=
  fun e same => h e (hx e same)

theorem ok (a : α) : Fails P (.ok a) := nofun

theorem error {e : ε} (h : P e) : Fails P (.error e : Except ε α) :=
  fun _ same => Except.error.inj same ▸ h

theorem bind {x : Except ε α} {f : α → Except ε β} (hx : Fails P x)
    (hf : ∀ a, x = .ok a → Fails P (f a)) : Fails P (x >>= f) := by
  cases x with
  | error e => exact error (hx e rfl)
  | ok a => exact hf a rfl

theorem mapError {x : Except ε α} {f : ε → ε'} (h : ∀ e, Q (f e)) : Fails Q (x.mapError f) := by
  cases x with
  | error e => exact error (h e)
  | ok a => exact ok a

theorem mapM {f : α → Except ε β} {as : List α} (h : ∀ a ∈ as, Fails P (f a)) :
    Fails P (as.mapM f) := by
  induction as with
  | nil => exact ok []
  | cons a as ih =>
    obtain ⟨first, others⟩ := List.forall_mem_cons.mp h
    rw [List.mapM_cons]
    exact .bind first fun _ _ => .bind (ih others) fun _ _ => ok _

end Fails

end Outcome

end Pairwise
