import Mathlib.Tactic.IntervalCases
import Pairwise.Json.Source
/-!
# Strings and numbers of JSON texts

What is written for a string or a whole number is read back as the same, and what follows is left
for the next reader.

Results:
* `stringToken_quoted`: a string is read back.
* `readNumber_toDigits`, `readNumber_negative`: a whole number of 64 bits is read back.
-/
namespace Pairwise

namespace Json

namespace Source

/-- The units of a text. -/
def unitsOf (text : List Char) : Units := text.map some

/-! ## Strings -/

section Strings

variable (rest : Units)

/-- An escape of four digits stands for a control character. -/
theorem hexUnit_control {n : Nat} (h : n < 32) :
    hexUnit (some '0' :: some '0' :: some (Bytes.hexDigit (n / 16)) :: some (Bytes.hexDigit (n % 16))
      :: rest) = .ok (n, rest) := by
  interval_cases n <;> rfl

/-- A character is written as a short escape, by its number, or as it is. -/
theorem escapeChar_eq (c : Char) :
    (∃ e, escapeChar c = ['\\', e] ∧ e ≠ 'u' ∧ shortEscape? e = some c) ∨
      (c.toNat < 32 ∧ escapeChar c = ['\\', 'u', '0', '0', Bytes.hexDigit (c.toNat / 16),
        Bytes.hexDigit (c.toNat % 16)]) ∨
      (c ≠ '"' ∧ c ≠ '\\' ∧ ¬ c.toNat < 32 ∧ escapeChar c = [c]) := by
  have named (d : Char) (h : c.toNat = d.toNat) : c = d := by
    rw [← Char.ofNat_toNat c, h, Char.ofNat_toNat]
  by_cases quote : c = '"'
  · exact .inl ⟨'"', by rw [quote]; rfl, by decide, by rw [quote]; rfl⟩
  by_cases slash : c = '\\'
  · exact .inl ⟨'\\', by rw [slash]; rfl, by decide, by rw [slash]; rfl⟩
  by_cases h8 : c.toNat = 8
  · exact .inl ⟨'b', by rw [named '\x08' h8]; rfl, by decide, by rw [named '\x08' h8]; rfl⟩
  by_cases h9 : c.toNat = 9
  · exact .inl ⟨'t', by rw [named '\t' h9]; rfl, by decide, by rw [named '\t' h9]; rfl⟩
  by_cases h10 : c.toNat = 10
  · exact .inl ⟨'n', by rw [named '\n' h10]; rfl, by decide, by rw [named '\n' h10]; rfl⟩
  by_cases h12 : c.toNat = 12
  · exact .inl ⟨'f', by rw [named '\x0c' h12]; rfl, by decide, by rw [named '\x0c' h12]; rfl⟩
  by_cases h13 : c.toNat = 13
  · exact .inl ⟨'r', by rw [named '\r' h13]; rfl, by decide, by rw [named '\r' h13]; rfl⟩
  by_cases control : c.toNat < 32
  · exact .inr (.inl ⟨control, by
      simp only [escapeChar, quote, slash, h8, h9, h10, h12, h13, control, if_true, if_false]⟩)
  · exact .inr (.inr ⟨quote, slash, control, by
      simp only [escapeChar, quote, slash, h8, h9, h10, h12, h13, control, if_false]⟩)

/-- A written character, in front of more of the string. -/
theorem readString_escapeChar (fuel : Nat) (c : Char) :
    readString (fuel + 1) (unitsOf (escapeChar c) ++ rest) = (readString fuel rest).push c := by
  rcases escapeChar_eq c with ⟨e, written, hu, short⟩ | ⟨control, written⟩ |
    ⟨quote, slash, control, written⟩
  · rw [written, unitsOf, List.map_cons, List.map_singleton, List.cons_append, List.singleton_append,
      readString, if_neg (by decide), if_pos rfl, short]
    exact hu
  · have low : isLow c.toNat = false := by simp [isLow]; omega
    have high : isHigh c.toNat = false := by simp [isHigh]; omega
    rw [written]
    simp only [unitsOf, List.map_cons, List.map_nil, List.cons_append, List.nil_append, readString]
    rw [if_neg (by decide), if_pos trivial]
    simp only [hexUnit_control rest control, low, high, Char.ofNat_toNat]
    rfl
  · rw [written]
    simp only [unitsOf, List.map_cons, List.map_nil, List.cons_append, List.nil_append, readString]
    rw [if_neg quote, if_neg slash, if_neg control]

theorem skipString_escapeChar (fuel : Nat) (c : Char) :
    skipString (fuel + 1) (unitsOf (escapeChar c) ++ rest) = skipString fuel rest := by
  rcases escapeChar_eq c with ⟨e, written, hu, short⟩ | ⟨control, written⟩ |
    ⟨quote, slash, control, written⟩
  · rw [written, unitsOf, List.map_cons, List.map_singleton, List.cons_append, List.singleton_append,
      skipString, if_neg (by decide), if_pos rfl, short]
    · rfl
    · exact hu
  · rw [written]
    simp only [unitsOf, List.map_cons, List.map_nil, List.cons_append, List.nil_append, skipString]
    rw [if_neg (by decide), if_pos trivial]
    simp only [hexUnit_control rest control]
    rfl
  · rw [written]
    simp only [unitsOf, List.map_cons, List.map_nil, List.cons_append, List.nil_append, skipString]
    rw [if_neg quote, if_neg slash, if_neg control]

end Strings

/-- The units of a string after its opening quote. -/
def stringUnits (text : List Char) (rest : Units) : Units :=
  unitsOf (text.flatMap escapeChar) ++ some '"' :: rest

theorem stringUnits_cons (c : Char) (text : List Char) (rest : Units) :
    stringUnits (c :: text) rest = unitsOf (escapeChar c) ++ stringUnits text rest := by
  simp [stringUnits, unitsOf]

theorem readString_stringUnits {text : List Char} {fuel : Nat} (h : text.length < fuel)
    (rest : Units) : readString fuel (stringUnits text rest) = .closed (some text) rest := by
  induction text generalizing fuel with
  | nil =>
    obtain ⟨fuel, rfl⟩ : ∃ n, fuel = n + 1 := ⟨fuel - 1, by omega⟩
    rfl
  | cons c text ih =>
    obtain ⟨fuel, rfl⟩ : ∃ n, fuel = n + 1 := ⟨fuel - 1, by omega⟩
    rw [stringUnits_cons, readString_escapeChar, ih (Nat.lt_of_succ_lt_succ h)]
    rfl

theorem skipString_stringUnits {text : List Char} {fuel : Nat} (h : text.length < fuel)
    (rest : Units) : skipString fuel (stringUnits text rest) = .ok rest := by
  induction text generalizing fuel with
  | nil =>
    obtain ⟨fuel, rfl⟩ : ∃ n, fuel = n + 1 := ⟨fuel - 1, by omega⟩
    rfl
  | cons c text ih =>
    obtain ⟨fuel, rfl⟩ : ∃ n, fuel = n + 1 := ⟨fuel - 1, by omega⟩
    rw [stringUnits_cons, skipString_escapeChar, ih (Nat.lt_of_succ_lt_succ h)]

theorem length_escapeChar_pos (c : Char) : 1 ≤ (escapeChar c).length := by
  rcases escapeChar_eq c with ⟨e, written, -⟩ | ⟨-, written⟩ | ⟨-, -, -, written⟩
  all_goals
    rw [written]
    exact Nat.le_add_left _ _

theorem length_le_stringUnits (text : List Char) (rest : Units) :
    text.length < (stringUnits text rest).length := by
  induction text with
  | nil => exact Nat.succ_pos _
  | cons c text ih =>
    have one := length_escapeChar_pos c
    rw [stringUnits_cons, List.length_append, unitsOf, List.length_map, List.length_cons]
    omega

/-- A string that was written is read back, up to its closing quote. -/
theorem stringToken_quoted (s : String) (rest : Units) :
    stringToken (stringUnits s.toList rest) = .ok (.ok s, rest) := by
  have fuel := Nat.lt_succ_of_lt (length_le_stringUnits s.toList rest)
  unfold stringToken
  dsimp only
  rw [readString_stringUnits fuel, skipString_stringUnits fuel]
  dsimp only
  rw [String.ofList_toList]

theorem unitsOf_quoted (s : String) (rest : Units) :
    unitsOf (quoted s) ++ rest = some '"' :: stringUnits s.toList rest := by
  simp [unitsOf, quoted, stringUnits]

/-! ## Whole numbers -/

/-- The values of the decimal digits of a number. -/
def decimals (n : Nat) : List Nat := (Nat.toDigits 10 n).map fun c => c.toNat - 48

theorem decimals_of_lt {n : Nat} (h : n < 10) : decimals n = [n] := by
  rw [decimals, Nat.toDigits_of_lt_base h, List.map_singleton,
    Nat.toNat_digitChar_sub_48_of_lt_ten h]

/-- The last digit is the remainder. -/
theorem decimals_eq {n : Nat} (h : 10 ≤ n) : decimals n = decimals (n / 10) ++ [n % 10] := by
  have last : n % 10 < 10 := Nat.mod_lt n (by decide)
  rw [decimals, decimals, ← decimals_of_lt last, decimals, ← List.map_append,
    Nat.toDigits_append_toDigits (by decide) (by omega) last, Nat.div_add_mod]

theorem foldl_decimals (n : Nat) : (decimals n).foldl (fun s d => s * 10 + d) 0 = n := by
  induction n using Nat.strongRecOn with
  | ind n ih =>
    by_cases h : n < 10
    · rw [decimals_of_lt h, List.foldl_cons, List.foldl_nil]
      omega
    · rw [decimals_eq (by omega), List.foldl_append, ih (n / 10) (by omega), List.foldl_cons,
        List.foldl_nil]
      omega

/-- No zero stands before another digit. -/
theorem decimals_ne_zero_cons (n d : Nat) (ds : List Nat) : decimals n ≠ 0 :: d :: ds := by
  induction n using Nat.strongRecOn generalizing d ds with
  | ind n ih =>
    by_cases h : n < 10
    · rw [decimals_of_lt h]
      exact nofun
    · rw [decimals_eq (by omega)]
      intro e
      cases hfront : decimals (n / 10) with
      | nil =>
        have := foldl_decimals (n / 10)
        rw [hfront, List.foldl_nil] at this
        omega
      | cons first more =>
        rw [hfront, List.cons_append, List.cons_eq_cons] at e
        cases more with
        | nil =>
          have := foldl_decimals (n / 10)
          rw [hfront, e.1, List.foldl_cons, List.foldl_nil] at this
          omega
        | cons second more =>
          refine ih (n / 10) (by omega) second more ?_
          rw [hfront, e.1]

theorem decimals_ne_nil (n : Nat) : decimals n ≠ [] := by
  by_cases h : n < 10
  · rw [decimals_of_lt h]
    exact List.cons_ne_nil _ _
  · rw [decimals_eq (by omega)]
    exact List.append_ne_nil_of_right_ne_nil _ (List.cons_ne_nil _ _)

/-- The text goes on with a comma or a closing bracket, or is at its end. -/
def Ends (rest : Units) : Prop :=
  ∀ u more, rest = u :: more → u = some ',' ∨ u = some ']' ∨ u = some '}'

theorem takeDigits_of_ends {rest : Units} (h : Ends rest) : takeDigits rest = ([], rest) := by
  cases rest with
  | nil => rfl
  | cons u more => rcases h u more rfl with rfl | rfl | rfl <;> rfl

theorem takeDigits_append {digits : List Char} (h : ∀ c ∈ digits, c.isDigit = true) {rest : Units}
    (hrest : Ends rest) :
    takeDigits (unitsOf digits ++ rest) = (digits.map fun c => c.toNat - 48, rest) := by
  induction digits with
  | nil => exact takeDigits_of_ends hrest
  | cons c digits ih =>
    obtain ⟨hc, hdigits⟩ := List.forall_mem_cons.mp h
    change takeDigits (some c :: (unitsOf digits ++ rest)) = _
    rw [takeDigits, if_pos hc, ih hdigits]
    rfl

theorem takeDigits_toDigits (n : Nat) {rest : Units} (h : Ends rest) :
    takeDigits (unitsOf (Nat.toDigits 10 n) ++ rest) = (decimals n, rest) :=
  takeDigits_append (fun _ hc => Nat.isDigit_of_mem_toDigits (by decide) (by decide) hc) h

theorem le_foldl_digits (ds : List Nat) (s : Nat) : s ≤ ds.foldl (fun s d => s * 10 + d) s := by
  induction ds generalizing s with
  | nil => exact Nat.le_refl s
  | cons d ds ih => exact Nat.le_trans (by omega) (ih (s * 10 + d))

/-- Nothing is dropped from a number within the limit. -/
theorem addDigits_eq (ds : List Nat) {s : Nat}
    (h : ds.foldl (fun s d => s * 10 + d) s ≤ significandLimit) :
    addDigits s ds = (ds.foldl (fun s d => s * 10 + d) s, ds.length, 0) := by
  induction ds generalizing s with
  | nil => rfl
  | cons d ds ih =>
    have small : s * 10 + d ≤ significandLimit := Nat.le_trans (le_foldl_digits ds _) h
    rw [addDigits, if_neg (by omega), ih h]
    rfl

theorem addDigits_decimals {n : Nat} (h : n ≤ significandLimit) :
    addDigits 0 (decimals n) = (n, (decimals n).length, 0) := by
  have fold := foldl_decimals n
  rw [addDigits_eq _ (by omega), fold]

/-- A number that ends after its digits before the point. -/
theorem readNumber_eq (negative : Bool) (n : Nat) {rest : Units} (h : Ends rest) :
    readNumber negative (unitsOf (Nat.toDigits 10 n) ++ rest)
      = (Decimal.value { negative, whole := decimals n }, rest) := by
  have fraction (d : Decimal) : readFraction d rest = (d.value, rest) := by
    cases rest with
    | nil => rfl
    | cons u more => rcases h u more rfl with rfl | rfl | rfl <;> rfl
  rw [readNumber, takeDigits_toDigits n h]
  split
  · next e => exact absurd (Prod.mk.inj e).1 (decimals_ne_nil n)
  · next e => exact absurd (Prod.mk.inj e).1 (decimals_ne_nil n)
  · next e => exact absurd (Prod.mk.inj e).1 (decimals_ne_zero_cons n _ _)
  · next e =>
    obtain ⟨rfl, rfl⟩ := Prod.mk.inj e
    exact fraction _

theorem readNumber_toDigits {n : Nat} (h : n ≤ significandLimit) {rest : Units} (hrest : Ends rest) :
    readNumber false (unitsOf (Nat.toDigits 10 n) ++ rest) = (.int n, rest) := by
  rw [readNumber_eq false n hrest, Decimal.value, addDigits_decimals h]
  rfl

theorem readNumber_negative {n : Nat} (hpos : 0 < n) (h : n ≤ 2 ^ 63) {rest : Units}
    (hrest : Ends rest) :
    readNumber true (unitsOf (Nat.toDigits 10 n) ++ rest) = (.int (-(n : Int)), rest) := by
  have limit : n ≤ significandLimit := Nat.le_trans h (by decide)
  rw [readNumber_eq true n hrest, Decimal.value, addDigits_decimals limit]
  dsimp only
  rw [if_pos rfl, if_neg (by decide), if_neg (by omega), Nat.pow_eq, if_pos h]

end Source

end Json

end Pairwise
