import Mathlib.Data.List.DropRight
import Mathlib.Tactic.Ring
import Pairwise.Codec.Base58
import Pairwise.Proofs.Outcome
/-!
# Base 58 loses nothing, and has one text for each byte string

A byte string is its zeros in front and the number of the rest; its text is as many ones and the
digits of that number. Neither the number's bytes nor its digits start with a zero, which keeps the
two parts apart.

Results:
* `value_digits`, `numberBytes_toNatBE`: digits and bytes write the number they were made of.
* `decode_encode`, `decode_eq_ok`: a byte string is read back, and from no other text.
* `lt_length_encode`, `length_encode_cons`, `length_encode_le`: how long the text is.
-/
namespace Pairwise

namespace Base58

/-! ## Digits -/

theorem digits_zero (after : List Nat) : digits 0 after = after := by
  rw [digits, dif_pos rfl]

theorem digits_of_ne {n : Nat} (h : n ≠ 0) (after : List Nat) :
    digits n after = digits (n / 58) (n % 58 :: after) := by
  rw [digits, dif_neg h]

theorem digits_append (n : Nat) (after : List Nat) : digits n after = digits n [] ++ after := by
  induction n using Nat.strongRecOn generalizing after with
  | ind n ih =>
    by_cases h : n = 0
    · rw [h, digits_zero, digits_zero, List.nil_append]
    · rw [digits_of_ne h, digits_of_ne h, ih (n / 58) (by omega), ih (n / 58) (by omega) [n % 58],
        List.append_assoc, List.singleton_append]

/-- The last digit is the remainder. -/
theorem digits_eq {n : Nat} (h : n ≠ 0) : digits n [] = digits (n / 58) [] ++ [n % 58] := by
  rw [digits_of_ne h, digits_append]

theorem value_concat (ds : List Nat) (d : Nat) : value (ds ++ [d]) = value ds * 58 + d := by
  simp [value]

theorem value_digits (n : Nat) : value (digits n []) = n := by
  induction n using Nat.strongRecOn with
  | ind n ih =>
    by_cases h : n = 0
    · rw [h, digits_zero]
      rfl
    · rw [digits_eq h, value_concat, ih (n / 58) (by omega)]
      omega

theorem digits_lt (n : Nat) : ∀ d ∈ digits n [], d < 58 := by
  induction n using Nat.strongRecOn with
  | ind n ih =>
    by_cases h : n = 0
    · rw [h, digits_zero]
      exact fun d hd => absurd hd List.not_mem_nil
    · rw [digits_eq h]
      intro d hd
      rcases List.mem_append.mp hd with hd | hd
      · exact ih (n / 58) (by omega) d hd
      · rw [List.mem_singleton.mp hd]
        exact Nat.mod_lt n (by decide)

theorem digits_ne_nil {n : Nat} (h : n ≠ 0) : digits n [] ≠ [] := by
  rw [digits_eq h]
  exact List.append_ne_nil_of_right_ne_nil _ (List.cons_ne_nil _ _)

/-- The first digit is no zero. -/
theorem head?_digits (n : Nat) : (digits n []).head? ≠ some 0 := by
  induction n using Nat.strongRecOn with
  | ind n ih =>
    by_cases h : n = 0
    · rw [h, digits_zero]
      exact nofun
    · rw [digits_eq h]
      by_cases h' : n / 58 = 0
      · rw [h', digits_zero, List.nil_append, List.head?_cons]
        intro e
        have : n % 58 = 0 := Option.some.inj e
        omega
      · rw [List.head?_append_of_ne_nil _ (digits_ne_nil h')]
        exact ih (n / 58) (by omega)

theorem digits_length_le {n k : Nat} (high : n < 58 ^ k) : (digits n []).length ≤ k := by
  induction k generalizing n with
  | zero =>
    rw [show n = 0 by omega, digits_zero]
    exact Nat.le_refl 0
  | succ k ih =>
    by_cases h : n = 0
    · rw [h, digits_zero]
      exact Nat.zero_le _
    · have high' : n / 58 < 58 ^ k := by
        rw [Nat.div_lt_iff_lt_mul (by decide), ← Nat.pow_succ]
        exact high
      rw [digits_eq h, List.length_append, List.length_singleton]
      exact Nat.succ_le_succ (ih high')

theorem le_digits_length {n k : Nat} (low : 58 ^ k ≤ n) : k < (digits n []).length := by
  induction k generalizing n with
  | zero =>
    exact List.length_pos_of_ne_nil (digits_ne_nil (by omega))
  | succ k ih =>
    have pos : 0 < 58 ^ (k + 1) := Nat.pow_pos (by decide)
    have low' : 58 ^ k ≤ n / 58 := by
      rw [Nat.le_div_iff_mul_le (by decide), ← Nat.pow_succ]
      exact low
    rw [digits_eq (by omega), List.length_append, List.length_singleton]
    exact Nat.succ_lt_succ (ih low')

/-- Digits that do not start with a zero are those of their number. -/
theorem digits_value {ds : List Nat} (small : ∀ d ∈ ds, d < 58) (h : ds.head? ≠ some 0) :
    digits (value ds) [] = ds := by
  induction ds using List.reverseRecOn with
  | nil => exact digits_zero []
  | append_singleton ds d ih =>
    have last : d < 58 := small d (List.mem_append_right _ List.mem_cons_self)
    have front : ∀ d ∈ ds, d < 58 := fun d hd => small d (List.mem_append_left _ hd)
    have split : digits (value ds) [] = ds ∧ value ds * 58 + d ≠ 0 := by
      by_cases hds : ds = []
      · subst hds
        refine ⟨digits_zero [], fun e => h ?_⟩
        rw [(Nat.add_eq_zero_iff.mp e).2]
        rfl
      · rw [List.head?_append_of_ne_nil _ hds] at h
        refine ⟨ih front h, fun e => hds ?_⟩
        rw [← ih front h, show value ds = 0 by omega, digits_zero]
    rw [value_concat, digits_eq split.2]
    rw [show (value ds * 58 + d) / 58 = value ds by omega,
      show (value ds * 58 + d) % 58 = d by omega, split.1]

/-- Zeros in front do not count. -/
theorem value_dropWhile (ds : List Nat) : value (ds.dropWhile (· == 0)) = value ds := by
  induction ds with
  | nil => rfl
  | cons d ds ih =>
    rw [List.dropWhile_cons]
    split
    · next h =>
      rw [ih, eq_of_beq h]
      rfl
    · rfl

/-! ## Characters -/

theorem digitValue?_digitChar {d : Nat} (h : d < 58) :
    digitValue? (digitChar d) = some d ∧ (digitChar d).toNat < 128 ∧
      alphabet.contains (digitChar d) = true := by
  have all : ∀ d : Fin 58, digitValue? (digitChar d) = some d.val ∧ (digitChar d).toNat < 128 ∧
      alphabet.contains (digitChar d) = true := by decide +kernel
  exact all ⟨d, h⟩

theorem readDigits_digitChars {ds : List Nat} (h : ∀ d ∈ ds, d < 58) (index : Nat) :
    readDigits index (ds.map digitChar) = .ok ds := by
  induction ds generalizing index with
  | nil => rfl
  | cons d ds ih =>
    obtain ⟨value, ascii, -⟩ := digitValue?_digitChar (h d List.mem_cons_self)
    rw [List.map_cons, readDigits, if_neg (by omega), value]
    dsimp only
    rw [ih fun d' hd' => h d' (List.mem_cons_of_mem d hd')]
    rfl

theorem digitChar_of_digitValue? {c : Char} {d : Nat} (h : digitValue? c = some d) :
    d < 58 ∧ c = digitChar d := by
  obtain ⟨lt, found, -⟩ := List.findIdx?_eq_some_iff_getElem.mp h
  refine ⟨lt, ?_⟩
  rw [digitChar, List.getD_eq_getElem?_getD, List.getElem?_eq_getElem lt, Option.getD_some]
  exact (eq_of_beq found).symm

theorem readDigits_eq_ok {index : Nat} {text : List Char} {ds : List Nat}
    (h : readDigits index text = .ok ds) : (∀ d ∈ ds, d < 58) ∧ text = ds.map digitChar := by
  induction text generalizing index ds with
  | nil =>
    cases h
    exact ⟨nofun, rfl⟩
  | cons c text ih =>
    rw [readDigits] at h
    split at h
    · cases h
    · split at h
      · cases h
      · next d hd =>
        obtain ⟨small, char⟩ := digitChar_of_digitValue? hd
        obtain ⟨rest, more, made⟩ := Outcome.bind_eq_ok.mp h
        cases made
        obtain ⟨others, chars⟩ := ih more
        exact ⟨List.forall_mem_cons.mpr ⟨small, others⟩, by rw [List.map_cons, ← char, ← chars]⟩

/-! ## Bytes -/

theorem numberBytes_zero (after : Bytes) : numberBytes 0 after = after := by
  rw [numberBytes, dif_pos rfl]

theorem numberBytes_of_ne {n : Nat} (h : n ≠ 0) (after : Bytes) :
    numberBytes n after = numberBytes (n / 256) (UInt8.ofNat (n % 256) :: after) := by
  rw [numberBytes, dif_neg h]

theorem numberBytes_append (n : Nat) (after : Bytes) :
    numberBytes n after = numberBytes n [] ++ after := by
  induction n using Nat.strongRecOn generalizing after with
  | ind n ih =>
    by_cases h : n = 0
    · rw [h, numberBytes_zero, numberBytes_zero, List.nil_append]
    · rw [numberBytes_of_ne h, numberBytes_of_ne h, ih (n / 256) (by omega),
        ih (n / 256) (by omega) [UInt8.ofNat (n % 256)], List.append_assoc, List.singleton_append]

theorem toNatBE_concat (bytes : Bytes) (b : UInt8) :
    Bytes.toNatBE (bytes ++ [b]) = Bytes.toNatBE bytes * 256 + b.toNat := by
  simp [Bytes.toNatBE]

theorem toNatBE_cons (b : UInt8) (bytes : Bytes) :
    Bytes.toNatBE (b :: bytes) = b.toNat * 256 ^ bytes.length + Bytes.toNatBE bytes := by
  have first : Bytes.toNatBE [b] = b.toNat := Nat.zero_add b.toNat
  rw [← List.singleton_append, Bytes.toNatBE_append, first, Nat.pow_eq]

theorem toNatBE_lt (bytes : Bytes) : Bytes.toNatBE bytes < 256 ^ bytes.length := by
  induction bytes using List.reverseRecOn with
  | nil => exact Nat.one_pos
  | append_singleton bytes b ih =>
    have small : b.toNat < 256 := b.toNat_lt
    rw [toNatBE_concat, List.length_append, List.length_singleton, Nat.pow_succ]
    omega

/-- A byte string that does not start with a zero is that of its number. -/
theorem numberBytes_toNatBE {bytes : Bytes} (h : bytes.head? ≠ some 0) :
    numberBytes (Bytes.toNatBE bytes) [] = bytes := by
  induction bytes using List.reverseRecOn with
  | nil => exact numberBytes_zero []
  | append_singleton bytes b ih =>
    have small : b.toNat < 256 := b.toNat_lt
    have split : numberBytes (Bytes.toNatBE bytes) [] = bytes ∧
        Bytes.toNatBE bytes * 256 + b.toNat ≠ 0 := by
      by_cases hb : bytes = []
      · subst hb
        refine ⟨numberBytes_zero [], fun e => h ?_⟩
        have zero : b.toNat = 0 := (Nat.add_eq_zero_iff.mp e).2
        rw [UInt8.toNat_inj.mp (zero.trans rfl : b.toNat = (0 : UInt8).toNat)]
        rfl
      · rw [List.head?_append_of_ne_nil _ hb] at h
        refine ⟨ih h, fun e => hb ?_⟩
        rw [← ih h, show Bytes.toNatBE bytes = 0 by omega, numberBytes_zero]
    rw [toNatBE_concat, numberBytes_of_ne split.2, numberBytes_append]
    rw [show (Bytes.toNatBE bytes * 256 + b.toNat) / 256 = Bytes.toNatBE bytes by omega,
      show (Bytes.toNatBE bytes * 256 + b.toNat) % 256 = b.toNat by omega, split.1,
      UInt8.ofNat_toNat]

theorem numberBytes_eq {n : Nat} (h : n ≠ 0) :
    numberBytes n [] = numberBytes (n / 256) [] ++ [UInt8.ofNat (n % 256)] := by
  rw [numberBytes_of_ne h, numberBytes_append]

theorem toNatBE_numberBytes (n : Nat) : Bytes.toNatBE (numberBytes n []) = n := by
  induction n using Nat.strongRecOn with
  | ind n ih =>
    by_cases h : n = 0
    · rw [h, numberBytes_zero]
      rfl
    · have byte : (UInt8.ofNat (n % 256)).toNat = n % 256 := by simp
      rw [numberBytes_eq h, toNatBE_concat, ih (n / 256) (by omega), byte]
      omega

/-- Zeros in front do not count. -/
theorem toNatBE_dropWhile (bytes : Bytes) :
    Bytes.toNatBE (bytes.dropWhile (· == 0)) = Bytes.toNatBE bytes := by
  induction bytes with
  | nil => rfl
  | cons b bytes ih =>
    rw [List.dropWhile_cons]
    split
    · next h =>
      rw [ih, eq_of_beq h]
      rfl
    · rfl

/-! ## The whole text -/

section Zeros

variable {α : Type} [BEq α] [LawfulBEq α] (a : α)

theorem takeWhile_beq (l : List α) :
    l.takeWhile (· == a) = List.replicate (l.takeWhile (· == a)).length a := by
  refine List.eq_replicate_iff.mpr ⟨rfl, fun x hx => ?_⟩
  exact eq_of_beq (List.mem_takeWhile_imp (p := (· == a)) hx)

theorem head?_dropWhile_beq (l : List α) : (l.dropWhile (· == a)).head? ≠ some a := by
  intro e
  have := List.head?_dropWhile_not (· == a) l
  rw [e] at this
  simp at this

theorem takeWhile_replicate_append (n : Nat) {l : List α} (h : l.head? ≠ some a) :
    (List.replicate n a ++ l).takeWhile (· == a) = List.replicate n a := by
  have stop : l.takeWhile (· == a) = [] := by
    cases l with
    | nil => rfl
    | cons x l => exact List.takeWhile_cons_of_neg fun e => h (congrArg some (eq_of_beq e))
  rw [List.takeWhile_append_of_pos fun x hx => by rw [List.eq_of_mem_replicate hx]; exact BEq.rfl,
    stop, List.append_nil]

end Zeros

/-- The first byte of a number is no zero. -/
theorem head?_numberBytes (n : Nat) : (numberBytes n []).head? ≠ some 0 := by
  have drop := numberBytes_toNatBE (head?_dropWhile_beq 0 (numberBytes n []))
  rw [toNatBE_dropWhile, toNatBE_numberBytes] at drop
  rw [drop]
  exact head?_dropWhile_beq 0 _

/-- The text of a byte string, digit by digit. -/
theorem toList_encode (bytes : Bytes) :
    (encode bytes).toList = (List.replicate (bytes.takeWhile (· == 0)).length 0
      ++ digits (Bytes.toNatBE bytes) []).map digitChar := by
  rw [encode, String.toList_ofList, List.map_append, List.map_const', List.map_replicate]
  rfl

theorem encodeDigits_lt (zeros n : Nat) : ∀ d ∈ List.replicate zeros 0 ++ digits n [], d < 58 := by
  intro d hd
  rcases List.mem_append.mp hd with hd | hd
  · rw [List.eq_of_mem_replicate hd]
    decide
  · exact digits_lt n d hd

theorem decode_encode (bytes : Bytes) : decode (encode bytes) = .ok bytes := by
  have rest : numberBytes (Bytes.toNatBE bytes) [] = bytes.dropWhile (· == 0) := by
    rw [← toNatBE_dropWhile, numberBytes_toNatBE (head?_dropWhile_beq 0 bytes)]
  have number (zeros : Nat) : value (List.replicate zeros 0 ++ digits (Bytes.toNatBE bytes) [])
      = Bytes.toNatBE bytes := by
    induction zeros with
    | zero => exact value_digits _
    | succ zeros ih => exact ih
  unfold decode
  rw [toList_encode, readDigits_digitChars (encodeDigits_lt _ _)]
  change Except.ok _ = _
  rw [takeWhile_replicate_append 0 _ (head?_digits _), number, rest, List.map_replicate,
    ← takeWhile_beq, List.takeWhile_append_dropWhile]

/-- The text of some zeros and a number is as many ones and the number's digits. -/
theorem toList_encode_numberBytes (zeros n : Nat) :
    (encode (List.replicate zeros 0 ++ numberBytes n [])).toList
      = (List.replicate zeros 0 ++ digits n []).map digitChar := by
  have front := takeWhile_replicate_append (0 : UInt8) zeros (head?_numberBytes n)
  have rest := List.takeWhile_append_dropWhile (p := (· == (0 : UInt8)))
    (l := List.replicate zeros 0 ++ numberBytes n [])
  rw [front] at rest
  rw [toList_encode, front, List.length_replicate, ← toNatBE_dropWhile,
    List.append_cancel_left rest, toNatBE_numberBytes]

/-- Only the text of a byte string is read as one. -/
theorem decode_eq_ok {text : String} {bytes : Bytes} :
    decode text = .ok bytes ↔ text = encode bytes := by
  refine ⟨fun h => ?_, fun h => h ▸ decode_encode bytes⟩
  obtain ⟨ds, read, made⟩ := Outcome.bind_eq_ok.mp h
  obtain ⟨small, chars⟩ := readDigits_eq_ok read
  have zeros := takeWhile_beq 0 ds
  have number : digits (value ds) [] = ds.dropWhile (· == 0) := by
    rw [← value_dropWhile, digits_value _ (head?_dropWhile_beq 0 ds)]
    exact fun d hd => small d ((List.dropWhile_sublist _).mem hd)
  rw [← Except.ok.inj made, List.map_const', ← String.toList_inj, chars, toList_encode_numberBytes,
    ← zeros, number, List.takeWhile_append_dropWhile]

/-- All characters are digits of base 58. -/
theorem all_encode (bytes : Bytes) : (encode bytes).toList.all alphabet.contains = true := by
  rw [toList_encode, List.all_map, List.all_eq_true]
  intro d hd
  exact (digitValue?_digitChar (encodeDigits_lt _ _ d hd)).2.2

theorem encode_inj {a b : Bytes} (h : encode a = encode b) : a = b := by
  have decoded : decode (encode a) = decode (encode b) := congrArg decode h
  rw [decode_encode, decode_encode] at decoded
  exact Except.ok.inj decoded

/-! ## The length of the text -/

/-- The text of a byte string that does not start with a zero is as long as its number has
digits. -/
theorem length_encode {b : UInt8} (h : b ≠ 0) (bytes : Bytes) :
    (encode (b :: bytes)).toList.length = (digits (Bytes.toNatBE (b :: bytes)) []).length := by
  have stop : (b :: bytes).takeWhile (· == 0) = [] :=
    List.takeWhile_cons_of_neg fun e => h (eq_of_beq e)
  rw [toList_encode, List.length_map, stop]
  rfl

section FirstByte

variable {b : UInt8} {bytes : Bytes} {k : Nat}

theorem head_ne_zero (low : 58 ^ k ≤ b.toNat * 256 ^ bytes.length) : b ≠ 0 := by
  rintro rfl
  rw [show (0 : UInt8).toNat = 0 from rfl, Nat.zero_mul] at low
  exact absurd (Nat.pow_pos (by decide)) (Nat.not_lt.mpr low)

/-- The first byte gives a least length of the text. -/
theorem lt_length_encode (low : 58 ^ k ≤ b.toNat * 256 ^ bytes.length) :
    k < (encode (b :: bytes)).toList.length := by
  rw [length_encode (head_ne_zero low), toNatBE_cons]
  exact le_digits_length (Nat.le_trans low (Nat.le_add_right _ _))

/-- The first byte gives the length of the text where the following ones cannot change it. -/
theorem length_encode_cons (low : 58 ^ k ≤ b.toNat * 256 ^ bytes.length)
    (high : (b.toNat + 1) * 256 ^ bytes.length ≤ 58 ^ (k + 1)) :
    (encode (b :: bytes)).toList.length = k + 1 := by
  have more := lt_length_encode low
  have number : Bytes.toNatBE (b :: bytes) < 58 ^ (k + 1) := by
    have := toNatBE_lt bytes
    rw [Nat.add_one_mul] at high
    rw [toNatBE_cons]
    omega
  have most := digits_length_le number
  rw [← length_encode (head_ne_zero low)] at most
  omega

end FirstByte

/-- A byte takes two characters at most. -/
theorem length_encode_le (bytes : Bytes) : (encode bytes).toList.length ≤ 2 * bytes.length := by
  have parts := congrArg List.length (List.takeWhile_append_dropWhile (p := (· == 0)) (l := bytes))
  have number : Bytes.toNatBE bytes < 58 ^ (2 * (bytes.dropWhile (· == 0)).length) := by
    rw [← toNatBE_dropWhile, Nat.pow_mul]
    exact Nat.lt_of_lt_of_le (toNatBE_lt _) (Nat.pow_le_pow_left (by decide) _)
  have digits := digits_length_le number
  rw [List.length_append] at parts
  rw [toList_encode, List.length_map, List.length_append, List.length_replicate]
  omega

end Base58

end Pairwise
