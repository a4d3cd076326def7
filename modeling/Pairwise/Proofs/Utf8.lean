import Pairwise.Text.Utf8
/-!
# Text that was written is read

Results:
* `units_encode`: the bytes of a text are read as its characters, one unit each.
* `encode_inj`, `ofString_inj`: different texts have different bytes.
-/
namespace Pairwise

namespace Utf8

theorem toNat_ofNat {n : Nat} (h : n < 256) : (UInt8.ofNat n).toNat = n := by
  rw [UInt8.toNat_ofNat']
  exact Nat.mod_eq_of_lt h

/-- A continuation byte carries six bits. -/
theorem isTail_tail {n : Nat} (h : n < 64) : isTail (UInt8.ofNat (0x80 + n)) = true := by
  simp only [isTail, toNat_ofNat (show 0x80 + n < 256 by omega)]
  simp only [Bool.and_eq_true, decide_eq_true_eq]
  omega

theorem tailBits_tail {n : Nat} (h : n < 64) : tailBits (UInt8.ofNat (0x80 + n)) = n := by
  have value : (UInt8.ofNat (0x80 + n)).toNat = 0x80 + n := toNat_ofNat (by omega)
  unfold tailBits
  omega

/-- A character is no half of a surrogate pair, and within the range of code points. -/
theorem valid_toNat (c : Char) : (c.toNat < 0xD800 ∨ 0xE000 ≤ c.toNat) ∧ c.toNat < 0x110000 := by
  have valid := c.valid
  simp only [UInt32.isValidChar, Nat.isValidChar] at valid
  change (c.val.toNat < _ ∨ _ ≤ c.val.toNat) ∧ c.val.toNat < _
  omega

/-- The character at the front is read, with all of its bytes. -/
theorem decodeChar?_encodeChar (c : Char) (rest : Bytes) :
    decodeChar? (encodeChar c ++ rest) = some (c, (encodeChar c).length) := by
  obtain ⟨half, limit⟩ := valid_toNat c
  have same : Char.ofNat c.toNat = c := Char.ofNat_toNat c
  unfold encodeChar
  dsimp only
  split
  · next h =>
    simp only [List.cons_append, List.nil_append, decodeChar?]
    rw [toNat_ofNat (by omega), if_pos h, same]
    rfl
  · split
    · next h1 h2 =>
      simp only [List.cons_append, List.nil_append, decodeChar?]
      rw [toNat_ofNat (by omega), isTail_tail (by omega), tailBits_tail (by omega)]
      rw [if_neg (by omega), if_neg (by decide), if_pos (by simp; omega)]
      rw [show (0xC0 + c.toNat / 64 - 0xC0) * 64 + c.toNat % 64 = c.toNat by omega, same]
      rfl
    · split
      · next h1 h2 h3 =>
        simp only [List.cons_append, List.nil_append, decodeChar?]
        rw [toNat_ofNat (by omega), isTail_tail (by omega), isTail_tail (by omega),
          tailBits_tail (by omega), tailBits_tail (by omega)]
        rw [if_neg (by omega), if_neg (by decide), if_neg (by simp), if_neg (by decide)]
        rw [show ((0xE0 + c.toNat / 4096 - 0xE0) * 64 + c.toNat / 64 % 64) * 64 + c.toNat % 64
          = c.toNat by omega]
        rw [if_pos (by simp; omega), if_pos (by simp; omega), same]
        rfl
      · next h1 h2 h3 =>
        simp only [List.cons_append, List.nil_append, decodeChar?]
        rw [toNat_ofNat (by omega), isTail_tail (by omega), isTail_tail (by omega),
          isTail_tail (by omega), tailBits_tail (by omega), tailBits_tail (by omega),
          tailBits_tail (by omega)]
        rw [if_neg (by omega), if_neg (by decide), if_neg (by simp; omega), if_neg (by decide),
          if_neg (by simp)]
        rw [show (((0xF0 + c.toNat / 262144 - 0xF0) * 64 + c.toNat / 4096 % 64) * 64
          + c.toNat / 64 % 64) * 64 + c.toNat % 64 = c.toNat by omega]
        rw [if_pos (by simp; omega), same]
        rfl

/-- The bytes of a character after its first are passed over. -/
theorem unitsFrom_append (passed rest : Bytes) :
    unitsFrom passed.length (passed ++ rest) = unitsFrom 0 rest := by
  induction passed with
  | nil => rfl
  | cons b passed ih => exact ih

theorem encodeChar_ne_nil (c : Char) : encodeChar c ≠ [] := by
  unfold encodeChar
  dsimp only
  split
  · exact List.cons_ne_nil _ _
  · split
    · exact List.cons_ne_nil _ _
    · split <;> exact List.cons_ne_nil _ _

theorem units_encodeChar (c : Char) (rest : Bytes) :
    units (encodeChar c ++ rest) = some c :: units rest := by
  have read := decodeChar?_encodeChar c rest
  unfold units
  cases h : encodeChar c with
  | nil => exact absurd h (encodeChar_ne_nil c)
  | cons b passed =>
    rw [h, List.cons_append] at read
    rw [List.cons_append, unitsFrom, read]
    exact congrArg _ (unitsFrom_append passed rest)

theorem units_encode (text : List Char) : units (encode text) = text.map some := by
  induction text with
  | nil => rfl
  | cons c text ih =>
    change units (encodeChar c ++ encode text) = _
    rw [units_encodeChar, ih]
    rfl

theorem encode_inj {s t : List Char} (h : encode s = encode t) : s = t := by
  have units : s.map some = t.map some := by rw [← units_encode, h, units_encode]
  exact (List.map_inj_right fun _ _ e => Option.some.inj e).mp units

theorem ofString_inj {s t : String} (h : ofString s = ofString t) : s = t :=
  String.toList_inj.mp (encode_inj h)

end Utf8

end Pairwise
