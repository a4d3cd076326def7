import Pairwise.Codec.Base64Url
import Pairwise.Proofs.Outcome
import Pairwise.Proofs.Utf8
/-!
# Base 64 loses nothing

Results:
* `encodeChars_eq`: a byte string is written symbol by symbol, six bits each.
* `decode_encode`: it is read back.
-/
namespace Pairwise

namespace Base64Url

/-- The values of six bits that write a byte string. -/
def sextets : Bytes → List Nat
  | [] => []
  | [a] => [a.toNat / 4, a.toNat % 4 * 16]
  | [a, b] => [a.toNat / 4, a.toNat % 4 * 16 + b.toNat / 16, b.toNat % 16 * 4]
  | a :: b :: c :: rest =>
    a.toNat / 4 :: (a.toNat % 4 * 16 + b.toNat / 16) :: (b.toNat % 16 * 4 + c.toNat / 64)
      :: c.toNat % 64 :: sextets rest

theorem encodeChars_eq (bytes : Bytes) : encodeChars bytes = (sextets bytes).map symbol := by
  fun_induction encodeChars bytes with
  | case1 => rfl
  | case2 a =>
    refine List.cons_eq_cons.mpr ⟨congrArg symbol (by omega), ?_⟩
    exact List.cons_eq_cons.mpr ⟨congrArg symbol (by omega), rfl⟩
  | case3 a b =>
    have := b.toNat_lt
    refine List.cons_eq_cons.mpr ⟨congrArg symbol (by omega), ?_⟩
    refine List.cons_eq_cons.mpr ⟨congrArg symbol (by omega), ?_⟩
    exact List.cons_eq_cons.mpr ⟨congrArg symbol (by omega), rfl⟩
  | case4 a b c rest _ ih =>
    have := b.toNat_lt
    have := c.toNat_lt
    refine List.cons_eq_cons.mpr ⟨congrArg symbol (by omega), ?_⟩
    refine List.cons_eq_cons.mpr ⟨congrArg symbol (by omega), ?_⟩
    refine List.cons_eq_cons.mpr ⟨congrArg symbol (by omega), ?_⟩
    exact List.cons_eq_cons.mpr ⟨congrArg symbol (by omega), ih⟩

theorem sextets_lt (bytes : Bytes) : ∀ v ∈ sextets bytes, v < 64 := by
  fun_induction sextets bytes with
  | case1 => simp
  | case2 a =>
    have := a.toNat_lt
    simp only [List.forall_mem_cons, List.not_mem_nil, false_implies, implies_true, and_true]
    omega
  | case3 a b =>
    have := a.toNat_lt
    have := b.toNat_lt
    simp only [List.forall_mem_cons, List.not_mem_nil, false_implies, implies_true, and_true]
    omega
  | case4 a b c rest ih =>
    have := a.toNat_lt
    have := b.toNat_lt
    have := c.toNat_lt
    simp only [List.forall_mem_cons]
    refine ⟨by omega, by omega, by omega, by omega, ih⟩

/-- One symbol never stands alone in a group. -/
theorem length_sextets (bytes : Bytes) : (sextets bytes).length % 4 ≠ 1 := by
  fun_induction sextets bytes with
  | case1 => decide
  | case2 a => exact (by decide : 2 % 4 ≠ 1)
  | case3 a b => exact (by decide : 3 % 4 ≠ 1)
  | case4 a b c rest ih =>
    simp only [List.length_cons]
    omega

theorem packValues_sextets (bytes : Bytes) : packValues (sextets bytes) = (bytes, false) := by
  fun_induction sextets bytes with
  | case1 => rfl
  | case2 a =>
    have := a.toNat_lt
    simp only [packValues]
    rw [show (a.toNat / 4 * 64 + a.toNat % 4 * 16) / 16 = a.toNat by omega, UInt8.ofNat_toNat,
      show (a.toNat / 4 * 64 + a.toNat % 4 * 16) % 16 = 0 by omega]
    rfl
  | case3 a b =>
    have := a.toNat_lt
    have := b.toNat_lt
    simp only [packValues]
    rw [show ((a.toNat / 4 * 64 + (a.toNat % 4 * 16 + b.toNat / 16)) * 64 + b.toNat % 16 * 4) / 1024
        = a.toNat by omega,
      show ((a.toNat / 4 * 64 + (a.toNat % 4 * 16 + b.toNat / 16)) * 64 + b.toNat % 16 * 4) / 4 % 256
        = b.toNat by omega,
      show ((a.toNat / 4 * 64 + (a.toNat % 4 * 16 + b.toNat / 16)) * 64 + b.toNat % 16 * 4) % 4 = 0
        by omega, UInt8.ofNat_toNat, UInt8.ofNat_toNat]
    rfl
  | case4 a b c rest ih =>
    have := a.toNat_lt
    have := b.toNat_lt
    have := c.toNat_lt
    simp only [packValues, ih]
    rw [show (((a.toNat / 4 * 64 + (a.toNat % 4 * 16 + b.toNat / 16)) * 64
          + (b.toNat % 16 * 4 + c.toNat / 64)) * 64 + c.toNat % 64)
        = (a.toNat * 256 + b.toNat) * 256 + c.toNat by omega]
    rw [show ((a.toNat * 256 + b.toNat) * 256 + c.toNat) / 65536 = a.toNat by omega,
      show ((a.toNat * 256 + b.toNat) * 256 + c.toNat) / 256 % 256 = b.toNat by omega,
      show ((a.toNat * 256 + b.toNat) * 256 + c.toNat) % 256 = c.toNat by omega,
      UInt8.ofNat_toNat, UInt8.ofNat_toNat, UInt8.ofNat_toNat]

/-! ## Symbols -/

/-- The byte of a symbol. -/
def symbolByte (v : Nat) : UInt8 := UInt8.ofNat (symbol v).toNat

theorem symbol_spec {v : Nat} (h : v < 64) :
    Utf8.encodeChar (symbol v) = [symbolByte v] ∧ symbolValue? (symbolByte v) = some v ∧
      symbolByte v ≠ pad := by
  have all : ∀ v : Fin 64, Utf8.encodeChar (symbol v) = [symbolByte v] ∧
      symbolValue? (symbolByte v) = some v.val ∧ symbolByte v ≠ pad := by decide +kernel
  exact all ⟨v, h⟩

section Values

variable {vs : List Nat}

theorem encode_symbols (h : ∀ v ∈ vs, v < 64) :
    Utf8.encode (vs.map symbol) = vs.map symbolByte := by
  induction vs with
  | nil => rfl
  | cons v vs ih =>
    obtain ⟨hv, hvs⟩ := List.forall_mem_cons.mp h
    change Utf8.encodeChar (symbol v) ++ Utf8.encode (vs.map symbol) = _
    rw [(symbol_spec hv).1, ih hvs]
    rfl

theorem plainValues_symbols (h : ∀ v ∈ vs, v < 64) (index : Nat) :
    plainValues index (vs.map symbolByte) = .ok vs := by
  induction vs generalizing index with
  | nil => rfl
  | cons v vs ih =>
    obtain ⟨hv, hvs⟩ := List.forall_mem_cons.mp h
    rw [List.map_cons, plainValues, (symbol_spec hv).2.1]
    dsimp only
    rw [ih hvs]
    rfl

theorem lastValues_symbols (h : ∀ v ∈ vs, v < 64) (start i : Nat) :
    lastValues start i none (vs.map symbolByte) = .ok vs := by
  induction vs generalizing i with
  | nil => rfl
  | cons v vs ih =>
    obtain ⟨hv, hvs⟩ := List.forall_mem_cons.mp h
    rw [List.map_cons, lastValues, if_neg (symbol_spec hv).2.2, (symbol_spec hv).2.1]
    dsimp only
    rw [ih hvs]
    rfl

end Values

theorem decode_encode (bytes : Bytes) : decode (encode bytes) = .ok bytes := by
  have lt := sextets_lt bytes
  have text : Utf8.ofString (encode bytes) = (sextets bytes).map symbolByte := by
    rw [Utf8.ofString, encode, String.toList_ofList, encodeChars_eq, encode_symbols lt]
  unfold decode decodeBytes
  rw [text, List.length_map, if_neg (length_sextets bytes)]
  dsimp only
  rw [← List.map_take, ← List.map_drop,
    plainValues_symbols fun v hv => lt v (List.mem_of_mem_take hv),
    lastValues_symbols fun v hv => lt v (List.mem_of_mem_drop hv)]
  simp only [Outcome.ok_bind, List.take_append_drop, packValues_sextets]
  rfl

end Base64Url

end Pairwise
