import Pairwise.Proofs.Keys
/-!
# What is read as a number, a hash and a key

The readers of numbers are more lenient than the writers: ten bytes hold seventy bits, of which the
highest six are dropped, so a number may be written in several ways. Base 58 has one text for each
byte string, so it is the numbers in front alone that tell a hash or a key that is read from the one
that is written.

Results:
* `Varint.decode_eq_ok`: what is read as a number is one of its spellings, with anything behind it.
* `Multihash.decode_eq_ok`: what is read as a hash spells the code of its function and its length.
* `Key.ofFingerprint_eq_ok`: what is read as a key spells the code of its kind.
-/
namespace Pairwise

namespace Varint

/-- The bytes of a number, or of a longer one whose lowest 64 bits it is. -/
def Spells (bytes : Bytes) (n : Nat) : Prop :=
  ∃ m < 2 ^ 70, m % UInt64.size = n ∧ bytes = encode m

theorem spells_encode {n : Nat} (h : n < UInt64.size) : Spells (encode n) n := by
  have size : UInt64.size = 2 ^ 64 := rfl
  exact ⟨n, by omega, Nat.mod_eq_of_lt h, rfl⟩

theorem encode_byte {b : UInt8} (last : b.toNat < 128) : encode b.toNat = [b] := by
  rw [encode_of_lt last, UInt8.ofNat_toNat]

/-- A byte with the high bit set is the lowest of a longer number. -/
theorem encode_more {b : UInt8} (more : 128 ≤ b.toNat) {m : Nat} (h : m ≠ 0) :
    encode (b.toNat % 128 + 128 * m) = b :: encode m := by
  have byte : b.toNat < 256 := b.toNat_lt
  have lowest : (b.toNat % 128 + 128 * m) % 128 + 128 = b.toNat := by omega
  have others : (b.toNat % 128 + 128 * m) / 128 = m := by omega
  rw [encode_of_le (by omega), lowest, UInt8.ofNat_toNat, others]

/-- What is read from a position on is written by the number that stands there. -/
theorem decodeFrom_eq_ok {index sum n : Nat} {bytes rest : Bytes} (hindex : index ≤ 9)
    (hsum : sum < 2 ^ (7 * index)) (h : decodeFrom index sum bytes = .ok (n, rest)) :
    ∃ m < 2 ^ (70 - 7 * index), (index = 0 ∨ m ≠ 0) ∧
      n = (sum + m * 2 ^ (7 * index)) % UInt64.size ∧ bytes = encode m ++ rest := by
  induction bytes generalizing index sum with
  | nil => cases h
  | cons b bytes ih =>
    have room : 2 ^ (7 * (index + 1)) = 2 ^ (7 * index) * 128 := by rw [Nat.mul_add, Nat.pow_add]
    rw [decodeFrom, Nat.pow_eq] at h
    split at h
    · -- the last byte
      next small =>
      split at h
      · cases h
      next minimal =>
      cases h
      refine ⟨b.toNat, ?_, ?_, ?_, ?_⟩
      · have : 2 ^ 7 ≤ 2 ^ (70 - 7 * index) := Nat.pow_le_pow_right (by decide) (by omega)
        omega
      · by_cases first : index = 0
        · exact .inl first
        · refine .inr fun zero => minimal ⟨UInt8.toNat_inj.mp (zero.trans rfl), by omega⟩
      · rw [Nat.mod_eq_of_lt small]
      · rw [encode_byte small]
        rfl
    · next more =>
      split at h
      · cases h
      next early =>
      have size : 2 ^ (7 * (index + 1)) ≤ 2 ^ 64 := Nat.pow_le_pow_right (by decide) (by omega)
      rw [show 2 ^ 64 = UInt64.size from rfl] at size
      have low : b.toNat % 128 * 2 ^ (7 * index) ≤ 127 * 2 ^ (7 * index) :=
        Nat.mul_le_mul_right _ (by omega)
      rw [Nat.mod_eq_of_lt (by omega)] at h
      obtain ⟨m, hm, nonzero, value, written⟩ := ih (by omega) (by omega) h
      have m_pos : m ≠ 0 := nonzero.resolve_left (Nat.succ_ne_zero index)
      have limit : 2 ^ (70 - 7 * index) = 2 ^ (70 - 7 * (index + 1)) * 128 := by
        rw [show 128 = 2 ^ 7 from rfl, ← Nat.pow_add]
        congr 1
        omega
      refine ⟨b.toNat % 128 + 128 * m, by omega, .inr (by omega), ?_, ?_⟩
      · rw [value, room]
        ring_nf
      · rw [encode_more (by omega) m_pos, written]
        rfl

theorem Spells.decode {front : Bytes} {n : Nat} (h : Spells front n) (rest : Bytes) :
    decode (front ++ rest) = .ok (n, rest) := by
  obtain ⟨m, hm, rfl, rfl⟩ := h
  exact decode_encode_mod hm rest

/-- What is read as a number is one of its spellings, and anything may stand behind it. -/
theorem decode_eq_ok {bytes rest : Bytes} {n : Nat} :
    decode bytes = .ok (n, rest) ↔ ∃ front, Spells front n ∧ bytes = front ++ rest := by
  constructor
  · intro h
    obtain ⟨m, hm, -, rfl, rfl⟩ := decodeFrom_eq_ok (Nat.zero_le 9) Nat.one_pos h
    exact ⟨_, ⟨m, hm, by simp, rfl⟩, rfl⟩
  · rintro ⟨front, spelled, rfl⟩
    exact spelled.decode rest

/-! ## How long spellings are -/

theorem length_encode_le {m k : Nat} (h : m < 2 ^ (7 * (k + 1))) : (encode m).length ≤ k + 1 := by
  induction k generalizing m with
  | zero =>
    rw [encode_of_lt h]
    exact Nat.le_refl 1
  | succ k ih =>
    by_cases small : m < 128
    · rw [encode_of_lt small]
      exact Nat.le_add_left 1 _
    · rw [encode_of_le (by omega), List.length_cons]
      refine Nat.succ_le_succ (ih ?_)
      rw [Nat.div_lt_iff_lt_mul (by decide), show 128 = 2 ^ 7 from rfl, ← Nat.pow_add]
      exact h

theorem Spells.length_le {bytes : Bytes} {n : Nat} (h : Spells bytes n) : bytes.length ≤ 10 := by
  obtain ⟨m, hm, -, rfl⟩ := h
  exact length_encode_le (k := 9) hm

/-- A number beyond seven bits has a first byte with the high bit set, and bytes behind it. -/
theorem Spells.eq_cons {bytes : Bytes} {n : Nat} (h : Spells bytes n) (large : 128 ≤ n) :
    ∃ b rest, 128 ≤ b.toNat ∧ 0 < rest.length ∧ bytes = b :: rest := by
  obtain ⟨m, -, rfl, rfl⟩ := h
  have m_large : 128 ≤ m := Nat.le_trans large (Nat.mod_le _ _)
  refine ⟨_, _, ?_, ?_, encode_of_le m_large⟩
  · rw [Utf8.toNat_ofNat (by omega)]
    omega
  · refine List.length_pos_of_ne_nil fun nil => ?_
    rw [encode] at nil
    split at nil <;> cases nil

end Varint

namespace Multibase

theorem body?_eq_some {text body : String} (h : body? text = some body) : text = "z" ++ body := by
  rw [body?] at h
  split at h
  · next rest chars =>
    cases h
    rw [← String.toList_inj, chars, String.toList_append, String.toList_ofList,
      String.toList_ofList, List.singleton_append]
  · cases h

/-- Only the text of a byte string is read as one. -/
theorem decode_eq_ok {text : String} {bytes : Bytes} :
    decode text = .ok bytes ↔ text = encode bytes := by
  refine ⟨fun h => ?_, fun h => h ▸ decode_encode bytes⟩
  unfold decode at h
  split at h
  · cases h
  · next body found =>
    split at h
    · next read =>
      cases h
      rw [body?_eq_some found, Base58.decode_eq_ok.mp read, encode]
    · cases h

end Multibase

namespace Multihash

theorem number_eq_ok {bytes rest : Bytes} {n : Nat} :
    number bytes = .ok (n, rest) ↔ Varint.decode bytes = .ok (n, rest) := by
  unfold number
  split
  · next e => rw [e, Except.ok.injEq, Except.ok.injEq]
  · next e => rw [e]; exact ⟨nofun, nofun⟩
  · next e => rw [e]; exact ⟨nofun, nofun⟩

/-- What is read as a hash spells the code of SHA-256 and its own length, up to the limit. -/
theorem decode_eq_ok {bytes digest : Bytes} :
    decode bytes = .ok digest ↔ ∃ code size, Varint.Spells code sha256Code ∧
      Varint.Spells size digest.length ∧ digest.length ≤ maxLength ∧
      bytes = code ++ size ++ digest := by
  constructor
  · intro h
    obtain ⟨⟨function, rest⟩, first, h⟩ := Outcome.bind_eq_ok.mp h
    obtain ⟨⟨length, rest'⟩, second, h⟩ := Outcome.bind_eq_ok.mp h
    obtain ⟨code, spelled, front⟩ := Varint.decode_eq_ok.mp (number_eq_ok.mp first)
    obtain ⟨size, measured, back⟩ := Varint.decode_eq_ok.mp (number_eq_ok.mp second)
    dsimp only at front back h
    split at h
    · cases h
    split at h
    · cases h
    split at h
    · cases h
    split at h
    · cases h
    next short long known =>
    cases h
    have exact_size : digest.length = length := by omega
    refine ⟨code, size, not_not.mp known ▸ spelled, exact_size ▸ measured, by omega, ?_⟩
    rw [front, back, List.append_assoc]
  · rintro ⟨code, size, spelled, measured, limit, rfl⟩
    have function := number_eq_ok.mpr (spelled.decode (size ++ digest))
    have length := number_eq_ok.mpr (measured.decode digest)
    rw [List.append_assoc]
    refine Outcome.bind_eq_ok.mpr ⟨_, function, Outcome.bind_eq_ok.mpr ⟨_, length, ?_⟩⟩
    dsimp only
    rw [if_neg (by omega), if_neg (Nat.lt_irrefl _), if_neg (Nat.lt_irrefl _),
      if_neg (not_not_intro rfl)]
    rfl

end Multihash

namespace KeyKind

theorem ofCode?_eq_some {code : Nat} {kind : KeyKind} :
    ofCode? code = some kind ↔ code = kind.code := by
  refine ⟨fun h => ?_, fun h => h ▸ ofCode?_code kind⟩
  unfold ofCode? at h
  split at h
  · next e => cases h; exact e
  · split at h
    · next e => cases h; exact e
    · cases h

end KeyKind

namespace Key

theorem decodeMultibase_eq_ok {text : String} {bytes : Bytes} :
    decodeMultibase text = .ok bytes ↔ text = Multibase.encode bytes := by
  constructor
  · intro h
    unfold decodeMultibase at h
    split at h
    · cases h
    · next body found =>
      have read := Base58.decode_eq_ok.mp (Outcome.mapError_eq_ok.mp h)
      rw [Multibase.body?_eq_some found, read, Multibase.encode]
  · rintro rfl
    rw [decodeMultibase, Multibase.body?_encode]
    exact Outcome.mapError_eq_ok.mpr (Base58.decode_encode bytes)

/-- What is read as a key spells the code of its kind in front of its bytes. -/
theorem ofFingerprint_eq_ok {text : String} {k : Key} :
    ofFingerprint text = .ok k ↔ k.Sized ∧
      ∃ code, Varint.Spells code k.kind.code ∧ text = Multibase.encode (code ++ k.bytes) := by
  constructor
  · intro h
    obtain ⟨bytes, read, h⟩ := Outcome.bind_eq_ok.mp h
    obtain ⟨⟨number, rest⟩, split, h⟩ := Outcome.bind_eq_ok.mp h
    obtain ⟨code, spelled, e⟩ := Varint.decode_eq_ok.mp (Outcome.mapError_eq_ok.mp split)
    dsimp only at h
    split at h
    · cases h
    · next kind known =>
      split at h
      · next sized =>
        cases h
        exact ⟨sized, code, KeyKind.ofCode?_eq_some.mp known ▸ spelled,
          e ▸ decodeMultibase_eq_ok.mp read⟩
      · cases h
  · rintro ⟨sized, code, spelled, rfl⟩
    have split : (Multicodec.split (code ++ k.bytes)).mapError Error.multicodec
        = .ok (k.kind.code, k.bytes) :=
      Outcome.mapError_eq_ok.mpr (spelled.decode k.bytes)
    refine Outcome.bind_eq_ok.mpr ⟨_, decodeMultibase_eq_ok.mpr rfl,
      Outcome.bind_eq_ok.mpr ⟨_, split, ?_⟩⟩
    dsimp only
    rw [KeyKind.ofCode?_code]
    exact if_pos sized

end Key

end Pairwise
