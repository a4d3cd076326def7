import Pairwise.Proofs.Spellings
/-!
# The texts of a key

A key is read from its fingerprint, and from 63 texts more: the code in front of its bytes may be written
with any of the six bits that are dropped when it is read. The fingerprint is the only one of them in
which none is set. A `did:key` is any of these texts behind its scheme, with any fragment.

Results:
* `Varint.encode_inj`, `Varint.spells_iff`: a number of 64 bits is written in 64 ways.
* `Key.spelling`, `Key.ofFingerprint_eq_ok_iff`: the texts that a key is read from.
* `Did.key_eq_ok_iff`: the DIDs that a key is read from.
* `Key.spellings_read`: what is read from the texts of a key, and which of these is written.
* `Key.fingerprint_not_unique`: a text that is read need not be the one that is written.
-/
namespace Pairwise

namespace Varint

/-- A number ends with its first byte below 128. -/
theorem encode_inj {m n : Nat} (h : encode m = encode n) : m = n := by
  induction m using Nat.strongRecOn generalizing n with
  | ind m ih =>
    have first := congrArg (fun bytes => bytes.head?.map UInt8.toNat) h
    by_cases hm : m < 128 <;> by_cases hn : n < 128
    all_goals
      simp only [encode_of_lt, encode_of_le, hm, hn, Nat.le_of_not_lt, not_false_eq_true,
        List.head?_cons, Option.map_some, Option.some.injEq] at first
      rw [Utf8.toNat_ofNat (by omega), Utf8.toNat_ofNat (by omega)] at first
    · exact first
    · omega
    · omega
    · rw [encode_of_le (Nat.le_of_not_lt hm), encode_of_le (Nat.le_of_not_lt hn)] at h
      have others := ih (m / 128) (by omega) (List.tail_eq_of_cons_eq h)
      omega

/-- A number of 64 bits is spelled with any of the six bits set that are dropped. -/
theorem spells_iff {n : Nat} (h : n < UInt64.size) {bytes : Bytes} :
    Spells bytes n ↔ ∃ extra < 64, bytes = encode (n + extra * UInt64.size) := by
  have size : UInt64.size = 2 ^ 64 := rfl
  constructor
  · rintro ⟨m, limit, rfl, rfl⟩
    rw [size]
    exact ⟨m / 2 ^ 64, by omega, congrArg encode (by omega)⟩
  · rintro ⟨extra, limit, rfl⟩
    refine ⟨_, ?_, ?_, rfl⟩
    · rw [size] at h ⊢
      omega
    · rw [Nat.add_mul_mod_self_right, Nat.mod_eq_of_lt h]

end Varint

namespace Key

/-- A text of a key: its code is written with the bits of a number beyond the 64 that count. -/
def spelling (k : Key) (extra : Nat) : String :=
  Multibase.encode (Varint.encode (k.kind.code + extra * UInt64.size) ++ k.bytes)

theorem spelling_zero (k : Key) : k.spelling 0 = k.fingerprint := by
  rw [spelling, Nat.zero_mul, Nat.add_zero]
  rfl

theorem spelling_injective (k : Key) : Function.Injective k.spelling := by
  intro i j same
  have numbers := Varint.encode_inj (List.append_cancel_right (Multibase.encode_inj same))
  have positive : 0 < UInt64.size := by decide
  exact Nat.eq_of_mul_eq_mul_right positive (Nat.add_left_cancel numbers)

theorem spelling_eq_fingerprint {k : Key} {extra : Nat} :
    k.spelling extra = k.fingerprint ↔ extra = 0 := by
  rw [← spelling_zero]
  exact k.spelling_injective.eq_iff

/-- A key is read from 64 texts. -/
theorem ofFingerprint_eq_ok_iff {text : String} {k : Key} :
    ofFingerprint text = .ok k ↔ k.Sized ∧ ∃ extra < 64, text = k.spelling extra := by
  rw [ofFingerprint_eq_ok]
  refine and_congr_right fun _ => ?_
  constructor
  · rintro ⟨code, spelled, rfl⟩
    obtain ⟨extra, limit, rfl⟩ := (Varint.spells_iff (code_lt k.kind)).mp spelled
    exact ⟨extra, limit, rfl⟩
  · rintro ⟨extra, limit, rfl⟩
    exact ⟨_, (Varint.spells_iff (code_lt k.kind)).mpr ⟨extra, limit, rfl⟩, rfl⟩

theorem ofBase58_base58_iff {k : Key} : ofBase58 k.base58 k.kind = .ok k ↔ k.Sized :=
  ⟨sized_of_ofBase58, ofBase58_base58⟩

end Key

/-- A key is read from its texts behind the scheme, whatever fragment follows. -/
theorem Did.key_eq_ok_iff {did : String} {k : Key} :
    Did.key did = .ok k ↔
      k.Sized ∧ ∃ extra < 64, Text.before '#' did = keyScheme ++ k.spelling extra := by
  have scheme : '#' ∉ keyScheme.toList := by decide
  rw [key]
  constructor
  · intro h
    split at h
    · cases h
    · next identifier found =>
      obtain ⟨sized, extra, limit, text⟩ := Key.ofFingerprint_eq_ok_iff.mp (Outcome.mapError_eq_ok.mp h)
      refine ⟨sized, extra, limit, ?_⟩
      rw [Text.after?_eq_some.mp found, Text.before_append scheme, text]
  · rintro ⟨sized, extra, limit, text⟩
    obtain ⟨rest, whole⟩ := Text.exists_eq_before_append '#' did
    rw [text, String.append_assoc] at whole
    rw [whole, Text.before_append scheme] at text
    rw [Text.after?_eq_some.mpr whole]
    refine Outcome.mapError_eq_ok.mpr (Key.ofFingerprint_eq_ok_iff.mpr ⟨sized, extra, limit, ?_⟩)
    exact String.append_right_inj _ |>.mp text

namespace Key

/-- What is read from the texts of a key: a key of 32 bytes is read from its fingerprint and from its bare
text. It is read from 64 texts, and from the DIDs that are one of these behind the scheme but for the
fragment. Of these only the first is the fingerprint that is written. -/
theorem spellings_read (k : Key) :
    (ofFingerprint k.fingerprint = .ok k ↔ k.Sized) ∧
    (ofBase58 k.base58 k.kind = .ok k ↔ k.Sized) ∧
    (∀ text, ofFingerprint text = .ok k ↔ k.Sized ∧ ∃ extra < 64, text = k.spelling extra) ∧
    (∀ did, Did.key did = .ok k ↔
      k.Sized ∧ ∃ extra < 64, Text.before '#' did = Did.keyScheme ++ k.spelling extra) ∧
    (∀ extra, k.spelling extra = k.fingerprint ↔ extra = 0) ∧
    Function.Injective k.spelling := by
  refine ⟨?_, ofBase58_base58_iff, fun _ => ofFingerprint_eq_ok_iff, fun _ => Did.key_eq_ok_iff,
    fun _ => spelling_eq_fingerprint, k.spelling_injective⟩
  exact ⟨fun read => (ofFingerprint_eq_ok_iff.mp read).1, ofFingerprint_fingerprint⟩

/-- A key that is read from a text need not have that text for its fingerprint: the code in front of the
key of 32 sevens may be written with one bit more, in ten bytes. -/
theorem fingerprint_not_unique :
    ¬ ∀ (text : String) (k : Key), ofFingerprint text = .ok k → k.fingerprint = text := by
  intro unique
  let k : Key := ⟨List.replicate 32 7, .ed25519⟩
  have read : ofFingerprint (k.spelling 1) = .ok k :=
    ofFingerprint_eq_ok_iff.mpr ⟨by rfl, 1, by decide, rfl⟩
  exact absurd (spelling_eq_fingerprint.mp (unique _ k read).symm) Nat.one_ne_zero

end Key

end Pairwise
