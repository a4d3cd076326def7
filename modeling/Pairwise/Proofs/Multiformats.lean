import Pairwise.Codec.Multibase
import Pairwise.Codec.Multihash
import Pairwise.Proofs.Base58
import Pairwise.Proofs.Utf8
/-!
# Self-describing byte strings lose nothing

Results:
* `Varint.decode_encode`: a number of 64 bits is read back, and what follows it is left; of a longer
  one, `Varint.decode_encode_mod`, 64 bits are kept.
* `Multibase.decode_encode`, `Multicodec.split_tag`, `Multihash.decode_wrap`: so are texts that tell
  their base, byte strings that tell their content, and hashes.
* `Multihash.length_encode_wrap`: the text of a hash has 46 digits.
-/
namespace Pairwise

namespace Varint

theorem encode_of_lt {n : Nat} (h : n < 128) : encode n = [UInt8.ofNat n] := by
  rw [encode, if_pos h]

theorem encode_of_le {n : Nat} (h : 128 ≤ n) :
    encode n = UInt8.ofNat (n % 128 + 128) :: encode (n / 128) := by
  rw [encode, if_neg (by omega)]

/-- Reading goes on from any position, as long as ten bytes are not exceeded, and keeps 64 bits. -/
theorem decodeFrom_encode {n index sum : Nat} (rest : Bytes) (hindex : index ≤ 9)
    (hsum : sum < 2 ^ (7 * index)) (hlimit : n < 2 ^ (70 - 7 * index)) (hzero : index = 0 ∨ n ≠ 0) :
    decodeFrom index sum (encode n ++ rest)
      = .ok ((sum + n * 2 ^ (7 * index)) % UInt64.size, rest) := by
  induction n using Nat.strongRecOn generalizing index sum with
  | ind n ih =>
    by_cases h : n < 128
    · rw [encode_of_lt h, List.singleton_append, decodeFrom, Utf8.toNat_ofNat (by omega),
        Nat.mod_eq_of_lt h, if_pos h, Nat.pow_eq, if_neg]
      rintro ⟨zero, later⟩
      have : n = 0 := by rw [← Utf8.toNat_ofNat (show n < 256 by omega), zero]; rfl
      omega
    · -- the rest of the number counts in units of the next position
      have unit : 2 ^ (7 * (index + 1)) = 2 ^ (7 * index) * 128 := by
        rw [Nat.mul_add, Nat.pow_add]
      have parts : n * 2 ^ (7 * index)
          = n % 128 * 2 ^ (7 * index) + n / 128 * 2 ^ (7 * (index + 1)) := by
        rw [unit, Nat.mul_comm (2 ^ (7 * index)) 128, ← Nat.mul_assoc, ← Nat.add_mul]
        congr 1
        omega
      have early : index < 9 := by
        by_contra late
        rw [show index = 9 by omega] at hlimit
        omega
      have low : n % 128 * 2 ^ (7 * index) ≤ 127 * 2 ^ (7 * index) :=
        Nat.mul_le_mul_right _ (by omega)
      have room : 2 ^ (7 * (index + 1)) ≤ 2 ^ 63 := Nat.pow_le_pow_right (by decide) (by omega)
      have size : UInt64.size = 2 ^ 64 := rfl
      have fewer : n / 128 < 2 ^ (70 - 7 * (index + 1)) := by
        rw [Nat.div_lt_iff_lt_mul (by decide), show 128 = 2 ^ 7 from rfl, ← Nat.pow_add]
        rwa [show 70 - 7 * (index + 1) + 7 = 70 - 7 * index by omega]
      have small : sum + n % 128 * 2 ^ (7 * index) < UInt64.size := by omega
      rw [encode_of_le (by omega), List.cons_append, decodeFrom, Utf8.toNat_ofNat (by omega),
        show (n % 128 + 128) % 128 = n % 128 by omega, Nat.pow_eq, Nat.mod_eq_of_lt small,
        if_neg (by omega), if_neg (by omega)]
      rw [ih (n / 128) (by omega) (by omega) (by omega) fewer (.inr (by omega)), parts, Nat.add_assoc]

theorem decode_encode_mod {n : Nat} (h : n < 2 ^ 70) (rest : Bytes) :
    decode (encode n ++ rest) = .ok (n % UInt64.size, rest) := by
  have first : 0 < 2 ^ (7 * 0) := by decide
  simpa [decode] using decodeFrom_encode rest (Nat.zero_le 9) first h (.inl rfl)

theorem decode_encode {n : Nat} (h : n < UInt64.size) (rest : Bytes) :
    decode (encode n ++ rest) = .ok (n, rest) := by
  have size : UInt64.size = 2 ^ 64 := rfl
  rw [decode_encode_mod (by omega), Nat.mod_eq_of_lt h]

end Varint

namespace Multicodec

theorem split_tag {code : Nat} (h : code < UInt64.size) (bytes : Bytes) :
    split (tag code bytes) = .ok (code, bytes) := Varint.decode_encode h bytes

end Multicodec

namespace Multibase

theorem toList_encode (bytes : Bytes) :
    (encode bytes).toList = 'z' :: (Base58.encode bytes).toList := by
  rw [encode, String.toList_append]
  rfl

theorem body?_encode (bytes : Bytes) : body? (encode bytes) = some (Base58.encode bytes) := by
  unfold body?
  rw [toList_encode]
  exact congrArg some String.ofList_toList

theorem decode_encode (bytes : Bytes) : decode (encode bytes) = .ok bytes := by
  rw [decode, body?_encode]
  dsimp only
  rw [Base58.decode_encode]

theorem encode_inj {a b : Bytes} (h : encode a = encode b) : a = b := by
  have decoded : decode (encode a) = decode (encode b) := congrArg decode h
  rw [decode_encode, decode_encode] at decoded
  exact Except.ok.inj decoded

end Multibase

namespace Multihash

theorem number_encode {n : Nat} (h : n < UInt64.size) (rest : Bytes) :
    number (Varint.encode n ++ rest) = .ok (n, rest) := by
  rw [number, Varint.decode_encode h]

theorem decode_wrap {digest : Bytes} (h : digest.length ≤ maxLength) :
    decode (wrap digest) = .ok digest := by
  have limit : maxLength < UInt64.size := by decide
  unfold decode wrap
  rw [List.append_assoc, number_encode (by decide)]
  dsimp only [bind, Except.bind]
  rw [number_encode (by omega)]
  change (if maxLength < digest.length then _ else if digest.length < digest.length then _
    else if digest.length < digest.length then _ else _) = _
  rw [if_neg (by omega), if_neg (Nat.lt_irrefl _), if_neg (Nat.lt_irrefl _)]
  rfl

/-- A hash of 32 bytes stands behind the two bytes of its kind and its length. -/
theorem wrap_eq {digest : Bytes} (h : digest.length = 32) : wrap digest = 0x12 :: 0x20 :: digest := by
  rw [wrap, h, Varint.encode_of_lt (by decide), Varint.encode_of_lt (by decide)]
  rfl

theorem length_encode_wrap {digest : Bytes} (h : digest.length = 32) :
    (Base58.encode (wrap digest)).toList.length = 46 := by
  have length : (0x20 :: digest).length = 33 := congrArg (· + 1) h
  rw [wrap_eq h]
  refine Base58.length_encode_cons (k := 45) ?_ ?_
  · rw [length]
    decide
  · rw [length]
    decide

end Multihash

end Pairwise
