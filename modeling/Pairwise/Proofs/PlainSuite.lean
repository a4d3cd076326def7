import Pairwise.Crypto.Suite
/-!
# A suite without secrets

`Suite.plain` keeps every promise of a suite and no secret: the public key of a seed is the seed, a
signature is the key with the text, and a sealed text is the text with an empty tag. What is said of
every lawful suite can be tried on it.

Results:
* `Suite.plain_lawful`: the suite is lawful.
-/
namespace Pairwise

/-- The first 32 bytes, filled up with zeros. -/
def Bytes.block (bytes : Bytes) : Bytes := (bytes ++ List.replicate 32 0).take 32

namespace Bytes

theorem length_block (bytes : Bytes) : bytes.block.length = 32 := by
  rw [block, List.length_take, List.length_append, List.length_replicate]
  exact Nat.min_eq_left (Nat.le_add_left _ _)

theorem block_of_length {bytes : Bytes} (h : bytes.length = 32) : bytes.block = bytes := by
  rw [block, ← h, List.take_left]

theorem block_block (bytes : Bytes) : bytes.block.block = bytes.block :=
  block_of_length (length_block bytes)

end Bytes

namespace Suite

/-- What two secrets have in common: their sum, byte by byte. -/
def sumOf (a b : Bytes) : Bytes := a.block.zipWith (· + ·) b.block

theorem sumOf_comm (a b : Bytes) : sumOf a b = sumOf b a :=
  List.zipWith_comm_of_comm UInt8.add_comm

theorem sumOf_block_left (a b : Bytes) : sumOf a.block b = sumOf a b := by
  rw [sumOf, Bytes.block_block, sumOf]

/-- Every promise is kept, and no secret. -/
@[reducible] def plain : Suite where
  publicKey seed := seed.block
  sign seed text := seed.block ++ text
  verify key text signature := signature == key ++ text
  agreementKey? key := some key.block
  agreementSecret seed := seed.block
  agreementPublic secret := secret.block
  agree := sumOf
  sealText _ _ _ _ text := text ++ List.replicate Cipher.tagLength 0
  openText? _ _ _ _ sealed := some (sealed.take (sealed.length - Cipher.tagLength))

theorem plain_lawful : plain.Lawful where
  length_publicKey := Bytes.length_block
  length_agreementPublic := Bytes.length_block
  agreementKey_publicKey seed := ⟨_, rfl, Bytes.length_block _⟩
  verify_sign seed text := beq_self_eq_true _
  agree_seed := by
    rintro seed secret key ⟨⟩
    change sumOf seed.block secret.block = sumOf secret seed.block.block
    rw [Bytes.block_block, sumOf_comm secret, sumOf_comm _ secret.block, sumOf_block_left,
      sumOf_comm]
  agree_seeds := by
    rintro a b key key' ⟨⟩ ⟨⟩
    change sumOf a.block b.block.block = sumOf b.block a.block.block
    rw [Bytes.block_block, Bytes.block_block, sumOf_comm]
  open_seal := by
    intro _ _ _ _ text
    change some ((text ++ List.replicate Cipher.tagLength 0).take
      ((text ++ List.replicate Cipher.tagLength 0).length - Cipher.tagLength)) = _
    rw [List.length_append, List.length_replicate, Nat.add_sub_cancel, List.take_left]

end Suite

end Pairwise
