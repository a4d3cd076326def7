import Pairwise.Proofs.KeyedSenders
import Pairwise.Proofs.PeerDidDocuments
/-!
# What a derived key is bound to

A derived key is the hash of one byte string, in which a secret, the name of the algorithm and what is
known of both parties follow one another. The secret goes without its length, so the byte string tells
them apart only if that length is known. For the entries of envelopes it need not be said: the name of the
way to wrap tells how many agreements the secret is made of.

Results:
* `Bytes.ofNatBE_inj`: a number that fits its width is told by its bytes.
* `counted_append_inj`: a text with its length in front ends where the length says.
* `Material.hashed_eq_iff`: what is hashed is equal only for the same material.
* `Wrapping.Shape.hashed_eq_iff`: so it is for entries, whatever the lengths of their secrets.
* `keys_bind_material`: a derived key is bound to its material, unless the hash collides.
* `secret_length_needed`: secrets of different lengths may be hashed alike.
-/
namespace Pairwise

/-! ## Texts with their lengths -/

namespace Bytes

theorem toNatLE_ofNatLE {width n : Nat} (h : n < Nat.pow 256 width) :
    (ofNatLE width n).toNatLE = n := by
  induction width generalizing n with
  | zero => exact (Nat.lt_one_iff.mp h).symm
  | succ width ih =>
    have others : n / 256 < Nat.pow 256 width := Nat.div_lt_of_lt_mul (Nat.mul_comm _ 256 ▸ h)
    rw [ofNatLE, toNatLE, ih others, Utf8.toNat_ofNat (Nat.mod_lt n (by decide))]
    exact Nat.mod_add_div n 256

theorem ofNatBE_inj {width m n : Nat} (hm : m < Nat.pow 256 width) (hn : n < Nat.pow 256 width)
    (h : ofNatBE width m = ofNatBE width n) : m = n := by
  have turned : ofNatLE width m = ofNatLE width n := List.reverse_inj.mp h
  calc
    m = (ofNatLE width m).toNatLE := (toNatLE_ofNatLE hm).symm
    _ = (ofNatLE width n).toNatLE := by rw [turned]
    _ = n := toNatLE_ofNatLE hn

end Bytes

namespace ConcatKdf

theorem length_counted (text : Bytes) : (counted text).length = 4 + text.length := by
  simp [counted, Bytes.ofNatBE_length]

/-- Whatever follows a text, the text ends where the length in front of it says. -/
theorem counted_append_inj {s t rest rest' : Bytes} (hs : s.length < UInt32.size)
    (ht : t.length < UInt32.size) (h : counted s ++ rest = counted t ++ rest') :
    s = t ∧ rest = rest' := by
  have size : UInt32.size = Nat.pow 256 4 := rfl
  rw [size] at hs ht
  simp only [counted, List.append_assoc] at h
  obtain ⟨front, back⟩ := List.append_inj h (by simp [Bytes.ofNatBE_length])
  have length : s.length = t.length := Bytes.ofNatBE_inj hs ht front
  exact List.append_inj back length

/-- Nothing known of a party counts as an empty text. -/
theorem party_eq (info : Option Bytes) : party info = counted (info.getD []) := by
  cases info with
  | none => rfl
  | some info => rfl

theorem countable_iff {text : Bytes} : countable text = true ↔ text.length < UInt32.size :=
  decide_eq_true_iff

theorem all_countable_iff {info : Option Bytes} :
    info.all countable = true ↔ (info.getD []).length < UInt32.size := by
  cases info with
  | none => decide
  | some info => exact countable_iff

/-! ## What is hashed -/

namespace Material

/-- The byte string that is hashed. -/
def hashed (m : Material) : Bytes := input m.secret m.algorithm m.producer m.consumer

/-- The two say the same: the secret, the name of the algorithm, and what is known of both parties, where
nothing known counts as an empty text. -/
structure Same (m n : Material) : Prop where
  secret : m.secret = n.secret
  algorithm : m.algorithm = n.algorithm
  producer : m.producer.getD [] = n.producer.getD []
  consumer : m.consumer.getD [] = n.consumer.getD []

/-- What stands beside the secret is shorter than `2 ^ 32` bytes. -/
structure Short (m : Material) : Prop where
  algorithm : (Utf8.ofString m.algorithm).length < UInt32.size
  producer : (m.producer.getD []).length < UInt32.size
  consumer : (m.consumer.getD []).length < UInt32.size

variable {m n : Material}

theorem fits_iff : m.fits = true ↔ m.Short := by
  simp only [fits, Bool.and_eq_true, countable_iff, all_countable_iff, and_assoc]
  constructor
  · rintro ⟨algorithm, producer, consumer⟩
    exact ⟨algorithm, producer, consumer⟩
  · intro h
    exact ⟨h.algorithm, h.producer, h.consumer⟩

theorem key_of_short (h : m.Short) : m.key = .ok (Sha256.hash m.hashed) :=
  key_of_fits (fits_iff.mpr h)

theorem key_of_not_short (h : ¬ m.Short) : m.key = .error .textLength :=
  if_neg fun fits => h (fits_iff.mp fits)

theorem hashed_eq (m : Material) : m.hashed =
    [0, 0, 0, 1] ++ (m.secret ++ (counted (Utf8.ofString m.algorithm) ++
      (counted (m.producer.getD []) ++ (counted (m.consumer.getD []) ++ [0, 0, 1, 0])))) := by
  simp only [hashed, input, party_eq, List.append_assoc]

theorem length_hashed (m : Material) : m.hashed.length =
    20 + m.secret.length + (Utf8.ofString m.algorithm).length + (m.producer.getD []).length
      + (m.consumer.getD []).length := by
  simp only [hashed_eq, List.length_append, length_counted, List.length_cons, List.length_nil]
  omega

theorem Same.hashed_eq (h : m.Same n) : m.hashed = n.hashed := by
  rw [Material.hashed_eq, Material.hashed_eq, h.secret, h.algorithm, h.producer, h.consumer]

/-- What is hashed is equal only for the same material, if the secrets are as long as each other. -/
theorem hashed_eq_iff (lengths : m.secret.length = n.secret.length) (hm : m.Short) (hn : n.Short) :
    m.hashed = n.hashed ↔ m.Same n := by
  constructor
  · intro h
    rw [hashed_eq m, hashed_eq n] at h
    -- the secrets end together, and from there on every text ends where its length says
    obtain ⟨secret, h⟩ := List.append_inj (List.append_cancel_left h) lengths
    obtain ⟨algorithm, h⟩ := counted_append_inj hm.algorithm hn.algorithm h
    obtain ⟨producer, h⟩ := counted_append_inj hm.producer hn.producer h
    obtain ⟨consumer, -⟩ := counted_append_inj hm.consumer hn.consumer h
    exact ⟨secret, Utf8.ofString_inj algorithm, producer, consumer⟩
  · exact Same.hashed_eq

/-- Secrets of different lengths may be hashed alike: the length in front of the name of the algorithm can
be read as the end of the secret. -/
theorem secret_length_needed : ∃ m n : Material, m.Short ∧ n.Short ∧
    m.hashed = n.hashed ∧ m.secret ≠ n.secret :=
  ⟨⟨[], "\x00\x00\x00\x00", none, none⟩, ⟨[0, 0, 0, 4], "", none, none⟩,
    fits_iff.mp (by decide), fits_iff.mp (by decide), by decide, by decide⟩

/-- Keys are equal exactly if what is hashed is, or collides. -/
theorem key_eq_iff (hm : m.Short) (hn : n.Short) :
    m.key = n.key ↔ m.hashed = n.hashed ∨ Sha256.Collide m.hashed n.hashed := by
  rw [key_of_short hm, key_of_short hn, Except.ok.injEq]
  constructor
  · intro hashes
    by_cases same : m.hashed = n.hashed
    · exact .inl same
    · exact .inr ⟨same, hashes⟩
  · rintro (same | ⟨-, hashes⟩)
    · rw [same]
    · exact hashes

end Material

end ConcatKdf

/-! ## Entries of envelopes -/

namespace Wrapping

open ConcatKdf (Material)

/-- A key is what is known of a party. -/
def ByKey (info : Option Bytes) : Prop := ∃ key, info = some key ∧ key.length = Key.length

theorem ByKey.eq_of_getD {info info' : Option Bytes} (h : ByKey info) (h' : ByKey info')
    (same : info.getD [] = info'.getD []) : info = info' := by
  obtain ⟨key, rfl, -⟩ := h
  obtain ⟨key', rfl, -⟩ := h'
  exact congrArg some same

/-- What entries have in common: both parties are known by a key, and the way to wrap tells how many
agreements there are in the secret. -/
structure Shape (m : Material) : Prop where
  producer : ByKey m.producer
  consumer : ByKey m.consumer
  secret : m.algorithm = named ∧ m.secret.length = 2 * Key.length ∨
    m.algorithm = anonymous ∧ m.secret.length = Key.length

namespace Shape

variable {m n : Material}

theorem short (h : Shape m) : m.Short := by
  obtain ⟨common, algorithm, producer, consumer⟩ := m
  obtain ⟨⟨epk, rfl, hepk⟩, ⟨recipient, rfl, hrecipient⟩, secret⟩ := h
  exact Material.fits_iff.mp (fits_of_sized common (secret.imp And.left And.left) hepk hrecipient)

theorem length_hashed (h : Shape m) : m.hashed.length =
    20 + m.secret.length + (Utf8.ofString m.algorithm).length + Key.length + Key.length := by
  obtain ⟨epk, producer, hepk⟩ := h.producer
  obtain ⟨recipient, consumer, hrecipient⟩ := h.consumer
  rw [Material.length_hashed, producer, consumer, Option.getD_some, Option.getD_some, hepk, hrecipient]

/-- Secrets of different lengths come with names of different lengths, and both differences go the same
way: the longer name is that of the longer secret. -/
theorem length_eq (hm : Shape m) (hn : Shape n) (h : m.hashed = n.hashed) :
    m.secret.length = n.secret.length := by
  have lengths := congrArg List.length h
  rw [hm.length_hashed, hn.length_hashed] at lengths
  rcases hm.secret with ⟨alg, secret⟩ | ⟨alg, secret⟩
  · rcases hn.secret with ⟨alg', secret'⟩ | ⟨alg', secret'⟩
    · rw [secret, secret']
    · rw [alg, alg', length_named, length_anonymous] at lengths
      omega
  · rcases hn.secret with ⟨alg', secret'⟩ | ⟨alg', secret'⟩
    · rw [alg, alg', length_named, length_anonymous] at lengths
      omega
    · rw [secret, secret']

/-- Both parties of an entry are known, so that only equal materials say the same. -/
theorem eq_of_same (hm : Shape m) (hn : Shape n) (h : m.Same n) : m = n :=
  Material.ext h.secret h.algorithm (hm.producer.eq_of_getD hn.producer h.producer)
    (hm.consumer.eq_of_getD hn.consumer h.consumer)

/-- What is hashed for two entries is equal only if all of it is. -/
theorem hashed_eq_iff (hm : Shape m) (hn : Shape n) : m.hashed = n.hashed ↔ m = n := by
  constructor
  · intro h
    have lengths := hm.length_eq hn h
    exact hm.eq_of_same hn ((Material.hashed_eq_iff lengths hm.short hn.short).mp h)
  · intro h
    rw [h]

end Shape

end Wrapping

/-- Agreement keys, and what two sides have in common, are as long as keys. -/
structure Suite.Sized (suite : Suite) : Prop where
  agreementPublic : ∀ secret, (suite.agreementPublic secret).length = Key.length
  agree : ∀ secret key, (suite.agree secret key).length = Key.length

theorem Suite.standard_sized : standard.Sized where
  agreementPublic _ := Bytes.ofNatLE_length _ _
  agree _ _ := Bytes.ofNatLE_length _ _

section Suites

variable [suite : Suite]

/-- Only keys of the right length have an agreement key. -/
theorem Key.sized_of_agreementBytes {k : Key} {theirs : Bytes} (h : k.agreementBytes = .ok theirs) :
    k.Sized := by
  obtain ⟨agreement, hagreement, h⟩ := Outcome.bind_eq_ok.mp h
  split at h
  · next length =>
    unfold toX25519 at hagreement
    split at hagreement
    · cases hagreement
      exact length
    · split at hagreement
      · cases hagreement
      · next sized => exact not_not.mp sized
  · cases h

namespace Wrapping

open ConcatKdf (Material)

/-- The key of an entry is derived from the material, by whoever wraps a content key for a recipient or by
whoever unwraps it, whether or not the entry opens under that key. -/
inductive Derives (m : Material) : Prop
  | wrapping {sender : Option Sender} {fresh : Fresh} {recipient : Key} :
    materialFor sender fresh recipient = .ok m → Derives m
  | unwrapping {seed : Bytes} {header : RecipientHeader} {sender : Option Key} :
    materialOf seed header = .ok (m, sender) → Derives m

theorem Derives.shape (sized : suite.Sized) {m : Material} (h : Derives m) : Shape m := by
  cases h with
  | @wrapping sender fresh recipient h =>
    obtain ⟨theirs, htheirs, h⟩ := Outcome.bind_eq_ok.mp h
    cases h
    refine ⟨⟨_, rfl, sized.agreementPublic _⟩, ⟨_, rfl, Key.sized_of_agreementBytes htheirs⟩, ?_⟩
    cases sender with
    | none => exact .inr ⟨rfl, by simp [sized.agree]⟩
    | some s => exact .inl ⟨rfl, by simp [sized.agree, Nat.two_mul]⟩
  | unwrapping h =>
    obtain ⟨epk, form, common, recipient, -, hepk, accounts, hrecipient, rfl⟩ :=
      materialOf_eq_ok_iff.mp h
    refine ⟨⟨_, rfl, hepk⟩, ⟨_, rfl, Key.sized_of_ofBase58 hrecipient⟩, ?_⟩
    cases accounts with
    | named alg => exact .inl ⟨alg, by simp [sized.agree, Nat.two_mul]⟩
    | anonymous alg => exact .inr ⟨alg, sized.agree _ _⟩

end Wrapping

end Suites

/-! ## What a key tells -/

namespace ConcatKdf

open Wrapping (Derives)

/-- A derived key is bound to its material. Only texts that are shorter than `2 ^ 32` bytes, as those of
entries are, give a key: the hash of one byte string. For secrets of one length these byte strings are equal exactly
if the secrets, the names of the algorithm and what is known of both parties are, where nothing known counts
as an empty text, and so are the keys, unless the hash collides on them. For the entries of envelopes
nothing is asked of the secrets: the keys are equal exactly if the secrets, the ways to wrap, the fresh keys
and the keys of the recipients are, or the hash collides. -/
theorem keys_bind_material [suite : Suite] (sized : suite.Sized) :
    (∀ m : Material, m.Short → m.key = .ok (Sha256.hash m.hashed)) ∧
    (∀ m : Material, ¬ m.Short → m.key = .error .textLength) ∧
    (∀ m : Material, Derives m → m.Short) ∧
    (∀ m n : Material, m.secret.length = n.secret.length → m.Short → n.Short →
      (m.hashed = n.hashed ↔ m.Same n) ∧
      (m.key = n.key ↔ m.Same n ∨ Sha256.Collide m.hashed n.hashed)) ∧
    (∀ m n : Material, Derives m → Derives n →
      (m.hashed = n.hashed ↔ m = n) ∧
      (m.key = n.key ↔ m = n ∨ Sha256.Collide m.hashed n.hashed)) := by
  refine ⟨fun m => Material.key_of_short, fun m => Material.key_of_not_short, fun m h => (h.shape sized).short, ?_, ?_⟩
  · intro m n lengths hm hn
    have same := Material.hashed_eq_iff lengths hm hn
    refine ⟨same, ?_⟩
    rw [Material.key_eq_iff hm hn, same]
  · intro m n hm hn
    have shape := hm.shape sized
    have shape' := hn.shape sized
    have same := shape.hashed_eq_iff shape'
    refine ⟨same, ?_⟩
    rw [Material.key_eq_iff shape.short shape'.short, same]

section Standard

attribute [local instance] Suite.standard

/-- What is known of the parties makes for another key, and too much of it for none. The keys of two
recipients are different, unless the hash collides, even if they are derived with the same fresh key. -/
theorem keys_bind_material_standard :
    let anybody : Material := ⟨List.replicate 64 7, Wrapping.anonymous, none, none⟩
    let somebody : Material :=
      ⟨List.replicate 64 7, Wrapping.anonymous, some (Utf8.ofString "epk"), some (Utf8.ofString "kid")⟩
    Suite.standard.Sized ∧ anybody.secret.length = somebody.secret.length ∧ anybody.Short ∧
      somebody.Short ∧ ¬ Sha256.Collide anybody.hashed somebody.hashed ∧
      anybody.hashed ≠ somebody.hashed ∧ anybody.key ≠ somebody.key ∧
      { anybody with producer := some (List.replicate UInt32.size 0) }.key = .error .textLength ∧
      ∃ m n : Material, Derives m ∧ Derives n ∧ m.producer = n.producer ∧ m.consumer ≠ n.consumer ∧
        (m.key = n.key ↔ Sha256.Collide m.hashed n.hashed) := by
  intro anybody somebody
  have short : anybody.Short := Material.fits_iff.mp (by decide)
  have short' : somebody.Short := Material.fits_iff.mp (by decide)
  have apart : ¬ Sha256.Collide anybody.hashed somebody.hashed := by
    rintro ⟨-, hashes⟩
    exact absurd hashes (by decide +kernel)
  have long : ¬ { anybody with producer := some (List.replicate UInt32.size 0) }.Short := by
    intro h
    have length := h.producer
    rw [Option.getD_some, List.length_replicate] at length
    exact Nat.lt_irrefl _ length
  obtain ⟨-, fails, -, calls, entries⟩ := keys_bind_material Suite.standard_sized
  obtain ⟨texts, keys⟩ := calls anybody somebody rfl short short'
  have differ : ¬ anybody.Same somebody := fun same => absurd same.producer (by decide)
  refine ⟨Suite.standard_sized, rfl, short, short', apart, fun h => differ (texts.mp h), fun h => ?_,
    fails _ long, ?_⟩
  · exact (keys.mp h).elim differ apart
  · let fresh : Wrapping.Fresh := ⟨List.replicate 32 1, List.replicate 24 0⟩
    have derives (b : UInt8) : Derives ⟨X25519.agree fresh.secret (List.replicate 32 b) ++ [],
        Wrapping.anonymous, some (X25519.publicKey fresh.secret), some (List.replicate 32 b)⟩ := by
      apply Derives.wrapping
      show Wrapping.materialFor none fresh ⟨List.replicate 32 b, .x25519⟩ = .ok _
      rfl
    have others : some (List.replicate 32 (2 : UInt8)) ≠ some (List.replicate 32 3) := by decide
    obtain ⟨-, keys⟩ := entries _ _ (derives 2) (derives 3)
    refine ⟨_, _, derives 2, derives 3, rfl, others, ?_⟩
    rw [keys]
    exact or_iff_right fun same => others (congrArg Material.consumer same)

end Standard

end ConcatKdf

end Pairwise
