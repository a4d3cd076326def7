import Pairwise.Proofs.Base64Url
import Pairwise.Proofs.Keys
import Pairwise.Proofs.Messages
import Pairwise.Wallet
/-!
# What envelopes hold

Whoever opens an envelope has the seed of one of its recipients. What was sealed by a lawful suite is
opened by every wallet with such a seed, as the first recipient whose seed is there.

Results:
* `Envelope.openWith_ok`: what must be there for an envelope to open.
* `Wrapping.wrap_ok`, `Wrapping.unwrap_wrap`: a content key is wrapped for every usable key, and
  unwrapped with its seed.
* `Wrapping.materialOf_eq`: both sides derive the key that it is wrapped under from the same.
* `Envelope.openWith_sealContent`: an envelope that was sealed opens to its message and sender.
-/
namespace Pairwise

namespace Envelope

theorem agrees_iff {alg : String} {sender : Option Key} :
    agrees alg sender = true ↔ alg = if sender.isSome then authenticated else anonymous := by
  unfold agrees
  exact decide_eq_true_iff

/-- The header of the envelope names the form in which its content is sealed. -/
def HasAlgorithm (e : Envelope) (alg : String) : Prop :=
  ∃ bytes header, Base64Url.read e.header = .ok bytes ∧
    Error.ofJson (Json.Reader.ofBytes EnvelopeHeader.reader.read bytes) = .ok header ∧
    header.alg = alg

end Envelope

theorem Base64Url.read_encode (bytes : Bytes) : read (encode bytes) = .ok bytes := by
  rw [read, decode_encode]
  rfl

/-- The header of an envelope that was sealed is read back. -/
theorem Envelope.header_read (cipher : Cipher) (named : Bool) :
    ∃ bytes, Base64Url.read (headerText cipher named) = .ok bytes ∧
      Error.ofJson (Json.Reader.ofBytes EnvelopeHeader.reader.read bytes)
        = .ok ⟨typ, cipher.name, if named then authenticated else anonymous⟩ := by
  refine ⟨_, Base64Url.read_encode _, ?_⟩
  rw [Json.Reader.ofBytes_bytes _ (EnvelopeHeader.fits _ _), (EnvelopeHeader.reads _).given]
  rfl

theorem Cipher.splitTag_append (sealed : Bytes) :
    (splitTag sealed).1 ++ (splitTag sealed).2 = sealed := by
  rw [splitTag, List.splitAt_eq]
  exact List.take_append_drop _ _

namespace ConcatKdf

theorem length_derive (secret : Bytes) (algorithm : String) (producer consumer : Option Bytes) :
    (derive secret algorithm producer consumer).length = Cipher.keyLength := Sha256.hash_length _

theorem Material.key_of_fits {m : Material} (h : m.fits = true) :
    m.key = .ok (derive m.secret m.algorithm m.producer m.consumer) := if_pos h

end ConcatKdf

namespace Wrapping

theorem length_named : (Utf8.ofString named).length = 16 := by decide

theorem length_anonymous : (Utf8.ofString anonymous).length = 15 := by decide

/-- The name of a way to wrap and two keys are short texts. -/
theorem fits_of_sized (common : Bytes) {epk recipient : Bytes} {alg : String}
    (known : alg = named ∨ alg = anonymous) (hepk : epk.length = Key.length)
    (hrecipient : recipient.length = Key.length) :
    ConcatKdf.Material.fits ⟨common, alg, some epk, some recipient⟩ = true := by
  have short {text : Bytes} (h : text.length ≤ Key.length) : ConcatKdf.countable text = true :=
    decide_eq_true (Nat.lt_of_le_of_lt h (by decide))
  have name : (Utf8.ofString alg).length ≤ Key.length := by
    rcases known with rfl | rfl
    · rw [length_named]
      decide
    · rw [length_anonymous]
      decide
  simp [ConcatKdf.Material.fits, short name, short hepk.le, short hrecipient.le]

end Wrapping

variable [suite : Suite]

namespace Envelope

/-- The content key of the envelope was wrapped for the recipient, in the name of the sender if
there is one. -/
def WrappedFor (e : Envelope) (seed? : String → Option Bytes) (recipient : Key)
    (sender : Option Key) : Prop :=
  ∃ r ∈ e.recipients, ∃ seed contentKey, seed? r.header.kid = some seed ∧
    Key.ofBase58 r.header.kid .ed25519 = .ok recipient ∧
    Wrapping.unwrap seed r = .ok (contentKey, sender)

theorem openWith_ok {seed? : String → Option Bytes} {e : Envelope} {opened : Opened}
    (h : e.openWith seed? = .ok opened) :
    e.WrappedFor seed? opened.recipient opened.sender ∧
      e.HasAlgorithm (if opened.sender.isSome then authenticated else anonymous) := by
  unfold openWith at h
  obtain ⟨bytes, hbytes, h⟩ := Outcome.bind_eq_ok.mp h
  obtain ⟨header, hheader, h⟩ := Outcome.bind_eq_ok.mp h
  obtain ⟨cipher, -, h⟩ := Outcome.bind_eq_ok.mp h
  dsimp only at h
  split at h
  · cases h
  · next r seed hfound =>
    obtain ⟨⟨contentKey, sender⟩, hunwrap, h⟩ := Outcome.bind_eq_ok.mp h
    split at h
    · obtain ⟨_, herror, -⟩ := Outcome.bind_eq_ok.mp h
      cases herror
    · next hagrees =>
      simp only [Outcome.bind_eq_ok] at h
      obtain ⟨text, -, tag, -, nonce, -, content, -, plaintext, -, recipient, hrecipient, h⟩ := h
      cases h
      obtain ⟨r', hmem, hr'⟩ := List.exists_of_findSome?_eq_some hfound
      obtain ⟨seed', hseed, hpair⟩ := Option.map_eq_some_iff.mp hr'
      cases hpair
      rw [Bool.not_eq_true', Bool.not_eq_false] at hagrees
      exact ⟨⟨r, hmem, seed, contentKey, hseed, hrecipient, hunwrap⟩,
        bytes, header, hbytes, hheader, agrees_iff.mp hagrees⟩

end Envelope

/-! ## Keys and their seeds -/

namespace Wallet

/-- A key that a wallet has the seed of is the key of that seed. -/
theorem eq_keyOf {w : Wallet} {k : Key} {seed : Bytes} (signs : k.kind = .ed25519)
    (h : w.seed? k.base58 = some seed) : k = keyOf seed := by
  obtain ⟨front, back, entries, -⟩ := List.lookup_eq_some_iff.mp h
  have mem : (k.base58, seed) ∈ w.seeds := by
    rw [entries]
    exact List.mem_append_right _ List.mem_cons_self
  exact Key.eq_of_base58_eq signs (w.genuine _ mem)

end Wallet

theorem Key.Usable.agreementBytes {k : Key} (h : k.Usable) :
    ∃ x, k.agreementBytes = .ok x ∧ Suite.agreementKey? k.bytes = some x := by
  obtain ⟨agreement, ok, -, sized, hx⟩ := h.toX25519
  refine ⟨agreement.bytes, ?_, hx⟩
  rw [Key.agreementBytes, ok]
  exact if_pos sized

/-- Whoever seals in the name of a key has its seed. -/
def Sender.Own (s : Sender) : Prop :=
  ∃ seed, s = ⟨Wallet.keyOf seed, Suite.agreementSecret seed⟩

namespace Wrapping

/-- A wrapped key names its recipient. -/
theorem kid_eq {contentKey : Bytes} {sender : Option Sender} {fresh : Fresh} {k : Key}
    {r : Recipient} (h : wrap contentKey sender fresh k = .ok r) : r.header.kid = k.base58 := by
  unfold wrap at h
  obtain ⟨material, -, h⟩ := Outcome.bind_eq_ok.mp h
  obtain ⟨key, -, h⟩ := Outcome.bind_eq_ok.mp h
  obtain ⟨sealed, -, h⟩ := Outcome.bind_eq_ok.mp h
  cases h
  rfl

end Wrapping

section Lawful

variable (lawful : suite.Lawful)

include lawful

theorem Key.usable_keyOf (seed : Bytes) : (Wallet.keyOf seed).Usable where
  signs := rfl
  sized := lawful.length_publicKey seed
  agreement := lawful.agreementKey_publicKey seed

theorem Cipher.decrypt_eq {c : Cipher} {key nonce aad text sealed : Bytes}
    (h : c.encrypt key nonce aad text = .ok sealed) : c.decrypt key nonce aad sealed = .ok text := by
  unfold encrypt at h
  split at h
  · next fits =>
    cases h
    rw [decrypt, if_pos fits, lawful.open_seal]
  · cases h

namespace Wrapping

/-- A content key is wrapped for every usable key, in the name of everyone. -/
theorem wrap_ok (contentKey : Bytes) (sender : Option Sender) (fresh : Fresh) {k : Key}
    (h : k.Usable) (nonce : fresh.nonce.length = Cipher.xchacha.nonceLength) :
    ∃ r, wrap contentKey sender fresh k = .ok r := by
  obtain ⟨x, hx, -⟩ := h.agreementBytes
  have known : (if sender.isSome then named else anonymous) = named ∨
      (if sender.isSome then named else anonymous) = anonymous := ite_eq_or_eq _ _ _
  have short (common : Bytes) :=
    fits_of_sized common known (lawful.length_agreementPublic fresh.secret) h.sized
  have fits (key : Bytes) (length : key.length = Cipher.keyLength) :
      Cipher.xchacha.fits key fresh.nonce = true := by
    rw [Cipher.fits, nonce, length]
    rfl
  unfold wrap materialFor
  rw [hx, Outcome.ok_bind]
  dsimp only
  rw [pure_bind, ConcatKdf.Material.key_of_fits (short _), Outcome.ok_bind, Cipher.encrypt,
    if_pos (fits _ (ConcatKdf.length_derive _ _ _ _)), Outcome.ok_bind]
  exact ⟨_, rfl⟩

variable {sender : Option Sender} (own : ∀ s ∈ sender, s.Own)

include own

/-- The header of a wrapped key tells the sender. -/
theorem senderKey_eq {header : RecipientHeader}
    (name : header.sender = sender.map fun s => s.key.base58)
    (alg : header.alg = if sender.isSome then named else anonymous) :
    senderKey header = .ok (sender.map (·.key)) := by
  unfold senderKey
  rw [name, alg]
  cases sender with
  | none => rfl
  | some s =>
    obtain ⟨seed, rfl⟩ := own s rfl
    change some <$> Key.ofBase58 (Wallet.keyOf seed).base58 (Wallet.keyOf seed).kind = _
    rw [Key.ofBase58_base58 (Key.usable_keyOf lawful seed).sized]
    rfl

/-- Whoever unwraps derives the key from the same as whoever wraps, and comes to know the sender. -/
theorem materialOf_eq {seed : Bytes} {fresh : Fresh} {material : ConcatKdf.Material}
    (h : materialFor sender fresh (Wallet.keyOf seed) = .ok material) {header : RecipientHeader}
    (kid : header.kid = (Wallet.keyOf seed).base58)
    (name : header.sender = sender.map fun s => s.key.base58)
    (alg : header.alg = material.algorithm)
    (epk : header.epk = Base64Url.encode (Suite.agreementPublic fresh.secret)) :
    materialOf seed header = .ok (material, sender.map (·.key)) := by
  have usable := Key.usable_keyOf lawful seed
  obtain ⟨x, hx, agreement⟩ := usable.agreementBytes
  have shared := lawful.agree_seed seed fresh.secret x agreement
  have recipient : Key.ofBase58 (Wallet.keyOf seed).base58 .ed25519 = .ok (Wallet.keyOf seed) :=
    Key.ofBase58_base58 usable.sized
  have sized : ¬ (suite.agreementPublic fresh.secret).length ≠ Key.length :=
    not_not_intro (lawful.length_agreementPublic _)
  unfold materialFor at h
  rw [hx, Outcome.ok_bind] at h
  cases h
  unfold materialOf
  simp only [epk, kid, Base64Url.read_encode, Outcome.ok_bind, if_neg sized]
  rw [senderKey_eq lawful own name alg]
  -- what the sender has a part in is the same on both sides
  cases sender with
  | none =>
    simp only [Outcome.ok_bind, Option.map_none, pure_bind, shared, recipient, alg]
    rfl
  | some s =>
    obtain ⟨other, rfl⟩ := own s rfl
    obtain ⟨y, hy, theirs⟩ := (Key.usable_keyOf lawful other).agreementBytes
    have common := lawful.agree_seeds other seed y x theirs agreement
    simp only [Outcome.ok_bind, Option.map_some, pure_bind, hy, shared, ← common, recipient, alg]
    rfl

/-- A wrapped key is unwrapped with the seed of its recipient, and tells the sender. -/
theorem unwrap_wrap {contentKey seed : Bytes} {fresh : Fresh} {r : Recipient}
    (h : wrap contentKey sender fresh (Wallet.keyOf seed) = .ok r) :
    unwrap seed r = .ok (contentKey, sender.map (·.key)) := by
  unfold wrap at h
  obtain ⟨material, hmaterial, h⟩ := Outcome.bind_eq_ok.mp h
  obtain ⟨key, hkey, h⟩ := Outcome.bind_eq_ok.mp h
  obtain ⟨sealed, hsealed, h⟩ := Outcome.bind_eq_ok.mp h
  have opened := Cipher.decrypt_eq lawful hsealed
  rw [← Cipher.splitTag_append sealed] at opened
  dsimp only at h
  generalize Cipher.splitTag sealed = parts at opened h
  obtain ⟨text, tag⟩ := parts
  cases h
  unfold unwrap
  rw [materialOf_eq lawful own hmaterial rfl rfl rfl rfl, Outcome.ok_bind]
  simp only [hkey, Base64Url.read_encode, Outcome.ok_bind, opened]
  rfl

end Wrapping

end Lawful

/-! ## Whole envelopes -/

/-- Whether a wallet has the seed of a key. -/
def Wallet.holds (w : Wallet) (k : Key) : Bool := (w.seed? k.base58).isSome

theorem Wallet.holds_add {w : Wallet} {k : Key} (h : w.holds k = true) (seed : Bytes) :
    (w.add seed).holds k = true := by
  rw [holds, seed?, add, List.lookup_cons]
  split
  · rfl
  · exact h

theorem Wallet.holds_add_self (w : Wallet) (seed : Bytes) :
    (w.add seed).holds (keyOf seed) = true := by
  rw [holds, seed?_add]
  rfl

/-- The content key was wrapped for the keys, for each in its place, and all of them are signing
keys. -/
def Wrapping.For (contentKey : Bytes) (sender : Option Sender) (keys : List Key)
    (recipients : List Recipient) : Prop :=
  List.Forall₂ (fun k r => k.kind = .ed25519 ∧ ∃ fresh, wrap contentKey sender fresh k = .ok r)
    keys recipients

/-- The recipient that counts is that of the first key whose seed is at hand. -/
theorem Wrapping.For.found {contentKey : Bytes} {sender : Option Sender} {keys : List Key}
    {recipients : List Recipient} (h : For contentKey sender keys recipients) (w : Wallet) :
    let found := recipients.findSome? fun r => (w.seed? r.header.kid).map fun seed => (r, seed)
    (∃ r seed fresh, keys.find? w.holds = some (Wallet.keyOf seed) ∧ found = some (r, seed) ∧
      wrap contentKey sender fresh (Wallet.keyOf seed) = .ok r) ∨
    (keys.find? w.holds = none ∧ found = none) := by
  induction h with
  | nil => exact .inr ⟨rfl, rfl⟩
  | @cons k r keys recipients first rest ih =>
    obtain ⟨signs, fresh, wrapped⟩ := first
    dsimp only at ih ⊢
    rw [List.find?_cons, List.findSome?_cons, kid_eq wrapped, Wallet.holds]
    cases hseed : w.seed? k.base58 with
    | none => exact ih
    | some seed =>
      obtain rfl := Wallet.eq_keyOf signs hseed
      exact .inl ⟨r, seed, fresh, rfl, rfl, wrapped⟩

namespace Envelope

variable (lawful : suite.Lawful)

include lawful

/-- An envelope opens with every wallet that has the seed of a recipient, as the first of these, to
the message and the sender it was sealed with. Without such a seed it does not open. -/
theorem openWith_sealContent {cipher : Cipher} {contentKey nonce : Bytes} {keys : List Key}
    {recipients : List Recipient} {sender : Option Sender} {message : Json} {e : Envelope}
    (own : ∀ s ∈ sender, s.Own) (wrapped : Wrapping.For contentKey sender keys recipients)
    (fits : message.fits Json.Source.depthLimit = true)
    (h : sealContent cipher sender.isSome contentKey nonce recipients message = .ok e) (w : Wallet) :
    e.openWith w.seed? = match keys.find? w.holds with
      | some k => .ok ⟨message.sorted, sender.map (·.key), k⟩
      | none => .error (.decryptionFailed "no recipient key present in this wallet") := by
  obtain ⟨bytes, hbytes, hheader⟩ := header_read cipher sender.isSome
  obtain ⟨sealed, hsealed, h⟩ := Outcome.bind_eq_ok.mp h
  have opened := Cipher.decrypt_eq lawful hsealed
  rw [← Cipher.splitTag_append sealed] at opened
  dsimp only at h
  generalize Cipher.splitTag sealed = parts at opened h
  obtain ⟨text, tag⟩ := parts
  obtain rfl := Except.ok.inj h
  unfold openWith
  rw [hbytes, Outcome.ok_bind, hheader, Outcome.ok_bind, Cipher.ofHeader, Cipher.ofName?_name]
  dsimp only
  rw [Outcome.ok_bind]
  rcases wrapped.found w with ⟨r, seed, fresh, hfirst, hfound, hr⟩ | ⟨hfirst, hfound⟩
  · rw [hfirst, hfound]
    dsimp only
    rw [Wrapping.unwrap_wrap lawful own hr, Outcome.ok_bind]
    have same : agrees (if sender.isSome then authenticated else anonymous) (sender.map (·.key))
        = true := by
      rw [agrees_iff, Option.isSome_map]
    have recipient : Key.ofBase58 r.header.kid .ed25519 = .ok (Wallet.keyOf seed) := by
      rw [Wrapping.kid_eq hr]
      exact Key.ofBase58_base58 (Key.usable_keyOf lawful seed).sized
    have plaintext : Error.ofJson (Json.ofBytes message.canonicalBytes) = .ok message.sorted := by
      rw [Json.ofBytes_canonicalBytes fits]
      rfl
    simp only [same, Base64Url.read_encode, Outcome.ok_bind, opened, plaintext, recipient]
    rfl
  · rw [hfirst, hfound]

end Envelope

end Pairwise
