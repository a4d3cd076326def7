import Pairwise.Proofs.Sealing
/-!
# In whose name an envelope opens

Three texts of an envelope tell about its sender: the form that its header names, the way in which the
entry of a recipient was wrapped, and the sender that the entry names. Whoever made the envelope has
chosen all of them. It opens only if they agree, and in the name of a key only if that key has a part in
what the content key was wrapped under.

Results:
* `Wrapping.Accounts`: how an entry accounts for its sender.
* `Wrapping.materialOf_eq_ok_iff`: what the key of an entry is derived from.
* `Wrapping.unwrap_eq_ok_iff`: what an entry is unwrapped from, and in whose name.
* `Envelope.openWith_eq_ok_iff`: the entry of an envelope that counts, and what is compared with it.
* `Wallet.unpack_eq_ok_iff`: what is read, compared and opened on the way to the message of an envelope.
-/
namespace Pairwise

/-- What is found first, along with what it is taken for, is found first and is taken for that. -/
theorem findSome?_pair_eq_some_iff {α β : Type} {f : α → Option β} {xs : List α} {x : α} {y : β} :
    (xs.findSome? fun x => (f x).map fun y => (x, y)) = some (x, y) ↔
      (xs.find? fun x => (f x).isSome) = some x ∧ f x = some y := by
  induction xs with
  | nil => exact ⟨nofun, fun h => nomatch h.1⟩
  | cons first rest ih =>
    rw [List.findSome?_cons, List.find?_cons]
    cases taken : f first with
    | none => exact ih
    | some z =>
      constructor
      · rintro ⟨⟩
        exact ⟨rfl, taken⟩
      · rintro ⟨⟨⟩, same⟩
        rw [taken] at same
        cases same
        rfl

theorem Cipher.ofHeader_eq_ok {name : String} {c : Cipher} :
    ofHeader name = .ok c ↔ ofName? name = some c := by
  unfold ofHeader
  split
  · next h => rw [h, Except.ok.injEq, Option.some.injEq]
  · next h =>
    rw [h]
    exact ⟨nofun, nofun⟩

theorem Wrapping.senderKey_eq_ok_iff {header : RecipientHeader} {sender : Option Key} :
    senderKey header = .ok sender ↔
      (∃ text s, header.alg = named ∧ header.sender = some text ∧
        Key.ofBase58 text .ed25519 = .ok s ∧ sender = some s) ∨
      (header.alg = anonymous ∧ header.sender = none ∧ sender = none) := by
  unfold senderKey
  constructor
  · intro h
    split at h
    · next text name =>
      split at h
      · next alg =>
        rw [map_eq_pure_bind] at h
        obtain ⟨s, hs, h⟩ := Outcome.bind_eq_ok.mp h
        cases h
        exact .inl ⟨text, s, alg, name, hs, rfl⟩
      · cases h
    · next name =>
      split at h
      · next alg =>
        cases h
        exact .inr ⟨alg, name, rfl⟩
      · cases h
  · rintro (⟨text, s, alg, name, hs, rfl⟩ | ⟨alg, name, rfl⟩)
    · rw [name]
      dsimp only
      rw [if_pos alg, hs]
      rfl
    · rw [name]
      exact if_pos alg

variable [suite : Suite]

/-- Nonce, ciphertext and tag are texts in base 64, and open to a text under a key. -/
def Cipher.Opens (c : Cipher) (key aad : Bytes) (iv ciphertext tag : String) (text : Bytes) : Prop :=
  ∃ nonce sealed checked, Base64Url.read iv = .ok nonce ∧ Base64Url.read ciphertext = .ok sealed ∧
    Base64Url.read tag = .ok checked ∧ c.decrypt key nonce aad (sealed ++ checked) = .ok text

namespace Wrapping

/-! ## Entries -/

/-- How an entry accounts for its sender towards the owner of a secret: the form of the envelopes that it
belongs in, the sender, and what the two sides have in common. The fresh key of the entry has a part in
this in any case; the key of the sender has one if the entry was wrapped in its name. -/
inductive Accounts (ours epk : Bytes) (header : RecipientHeader) : String → Option Key → Bytes → Prop
  | named {text : String} {s : Key} {theirs : Bytes} :
    header.alg = named → header.sender = some text → Key.ofBase58 text .ed25519 = .ok s →
    s.agreementBytes = .ok theirs →
    Accounts ours epk header Envelope.authenticated (some s)
      (Suite.agree ours epk ++ Suite.agree ours theirs)
  | anonymous : header.alg = anonymous → header.sender = none →
    Accounts ours epk header Envelope.anonymous none (Suite.agree ours epk)

/-- The form that an entry belongs in tells whether there is a sender. -/
theorem Accounts.form {ours epk common : Bytes} {header : RecipientHeader} {form : String}
    {sender : Option Key} (h : Accounts ours epk header form sender common) (alg : String) :
    Envelope.agrees alg sender = true ↔ alg = form := by
  rw [Envelope.agrees_iff]
  cases h <;> rfl

/-- What the key of an entry is derived from is come by exactly if the entry accounts for its sender. -/
theorem materialOf_eq_ok_iff {seed : Bytes} {header : RecipientHeader} {material : ConcatKdf.Material}
    {sender : Option Key} :
    materialOf seed header = .ok (material, sender) ↔ ∃ epk form common recipient,
      Base64Url.read header.epk = .ok epk ∧ epk.length = Key.length ∧
      Accounts (Suite.agreementSecret seed) epk header form sender common ∧
      Key.ofBase58 header.kid .ed25519 = .ok recipient ∧
      material = ⟨common, header.alg, some epk, some recipient.bytes⟩ := by
  unfold materialOf
  constructor
  · intro h
    dsimp only at h
    obtain ⟨epk, hepk, h⟩ := Outcome.bind_eq_ok.mp h
    split at h
    · cases h
    next sized =>
      obtain ⟨sender', hsender, h⟩ := Outcome.bind_eq_ok.mp h
      rcases senderKey_eq_ok_iff.mp hsender with ⟨text, s, alg, name, hs, rfl⟩ | ⟨alg, name, rfl⟩
      · obtain ⟨theirs, htheirs, h⟩ := Outcome.bind_eq_ok.mp h
        rw [pure_bind] at h
        obtain ⟨recipient, hrecipient, h⟩ := Outcome.bind_eq_ok.mp h
        cases h
        exact ⟨epk, _, _, recipient, hepk, not_not.mp sized, .named alg name hs htheirs, hrecipient, rfl⟩
      · dsimp only at h
        rw [pure_bind, List.append_nil] at h
        obtain ⟨recipient, hrecipient, h⟩ := Outcome.bind_eq_ok.mp h
        cases h
        exact ⟨epk, _, _, recipient, hepk, not_not.mp sized, .anonymous alg name, hrecipient, rfl⟩
  · rintro ⟨epk, form, common, recipient, hepk, sized, accounts, hrecipient, rfl⟩
    dsimp only
    rw [hepk, Outcome.ok_bind, if_neg (not_not_intro sized)]
    cases accounts with
    | named alg name hs htheirs =>
      rw [senderKey_eq_ok_iff.mpr (.inl ⟨_, _, alg, name, hs, rfl⟩), Outcome.ok_bind]
      dsimp only
      rw [htheirs, Outcome.ok_bind, pure_bind, hrecipient]
      rfl
    | anonymous alg name =>
      rw [senderKey_eq_ok_iff.mpr (.inr ⟨alg, name, rfl⟩), Outcome.ok_bind]
      dsimp only
      rw [pure_bind, List.append_nil, hrecipient]
      rfl

/-- The way in which an entry that accounts for its sender was wrapped has a name. -/
theorem Accounts.known {ours epk common : Bytes} {header : RecipientHeader} {form : String}
    {sender : Option Key} (h : Accounts ours epk header form sender common) :
    header.alg = Wrapping.named ∨ header.alg = Wrapping.anonymous := by
  cases h with
  | named alg => exact .inl alg
  | anonymous alg => exact .inr alg

/-- An entry is unwrapped exactly if it accounts for its sender and opens under what the two sides have in
common then. -/
theorem unwrap_eq_ok_iff {seed contentKey : Bytes} {r : Recipient} {sender : Option Key} :
    unwrap seed r = .ok (contentKey, sender) ↔ ∃ epk form common recipient,
      Base64Url.read r.header.epk = .ok epk ∧ epk.length = Key.length ∧
      Accounts (Suite.agreementSecret seed) epk r.header form sender common ∧
      Key.ofBase58 r.header.kid .ed25519 = .ok recipient ∧
      Cipher.xchacha.Opens (ConcatKdf.derive common r.header.alg epk recipient.bytes) []
        r.header.iv r.encryptedKey r.header.tag contentKey := by
  unfold unwrap
  constructor
  · intro h
    obtain ⟨⟨material, sender'⟩, hmaterial, h⟩ := Outcome.bind_eq_ok.mp h
    obtain ⟨epk, form, common, recipient, hepk, sized, accounts, hrecipient, rfl⟩ :=
      materialOf_eq_ok_iff.mp hmaterial
    have fits := fits_of_sized common accounts.known sized (Key.sized_of_ofBase58 hrecipient)
    dsimp only at h
    rw [ConcatKdf.Material.key_of_fits fits, Outcome.ok_bind] at h
    simp only [Outcome.bind_eq_ok] at h
    obtain ⟨text, htext, tag, htag, nonce, hnonce, content, opened, same⟩ := h
    cases same
    exact ⟨epk, form, common, recipient, hepk, sized, accounts, hrecipient,
      nonce, text, tag, hnonce, htext, htag, opened⟩
  · rintro ⟨epk, form, common, recipient, hepk, sized, accounts, hrecipient,
      nonce, text, tag, hnonce, htext, htag, opened⟩
    have fits := fits_of_sized common accounts.known sized (Key.sized_of_ofBase58 hrecipient)
    rw [materialOf_eq_ok_iff.mpr ⟨epk, form, common, recipient, hepk, sized, accounts, hrecipient, rfl⟩,
      Outcome.ok_bind]
    simp only [ConcatKdf.Material.key_of_fits fits, Outcome.ok_bind, htext, htag, hnonce, opened]
    rfl

end Wrapping

/-! ## Envelopes -/

/-- An envelope opens exactly if its header can be read, the first entry that names a key at hand is
unwrapped and agrees with the header, and the content opens under what the entry held. -/
theorem Envelope.openWith_eq_ok_iff {seed? : String → Option Bytes} {e : Envelope} {opened : Opened} :
    e.openWith seed? = .ok opened ↔ ∃ bytes header cipher entry seed contentKey content,
      Base64Url.read e.header = .ok bytes ∧
      Error.ofJson (Json.Reader.ofBytes EnvelopeHeader.reader.read bytes) = .ok header ∧
      Cipher.ofName? header.enc = some cipher ∧
      (e.recipients.find? fun r => (seed? r.header.kid).isSome) = some entry ∧
      seed? entry.header.kid = some seed ∧
      Wrapping.unwrap seed entry = .ok (contentKey, opened.sender) ∧
      agrees header.alg opened.sender = true ∧
      cipher.Opens contentKey (Utf8.ofString e.header) e.iv e.ciphertext e.tag content ∧
      Error.ofJson (Json.ofBytes content) = .ok opened.plaintext ∧
      Key.ofBase58 entry.header.kid .ed25519 = .ok opened.recipient := by
  unfold openWith
  constructor
  · intro h
    obtain ⟨bytes, hbytes, h⟩ := Outcome.bind_eq_ok.mp h
    obtain ⟨header, hheader, h⟩ := Outcome.bind_eq_ok.mp h
    obtain ⟨cipher, hcipher, h⟩ := Outcome.bind_eq_ok.mp h
    dsimp only at h
    split at h
    · cases h
    next entry seed found =>
    obtain ⟨⟨contentKey, sender⟩, unwraps, h⟩ := Outcome.bind_eq_ok.mp h
    obtain ⟨first, held⟩ := findSome?_pair_eq_some_iff.mp found
    split at h
    · obtain ⟨_, herror, -⟩ := Outcome.bind_eq_ok.mp h
      cases herror
    next agree =>
    simp only [Outcome.bind_eq_ok] at h
    obtain ⟨text, htext, tag, htag, nonce, hnonce, content, opens, plaintext, message, recipient,
      hrecipient, h⟩ := h
    cases h
    exact ⟨bytes, header, cipher, entry, seed, contentKey, content, hbytes, hheader,
      Cipher.ofHeader_eq_ok.mp hcipher, first, held, unwraps, by simpa using agree,
      ⟨nonce, text, tag, hnonce, htext, htag, opens⟩, message, hrecipient⟩
  · rintro ⟨bytes, header, cipher, entry, seed, contentKey, content, hbytes, hheader, hcipher, first,
      held, unwraps, agree, ⟨nonce, text, tag, hnonce, htext, htag, opens⟩, message, hrecipient⟩
    rw [hbytes, Outcome.ok_bind, hheader, Outcome.ok_bind, Cipher.ofHeader_eq_ok.mpr hcipher,
      Outcome.ok_bind]
    dsimp only
    rw [findSome?_pair_eq_some_iff.mpr ⟨first, held⟩]
    dsimp only
    rw [unwraps, Outcome.ok_bind]
    simp only [agree, htext, htag, hnonce, opens, message, hrecipient, Outcome.ok_bind]
    rfl

/-- What is come by on the way to the message of an envelope. -/
structure Opening where
  header : EnvelopeHeader
  cipher : Cipher
  entry : Recipient
  seed : Bytes
  epk : Bytes
  common : Bytes
  contentKey : Bytes
  content : Bytes

/-- A wallet opens an envelope in this way. The entry is the first one that names a key of the wallet. Its
sender is that of the opened envelope; the header of the envelope says the same about it, and the content
opens under the content key of the entry only along with that header. -/
structure Opening.Of (o : Opening) (w : Wallet) (e : Envelope) (opened : Opened) : Prop where
  header : ∃ bytes, Base64Url.read e.header = .ok bytes ∧
    Error.ofJson (Json.Reader.ofBytes EnvelopeHeader.reader.read bytes) = .ok o.header
  cipher : Cipher.ofName? o.header.enc = some o.cipher
  entry : (e.recipients.find? fun r => (w.seed? r.header.kid).isSome) = some o.entry
  seed : w.seed? o.entry.header.kid = some o.seed
  recipient : Key.ofBase58 o.entry.header.kid .ed25519 = .ok opened.recipient
  epk : Base64Url.read o.entry.header.epk = .ok o.epk ∧ o.epk.length = Key.length
  accounts : Wrapping.Accounts (Suite.agreementSecret o.seed) o.epk o.entry.header o.header.alg
    opened.sender o.common
  unwraps : Cipher.xchacha.Opens
    (ConcatKdf.derive o.common o.entry.header.alg o.epk opened.recipient.bytes) []
    o.entry.header.iv o.entry.encryptedKey o.entry.header.tag o.contentKey
  opens : o.cipher.Opens o.contentKey (Utf8.ofString e.header) e.iv e.ciphertext e.tag o.content
  message : Error.ofJson (Json.ofBytes o.content) = .ok opened.plaintext

/-- A wallet opens an envelope, forged ones included, only as the first entry that names one of its keys,
and only if the envelope accounts for its sender: it names one if the header says so, the entry was
wrapped so, and the content key opened under what the wallet has in common with both the fresh key and
the key of the sender; it names none if the header says so, the entry was wrapped so and names no sender
either. -/
theorem Wallet.unpack_eq_ok_iff {w : Wallet} {e : Envelope} {opened : Opened} :
    w.unpack e = .ok opened ↔ ∃ o : Opening, o.Of w e opened := by
  rw [unpack, Envelope.openWith_eq_ok_iff]
  constructor
  · rintro ⟨bytes, header, cipher, entry, seed, contentKey, content, hbytes, hheader, hcipher, first,
      held, unwraps, agree, opens, message, hrecipient⟩
    obtain ⟨epk, form, common, recipient, hepk, sized, accounts, hrecipient', wrapped⟩ :=
      Wrapping.unwrap_eq_ok_iff.mp unwraps
    cases hrecipient.symm.trans hrecipient'
    obtain rfl := (accounts.form header.alg).mp agree
    exact ⟨⟨header, cipher, entry, seed, epk, common, contentKey, content⟩, ⟨bytes, hbytes, hheader⟩,
      hcipher, first, held, hrecipient, ⟨hepk, sized⟩, accounts, wrapped, opens, message⟩
  · rintro ⟨o, of⟩
    obtain ⟨bytes, hbytes, hheader⟩ := of.header
    have unwraps := Wrapping.unwrap_eq_ok_iff.mpr
      ⟨o.epk, _, o.common, _, of.epk.1, of.epk.2, of.accounts, of.recipient, of.unwraps⟩
    have agree := (of.accounts.form o.header.alg).mpr rfl
    exact ⟨bytes, o.header, o.cipher, o.entry, o.seed, o.contentKey, o.content, hbytes, hheader,
      of.cipher, of.entry, of.seed, unwraps, agree, of.opens, of.message, of.recipient⟩

end Pairwise
