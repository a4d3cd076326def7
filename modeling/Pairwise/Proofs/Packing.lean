import Pairwise.Agent.Envelopes
import Pairwise.Proofs.Sealing
import Pairwise.Proofs.Steps
/-!
# Envelopes on their way

A message that is packed comes to its recipients through the mediators on the way, each of whom opens
one layer.

Results:
* `sealFor_run`: a message is sealed for usable keys, and opens with their seeds.
* `Wallet.peel`: what mediators do with an envelope.
* `pack_run`: a packed message is peeled by the mediators and opened by the recipients.
-/
namespace Pairwise

variable [suite : Suite]

/-- The envelope opens with every wallet that has the seed of one of the keys, as the first of these,
to the message and the sender; with all others it does not open. -/
def Envelope.Holds (e : Envelope) (message : Json) (keys : List Key) (sender : Option Key) : Prop :=
  ∀ w : Wallet, w.unpack e = match keys.find? w.holds with
    | some k => .ok ⟨message.sorted, sender, k⟩
    | none => .error (.decryptionFailed "no recipient key present in this wallet")

/-- The envelope is genuine for a message: whoever opens it reads the message. -/
def Envelope.Genuine (e : Envelope) (m : Message) : Prop :=
  ∀ (w : Wallet) (opened : Opened), w.unpack e = .ok opened →
    Message.ofJson opened.plaintext = .ok m

/-- An envelope that holds a message is genuine for it. -/
theorem Envelope.Holds.genuine {e : Envelope} {m : Message} {keys : List Key} {sender : Option Key}
    (holds : e.Holds m.toJson keys sender) (readable : m.Readable) : e.Genuine m := by
  intro w opened h
  rw [holds w] at h
  split at h
  · cases h
    exact readable.read
  · cases h

/-- The agent afterwards has drawn ids and bytes for single use, and has done nothing else. -/
def Agent.Drawn (a a' : Agent) : Prop :=
  ∃ ids noises, a.draws.ids ≤ ids ∧ a' = { a with draws := { a.draws with ids, noises } }

namespace Agent

theorem Drawn.refl (a : Agent) : Drawn a a := ⟨_, _, Nat.le_refl _, rfl⟩

theorem Drawn.trans {a b c : Agent} (hab : Drawn a b) (hbc : Drawn b c) : Drawn a c := by
  obtain ⟨ids, noises, le, rfl⟩ := hab
  obtain ⟨ids', noises', le', rfl⟩ := hbc
  exact ⟨ids', noises', Nat.le_trans le le', rfl⟩

theorem Drawn.wallet {a a' : Agent} (h : Drawn a a') : a'.wallet = a.wallet := by
  obtain ⟨ids, noises, -, rfl⟩ := h
  rfl

theorem Drawn.connections {a a' : Agent} (h : Drawn a a') : a'.connections = a.connections := by
  obtain ⟨ids, noises, -, rfl⟩ := h
  rfl

theorem Drawn.dids {a a' : Agent} (h : Drawn a a') : a'.dids = a.dids := by
  obtain ⟨ids, noises, -, rfl⟩ := h
  rfl

theorem Drawn.settings {a a' : Agent} (h : Drawn a a') : a'.settings = a.settings := by
  obtain ⟨ids, noises, -, rfl⟩ := h
  rfl

variable [chance : Chance] {a : Agent}

theorem drawId_drawn (a : Agent) : Drawn a (drawId.run a).2 :=
  ⟨a.draws.ids + 1, a.draws.noises, Nat.le_succ _, rfl⟩

theorem drawNoise_drawn (length : Nat) (a : Agent) : Drawn a ((drawNoise length).run a).2 :=
  ⟨a.draws.ids, a.draws.noises + 1, Nat.le_refl _, rfl⟩

theorem drawNoise_run (lawful : chance.Lawful) (length : Nat) (a : Agent) :
    ∃ bytes a', (drawNoise length).run a = (.ok bytes, a') ∧ Drawn a a' ∧ bytes.length = length :=
  ⟨_, _, rfl, drawNoise_drawn length a, lawful.length_noise _ _⟩

/-! ## Sealing -/

theorem wrapFor_run (lawful : suite.Lawful) (drawn : chance.Lawful) (contentKey : Bytes)
    (sender : Option Sender) {keys : List Key} (usable : ∀ k ∈ keys, k.Usable) (a : Agent) :
    ∃ recipients a', (wrapFor contentKey sender keys).run a = (.ok recipients, a') ∧ Drawn a a' ∧
      Wrapping.For contentKey sender keys recipients := by
  induction keys generalizing a with
  | nil => exact ⟨[], a, rfl, .refl a, .nil⟩
  | cons k keys ih =>
    obtain ⟨hk, hkeys⟩ := List.forall_mem_cons.mp usable
    obtain ⟨secret, a₁, hsecret, d₁, -⟩ := drawNoise_run drawn Key.length a
    obtain ⟨nonce, a₂, hnonce, d₂, length⟩ := drawNoise_run drawn Cipher.xchacha.nonceLength a₁
    obtain ⟨r, hr⟩ := Wrapping.wrap_ok lawful contentKey sender ⟨secret, nonce⟩ hk length
    obtain ⟨recipients, a₃, hrest, d₃, wrapped⟩ := ih hkeys a₂
    refine ⟨r :: recipients, a₃, ?_, d₁.trans (d₂.trans d₃), .cons ⟨hk.signs, _, hr⟩ wrapped⟩
    rw [wrapFor, Step.bind_ok hsecret, Step.bind_ok hnonce, Step.bind_lift hr, Step.bind_ok hrest]
    rfl

section Sealing

variable (lawful : suite.Lawful) (drawn : chance.Lawful) {message : Json}
  (fits : message.fits Json.Source.depthLimit = true) {keys : List Key}
  (usable : ∀ k ∈ keys, k.Usable)

include lawful drawn fits usable

/-- The part of sealing that is the same with and without a sender. -/
theorem sealContent_run (sender : Option Sender) (own : ∀ s ∈ sender, s.Own) (cipher : Cipher)
    (a : Agent) :
    ∃ e a', Step.run (do
        let contentKey ← drawNoise Cipher.keyLength
        let recipients ← wrapFor contentKey sender keys
        let nonce ← drawNoise cipher.nonceLength
        Envelope.sealContent cipher sender.isSome contentKey nonce recipients message) a
      = (.ok e, a') ∧ Drawn a a' ∧ e.Holds message keys (sender.map (·.key)) := by
  obtain ⟨contentKey, a₁, hkey, d₁, keyLength⟩ := drawNoise_run drawn Cipher.keyLength a
  obtain ⟨recipients, a₂, hrecipients, d₂, wrapped⟩ :=
    wrapFor_run lawful drawn contentKey sender usable a₁
  obtain ⟨nonce, a₃, hnonce, d₃, nonceLength⟩ := drawNoise_run drawn cipher.nonceLength a₂
  have fit : cipher.fits contentKey nonce = true := by
    rw [Cipher.fits, keyLength, nonceLength, decide_eq_true rfl, decide_eq_true rfl]
    rfl
  obtain ⟨e, he⟩ : ∃ e, Envelope.sealContent cipher sender.isSome contentKey nonce recipients message
      = .ok e := by
    rw [Envelope.sealContent, Cipher.encrypt, if_pos fit]
    exact ⟨_, rfl⟩
  refine ⟨e, a₃, ?_, d₁.trans (d₂.trans d₃), ?_⟩
  · rw [Step.bind_ok hkey, Step.bind_ok hrecipients, Step.bind_ok hnonce, Step.run_lift, he]
  · exact Envelope.openWith_sealContent lawful own wrapped fits he

theorem sealFor_run (some : keys ≠ []) (sender : Option Key)
    (held : ∀ k ∈ sender, k.kind = .ed25519 ∧ a.wallet.holds k = true) :
    ∃ e a', (sealFor message keys sender).run a = (.ok e, a') ∧ Drawn a a' ∧
      e.Holds message keys sender := by
  have nonempty : ¬ keys.isEmpty = true := fun h => some (List.isEmpty_iff.mp h)
  unfold sealFor
  rw [if_neg nonempty, Step.bind_view]
  cases sender with
  | none => exact sealContent_run lawful drawn fits usable none nofun a.wallet.cipher a
  | some k =>
    obtain ⟨signs, holds⟩ := held k rfl
    obtain ⟨seed, hseed⟩ := Option.isSome_iff_exists.mp holds
    obtain rfl := Wallet.eq_keyOf signs hseed
    have hs : a.wallet.sender (Wallet.keyOf seed)
        = .ok ⟨Wallet.keyOf seed, suite.agreementSecret seed⟩ := by
      rw [Wallet.sender, Wallet.seedOf, hseed]
      rfl
    rw [Step.bind_lift hs]
    exact sealContent_run lawful drawn fits usable (Option.some _) (fun s hs =>
      ⟨seed, (Option.mem_some_iff.mp hs).symm⟩) a.wallet.cipher a

end Sealing

end Agent

/-! ## Mediators -/

namespace Wallet

/-- What a mediator does with an envelope: it opens a layer for one of its keys, and gives what is to
be passed on, and to whom. -/
def passOn (w : Wallet) (e : Envelope) : Except Error Forward := do
  let opened ← w.unpack e
  match ← Message.ofJson opened.plaintext with
  | .forward m => return m
  | m => .error (.unsupportedMessage m.kind.uri)

/-- What is left of an envelope when several mediators have opened a layer each. -/
def peel (w : Wallet) (e : Envelope) : Nat → Except Error Envelope
  | 0 => return e
  | n + 1 => do return (← w.passOn (← w.peel e n)).msg

theorem passOn_eq {w : Wallet} {e : Envelope} {m : Forward} (kind : m.kind = .forward) {k : Key}
    {sender : Option Key} (holds : e.Holds m.toJson [k] sender) (held : w.holds k = true) :
    w.passOn e = .ok m := by
  have opened := holds w
  rw [List.find?_cons, held] at opened
  rw [passOn, opened]
  change (do
    match ← Message.ofJson (Message.forward m).toJson.sorted with
    | .forward m => return m
    | m => .error (.unsupportedMessage m.kind.uri)) = _
  rw [(Forward.readable kind).read]
  rfl

end Wallet

namespace Agent

variable [chance : Chance] (lawful : suite.Lawful) (drawn : chance.Lawful)

include lawful drawn

/-- The first mediator's layer is sealed around an envelope that is handed to mediators, and goes on
to the others. -/
theorem forward_cons {k : Key} (usable : k.Usable) (target : String) (e : Envelope)
    (routing : List Key) (a : Agent) :
    ∃ (m : Forward) (layer : Envelope) (a₁ : Agent), m.kind = .forward ∧ m.target = target ∧
      m.msg = e ∧ (sealFor m.toJson [k] none).run (drawId.run a).2 = (.ok layer, a₁) ∧
      layer.Holds m.toJson [k] none ∧ Drawn a a₁ ∧
      (forward target e (k :: routing)).run a = (forward k.base58 layer routing).run a₁ := by
  let m : Forward := { id := chance.uuid a.draws.ids, target, msg := e }
  have readable : (Message.forward m).Readable := Forward.readable rfl
  obtain ⟨layer, a₁, hlayer, d₁, holds⟩ := sealFor_run (a := (drawId.run a).2) lawful drawn
    readable.fits (List.forall_mem_singleton.mpr usable) (List.cons_ne_nil _ _) none nofun
  refine ⟨m, layer, a₁, rfl, rfl, rfl, hlayer, holds, (drawId_drawn a).trans d₁, ?_⟩
  have first : drawId.run a = (.ok m.id, (drawId.run a).2) := rfl
  rw [forward, Step.bind_ok first]
  exact Step.bind_ok hlayer

/-- What was handed to mediators is what is left when they have opened their layers. -/
theorem forward_run {routing : List Key} (usable : ∀ k ∈ routing, k.Usable) (target : String)
    (e : Envelope) (a : Agent) :
    ∃ outer a', (forward target e routing).run a = (.ok outer, a') ∧ Drawn a a' ∧
      ∀ w : Wallet, (∀ k ∈ routing, w.holds k = true) → w.peel outer routing.length = .ok e := by
  induction routing generalizing target e a with
  | nil => exact ⟨e, a, rfl, .refl a, fun _ _ => rfl⟩
  | cons k routing ih =>
    obtain ⟨hk, hrouting⟩ := List.forall_mem_cons.mp usable
    obtain ⟨m, layer, a₁, kind, -, inside, -, holds, d₁, goes⟩ :=
      forward_cons lawful drawn hk target e routing a
    obtain ⟨outer, a₂, houter, d₂, peeled⟩ := ih hrouting k.base58 layer a₁
    refine ⟨outer, a₂, goes.trans houter, d₁.trans d₂, fun w held => ?_⟩
    obtain ⟨heldk, heldrouting⟩ := List.forall_mem_cons.mp held
    rw [List.length_cons, Wallet.peel, peeled w heldrouting, Outcome.ok_bind,
      Wallet.passOn_eq kind holds heldk, ← inside]
    rfl

/-- A message that is packed comes through the mediators as an envelope for the recipients. -/
theorem pack_run {message : Json} (fits : message.fits Json.Source.depthLimit = true) {d : Delivery}
    (form : d.form = .enciphered) (some : d.recipients ≠ []) (usable : ∀ k ∈ d.recipients, k.Usable)
    (routing : ∀ k ∈ d.routing, k.Usable) {a : Agent}
    (held : ∀ k ∈ d.sender, k.kind = .ed25519 ∧ a.wallet.holds k = true) :
    ∃ outer e a', (pack message d).run a = (.ok outer, a') ∧ Drawn a a' ∧
      e.Holds message d.recipients d.sender ∧
      ∀ w : Wallet, (∀ k ∈ d.routing, w.holds k = true) →
        w.peel outer d.routing.length = .ok e := by
  obtain ⟨first, rest, hd⟩ := List.exists_cons_of_ne_nil some
  obtain ⟨e, a₁, he, d₁, holds⟩ := sealFor_run lawful drawn fits usable some d.sender held
  obtain ⟨outer, a₂, houter, d₂, peeled⟩ := forward_run lawful drawn routing first.base58 e a₁
  refine ⟨outer, e, a₂, ?_, d₁.trans d₂, holds, peeled⟩
  rw [pack, form, hd]
  dsimp only
  rw [← hd, Step.bind_ok he, houter]

end Agent

end Pairwise
