import Pairwise.Proofs.Completion
/-!
# Envelopes within envelopes

A message that goes through mediators is sealed for its recipients, and around that there is one layer
for every mediator. A layer is addressed to its mediator alone, and tells it only where the envelope
inside goes next.

Results:
* `sealFor_kids`: a sealed envelope names the keys that it was sealed for.
* `Envelope.Delivers`, `Envelope.Forwards`: what an envelope is to the keys that it is addressed to,
  and to everybody else.
* `forward_layers`: the layers around an envelope that is handed to mediators.
* `pack_layers`: every message that can be written is packed, and what each key opens then.
-/
namespace Pairwise

section Layers

variable [suite : Suite]

/-! ## What an envelope is to others -/

namespace Envelope

/-- The envelope is addressed to the keys. It opens for each of them, to the message with its members in
order and the sender, and for nobody else. -/
structure Delivers (e : Envelope) (message : Json) (keys : List Key) (sender : Option Key) : Prop where
  kids : e.kids = keys.map (·.base58)
  opens : ∀ a : Agent, ∀ k ∈ keys, a.wallet.holds k = true →
    ∃ k' ∈ keys, a.wallet.holds k' = true ∧ a.unpack e = .ok ⟨message.sorted, sender, k'⟩
  closed : ∀ a : Agent, (∀ k ∈ keys, a.wallet.holds k = false) →
    ∃ why, a.unpack e = .error (.decryptionFailed why)

/-- The envelope is addressed to a mediator. It opens for the mediator, to a forward message without a
sender that holds the envelope inside and the key that this goes to, and for nobody else. -/
structure Forwards (e : Envelope) (mediator target : Key) (inside : Envelope) : Prop where
  kids : e.kids = [mediator.base58]
  opens : ∀ a : Agent, a.wallet.holds mediator = true →
    ∃ opened m, a.unpack e = .ok opened ∧ opened.sender = none ∧ opened.recipient = mediator ∧
      Message.ofJson opened.plaintext = .ok (.forward m) ∧ m.target = target.base58 ∧ m.msg = inside
  closed : ∀ a : Agent, a.wallet.holds mediator = false →
    ∃ why, a.unpack e = .error (.decryptionFailed why)

variable {e inside : Envelope} {message : Json} {keys : List Key} {sender : Option Key}

/-- An envelope that holds a message for the keys that it names is delivered to them. -/
theorem Holds.delivers (holds : e.Holds message keys sender) (kids : e.kids = keys.map (·.base58)) :
    e.Delivers message keys sender where
  kids := kids
  opens a k mem held := by
    obtain ⟨k', found⟩ := Option.isSome_iff_exists.mp (List.find?_isSome.mpr ⟨k, mem, held⟩)
    refine ⟨k', List.mem_of_find?_eq_some found, List.find?_some found, ?_⟩
    have opened := holds a.wallet
    rw [found] at opened
    rw [Agent.unpack, opened]
    rfl
  closed a none := by
    refine ⟨"no recipient key present in this wallet", ?_⟩
    have unfound : keys.find? a.wallet.holds = .none :=
      List.find?_eq_none.mpr fun k mem => Bool.eq_false_iff.mp (none k mem)
    have closed := holds a.wallet
    rw [unfound] at closed
    rw [Agent.unpack, closed]
    rfl

/-- A forward message that is delivered to a mediator is forwarded by it. -/
theorem Delivers.forwards {m : Forward} {mediator target : Key} (kind : m.kind = .forward)
    (goes : m.target = target.base58) (holds : m.msg = inside)
    (delivers : e.Delivers m.toJson [mediator] none) : e.Forwards mediator target inside where
  kids := delivers.kids
  opens a held := by
    obtain ⟨k, mem, -, opened⟩ := delivers.opens a mediator List.mem_cons_self held
    exact ⟨_, m, opened, rfl, List.mem_singleton.mp mem, (Forward.readable kind).read, goes, holds⟩
  closed a unheld := delivers.closed a (List.forall_mem_singleton.mpr unheld)

end Envelope

namespace Agent

variable [chance : Chance]

/-! ## Whom an envelope names -/

theorem wrapFor_kids {contentKey : Bytes} {sender : Option Sender} {keys : List Key}
    {recipients : List Recipient} {a a' : Agent}
    (h : (wrapFor contentKey sender keys).run a = (.ok recipients, a')) :
    recipients.map (·.header.kid) = keys.map (·.base58) := by
  induction keys generalizing recipients a a' with
  | nil =>
    obtain ⟨rfl, -⟩ := Step.pure_run_ok.mp h
    rfl
  | cons k keys ih =>
    simp only [wrapFor, Step.bind_run_ok, Step.lift_run_ok, Step.pure_run_ok] at h
    obtain ⟨_, _, -, _, _, -, r, _, ⟨wrapped, -⟩, rest, _, hrest, rfl, -⟩ := h
    rw [List.map_cons, List.map_cons, ih hrest, Wrapping.kid_eq wrapped]

/-- The part of sealing that is the same with and without a sender. -/
theorem sealContent_kids {message : Json} {keys : List Key} {cipher : Cipher} {e : Envelope}
    {a a' : Agent} (sender : Option Sender)
    (h : Step.run (do
        let contentKey ← drawNoise Cipher.keyLength
        let recipients ← wrapFor contentKey sender keys
        let nonce ← drawNoise cipher.nonceLength
        Envelope.sealContent cipher sender.isSome contentKey nonce recipients message) a
      = (.ok e, a')) : e.kids = keys.map (·.base58) := by
  simp only [Step.bind_run_ok, Step.lift_run_ok] at h
  obtain ⟨contentKey, _, -, recipients, _, hwrap, nonce, _, -, made, -⟩ := h
  obtain ⟨content, -, made⟩ := Outcome.bind_eq_ok.mp made
  have listed : recipients = e.recipients := congrArg Envelope.recipients (Except.ok.inj made)
  rw [Envelope.kids, ← listed]
  exact wrapFor_kids hwrap

/-- An envelope names the keys that it was sealed for, in their order. -/
theorem sealFor_kids {message : Json} {keys : List Key} {sender : Option Key} {e : Envelope}
    {a a' : Agent} (h : (sealFor message keys sender).run a = (.ok e, a')) :
    e.kids = keys.map (·.base58) := by
  unfold sealFor at h
  split at h
  · cases h
  rw [Step.bind_view] at h
  cases sender with
  | none => exact sealContent_kids none h
  | some k =>
    obtain ⟨own, _, -, h⟩ := Step.bind_run_ok.mp h
    exact sealContent_kids (some own) h

/-! ## Layer upon layer -/

section Run

variable (lawful : suite.Lawful) (drawn : chance.Lawful)

include lawful drawn

/-- An envelope for a key is handed to mediators in layers. The first layer around it tells its key,
and every other layer the mediator of the layer inside. -/
theorem forward_layers {routing : List Key} (usable : ∀ k ∈ routing, k.Usable) (target : Key)
    (e : Envelope) (a : Agent) :
    ∃ (outer : Envelope) (a' : Agent) (layer : Nat → Envelope),
      (forward target.base58 e routing).run a = (.ok outer, a') ∧
      layer 0 = e ∧ layer routing.length = outer ∧
      ∀ i (h : i < routing.length), (layer (i + 1)).Forwards routing[i]
        ((target :: routing).get ⟨i, Nat.lt_succ_of_lt h⟩) (layer i) := by
  induction routing generalizing target e a with
  | nil => exact ⟨e, a, fun _ => e, rfl, rfl, rfl, fun i h => absurd h (Nat.not_lt_zero i)⟩
  | cons k routing ih =>
    obtain ⟨hk, hrouting⟩ := List.forall_mem_cons.mp usable
    obtain ⟨m, first, a₁, kind, goesTo, inside, hseal, holds, -, goes⟩ :=
      forward_cons lawful drawn hk target.base58 e routing a
    have delivers := holds.delivers (sealFor_kids hseal)
    obtain ⟨outer, a₂, layer, houter, inner, last, forwards⟩ := ih hrouting k first a₁
    refine ⟨outer, a₂, fun i => i.casesOn e layer, goes.trans houter, rfl, last, fun i h => ?_⟩
    cases i with
    | zero =>
      change (layer 0).Forwards k target e
      rw [inner]
      exact delivers.forwards kind goesTo inside
    | succ i => exact forwards i (Nat.lt_of_succ_lt_succ h)

/-- Every message with whole numbers of 64 bits that is not nested too deeply is packed for any usable
recipients and mediators, in the name of any key of the wallet or of nobody. What comes of it is
addressed to the last mediator, and opens layer by layer, each for its mediator alone, down to the
envelope that delivers the message to the recipients. -/
theorem pack_layers {message : Json} (fits : message.fits Json.Source.depthLimit = true)
    {first : Key} {rest routing : List Key} {sender : Option Key}
    (usable : ∀ k ∈ first :: rest, k.Usable) (mediators : ∀ k ∈ routing, k.Usable) {a : Agent}
    (held : ∀ k ∈ sender, k.kind = .ed25519 ∧ a.wallet.holds k = true) :
    ∃ (outer : Envelope) (a' : Agent) (layer : Nat → Envelope),
      (pack message { recipients := first :: rest, routing, sender }).run a = (.ok outer, a') ∧
      layer routing.length = outer ∧ (layer 0).Delivers message (first :: rest) sender ∧
      ∀ i (h : i < routing.length), (layer (i + 1)).Forwards routing[i]
        ((first :: routing).get ⟨i, Nat.lt_succ_of_lt h⟩) (layer i) := by
  obtain ⟨e, a₁, hseal, -, holds⟩ :=
    sealFor_run lawful drawn fits usable (List.cons_ne_nil _ _) sender held
  obtain ⟨outer, a₂, layer, houter, inner, last, forwards⟩ :=
    forward_layers lawful drawn mediators first e a₁
  refine ⟨outer, a₂, layer, ?_, last, inner ▸ holds.delivers (sealFor_kids hseal), forwards⟩
  rw [pack]
  exact (Step.bind_ok hseal).trans houter

end Run

end Agent

end Layers

/-! ## Three mediators -/

section Plain

attribute [local instance] Suite.plain Chance.counting

namespace Agent

/-- A message for two recipients goes through three mediators, in the name of its sender: the envelope
is for the third, and tells the second; that is for the second, and tells the first; that is for the
first, and tells the first recipient. -/
theorem pack_layers_plain : ∃ outer second third inner a',
    (pack (.obj [("n", .int 1)]) {
      recipients := [Wallet.keyOf [2], Wallet.keyOf [6]]
      routing := [Wallet.keyOf [3], Wallet.keyOf [4], Wallet.keyOf [5]]
      sender := some (Wallet.keyOf [1]) }).run (plain .hashAndDocument [1]) = (.ok outer, a') ∧
    outer.Forwards (Wallet.keyOf [5]) (Wallet.keyOf [4]) third ∧
    third.Forwards (Wallet.keyOf [4]) (Wallet.keyOf [3]) second ∧
    second.Forwards (Wallet.keyOf [3]) (Wallet.keyOf [2]) inner ∧
    inner.Delivers (.obj [("n", .int 1)]) [Wallet.keyOf [2], Wallet.keyOf [6]]
      (some (Wallet.keyOf [1])) := by
  have usable (seeds : List Bytes) : ∀ k ∈ seeds.map Wallet.keyOf, k.Usable :=
    List.forall_mem_map.mpr fun seed _ => Key.usable_keyOf Suite.plain_lawful seed
  have held : ∀ k ∈ some (Wallet.keyOf [1]),
      k.kind = .ed25519 ∧ (plain .hashAndDocument [1]).wallet.holds k = true := by
    rintro k ⟨⟩
    exact ⟨rfl, Wallet.holds_add_self _ _⟩
  have fits : (Json.obj [("n", .int 1)]).fits Json.Source.depthLimit = true := by decide
  obtain ⟨outer, a', layer, packed, last, delivers, forwards⟩ :=
    pack_layers Suite.plain_lawful Chance.counting_lawful fits (usable [[2], [6]])
      (usable [[3], [4], [5]]) held
  refine ⟨outer, layer 1, layer 2, layer 0, a', packed, ?_, forwards 1 (by decide),
    forwards 0 (by decide), delivers⟩
  rw [← last]
  exact forwards 2 (by decide)

end Agent

end Plain

end Pairwise
