import Mathlib.Tactic.ByContra
import Mathlib.Tactic.SplitIfs
import Pairwise.Proofs.Keys
import Pairwise.Proofs.Operations
/-!
# Messages without a way

A message for a DID goes to the first service of the DID's document. It has no way if there is no such
service, or if the service names nobody to encipher the message for. Whatever else can go wrong with a
message on its way out, it is never for want of a way.

Results:
* `Outcome.Routed`, `Step.Routed`: whatever went wrong, a way was not missing.
* `sealFor_routed`, `forward_routed`: sealing a message for anybody, and handing it to mediators.
* `Agent.Unroutable`, `package_unroutable_iff`: a message has no way exactly if the document of the
  DID that it goes to gives none.
-/
namespace Pairwise

open Step

variable {α β ε : Type}

/-! ## Results that have a way -/

namespace Outcome

/-- Whatever went wrong, it is not that a way is missing. -/
def Routed (x : Except Error α) : Prop := ∀ what, x ≠ .error (.missingRouting what)

namespace Routed

theorem ok (a : α) : Routed (.ok a) := nofun

theorem error {e : Error} (other : ∀ what, e ≠ .missingRouting what) :
    Routed (.error e : Except Error α) := fun what same => other what (Except.error.inj same)

theorem bind {x : Except Error α} {f : α → Except Error β} (hx : Routed x)
    (hf : ∀ a, x = .ok a → Routed (f a)) : Routed (x >>= f) := by
  cases x with
  | error e => exact error fun what same => hx what (same ▸ rfl)
  | ok a => exact hf a rfl

theorem mapError {x : Except ε α} {f : ε → Error} (other : ∀ e what, f e ≠ .missingRouting what) :
    Routed (x.mapError f) := by
  cases x with
  | error e => exact error (other e)
  | ok a => exact ok a

theorem mapM {f : α → Except Error β} (h : ∀ a, Routed (f a)) (as : List α) : Routed (as.mapM f) := by
  induction as with
  | nil => exact ok []
  | cons a as ih =>
    rw [List.mapM_cons]
    exact .bind (h a) fun _ _ => .bind ih fun _ _ => ok _

end Routed

end Outcome

open Outcome (Routed)

/-! ## Keys and documents -/

/-- What is wrong with a key is not that a way is missing. -/
theorem Outcome.Fails.routed {x : Except Error α} (h : Fails Error.OfKey x) : Routed x :=
  fun _ same => h _ same

namespace Key

theorem ofBase58_routed (text : String) (kind : KeyKind) : Routed (ofBase58 text kind) :=
  (ofBase58_fails text kind).routed

theorem toX25519_routed [Suite] (k : Key) : Routed k.toX25519 := k.toX25519_fails.routed

theorem document_routed [Suite] (k : Key) (did : String) : Routed (k.document did) :=
  (k.document_fails did).routed

end Key

theorem Did.key_routed (did : String) : Routed (Did.key did) := by
  unfold Did.key
  split
  · exact .error nofun
  · exact .mapError nofun

namespace Document

variable (d : Document)

theorem dereference_routed (reference : String) : Routed (d.dereference reference) := by
  unfold dereference
  split_ifs
  · exact Did.key_routed _
  · exact .bind (d.method_fails _).routed fun m _ => m.toKey_fails.routed
  · exact Key.ofBase58_routed _ _

theorem authenticationKeys_routed : Routed d.authenticationKeys := d.authenticationKeys_fails.routed

theorem serviceRecipientKeys_routed (s : Service) : Routed (d.serviceRecipientKeys s) :=
  .mapM d.dereference_routed _

theorem serviceRoutingKeys_routed (s : Service) : Routed (d.serviceRoutingKeys s) :=
  .mapM d.dereference_routed _

theorem recipientKeys_routed : Routed d.recipientKeys :=
  .bind (.mapM d.serviceRecipientKeys_routed _) fun _ _ => .ok _

end Document

variable [Suite]

theorem PeerDid.ofDid_routed (did : String) : Routed (PeerDid.ofDid did) := by
  unfold ofDid
  split
  · exact .error nofun
  · split
    · exact .error nofun
    · refine .bind (.bind (Key.document_routed _ _) fun _ _ => .ok _) fun p _ => ?_
      split
      · exact .ok _
      · exact .error nofun
  · split
    · exact .error nofun
    · split
      · exact .error nofun
      · exact .ok _
  · split
    · exact .ok _
    · split
      · exact .error nofun
      · exact .ok _

theorem Did.resolve_routed (dids : Store DidRecord) (did : String) : Routed (Did.resolve dids did) := by
  unfold Did.resolve
  split
  · exact .bind (Did.key_routed _) fun k _ => k.document_routed _
  split
  · exact .error nofun
  · refine .bind (PeerDid.ofDid_routed _) fun p _ => ?_
    dsimp only
    split
    · exact .ok _
    · exact .error nofun

/-! ## Sealing -/

theorem Key.agreementBytes_routed (k : Key) : Routed k.agreementBytes := by
  refine .bind k.toX25519_routed fun agreement _ => ?_
  split
  · exact .ok _
  · exact .error nofun

theorem Cipher.encrypt_routed (c : Cipher) (key nonce aad text : Bytes) :
    Routed (c.encrypt key nonce aad text) := by
  unfold encrypt
  split
  · exact .ok _
  · exact .error nofun

omit [Suite] in
theorem ConcatKdf.Material.key_routed (m : Material) : Routed m.key := by
  unfold key
  split
  · exact .ok _
  · exact .error nofun

theorem Wrapping.wrap_routed (contentKey : Bytes) (sender : Option Sender) (fresh : Fresh) (k : Key) :
    Routed (wrap contentKey sender fresh k) := by
  refine .bind (.bind k.agreementBytes_routed fun _ _ => .ok _) fun material _ => ?_
  refine .bind material.key_routed fun key _ => ?_
  exact .bind (Cipher.encrypt_routed _ _ _ _ _) fun _ _ => .ok _

theorem Envelope.sealContent_routed (cipher : Cipher) (named : Bool) (contentKey nonce : Bytes)
    (recipients : List Recipient) (message : Json) :
    Routed (sealContent cipher named contentKey nonce recipients message) :=
  .bind (Cipher.encrypt_routed _ _ _ _ _) fun _ _ => .ok _

theorem Wallet.sender_routed (w : Wallet) (k : Key) : Routed (w.sender k) := by
  refine .bind ?_ fun _ _ => .ok _
  unfold seedOf
  split
  · exact .ok _
  · exact .error nofun

namespace Step

/-- Whatever went wrong with the step, it is not that a way is missing. -/
def Routed (x : Step α) : Prop := ∀ a, Outcome.Routed (x.run a).1

namespace Routed

theorem lift {x : Except Error α} (h : Outcome.Routed x) : Routed (liftM x : Step α) := fun _ => h

theorem bind {x : Step α} {f : α → Step β} (hx : Routed x) (hf : ∀ r, Routed (f r)) :
    Routed (x >>= f) := by
  intro a
  have first := hx a
  rw [run_bind]
  rcases run : x.run a with ⟨error | r, a'⟩
  · rw [run] at first
    exact .error fun what same => first what (same ▸ rfl)
  · exact hf r a'

theorem pure (r : α) : Routed (Pure.pure r : Step α) := fun _ => .ok r

theorem view (f : Agent → α) : Routed (Step.view f) := fun a => .ok (f a)

end Routed

end Step

namespace Agent

variable [Chance]

theorem drawNoise_routed (length : Nat) : Step.Routed (drawNoise length) := fun _ => .ok _

theorem wrapFor_routed (contentKey : Bytes) (sender : Option Sender) (keys : List Key) :
    Step.Routed (wrapFor contentKey sender keys) := by
  induction keys with
  | nil => exact .pure _
  | cons k keys ih =>
    refine .bind (drawNoise_routed _) fun _ => .bind (drawNoise_routed _) fun _ => ?_
    exact .bind (.lift (Wrapping.wrap_routed _ _ _ _)) fun _ => .bind ih fun _ => .pure _

/-- Sealing for nobody fails for another reason. -/
theorem sealFor_routed (message : Json) (keys : List Key) (sender : Option Key) :
    Step.Routed (sealFor message keys sender) := by
  unfold sealFor
  split
  · exact fun _ => .error nofun
  have content (s : Option Sender) (cipher : Cipher) : Step.Routed (do
      let contentKey ← drawNoise Cipher.keyLength
      let recipients ← wrapFor contentKey s keys
      let nonce ← drawNoise cipher.nonceLength
      Envelope.sealContent cipher s.isSome contentKey nonce recipients message) :=
    .bind (drawNoise_routed _) fun _ => .bind (wrapFor_routed _ _ _) fun _ =>
      .bind (drawNoise_routed _) fun _ => .lift (Envelope.sealContent_routed _ _ _ _ _ _)
  refine .bind (.view _) fun wallet => ?_
  cases sender with
  | none => exact .bind (.pure _) fun s => content s wallet.cipher
  | some key =>
    refine .bind (.lift (wallet.sender_routed key)) fun _ => .bind (.pure _) fun s => ?_
    exact content s wallet.cipher

theorem forward_routed (target : String) (e : Envelope) (mediators : List Key) :
    Step.Routed (forward target e mediators) := by
  induction mediators generalizing target e with
  | nil => exact .pure _
  | cons k mediators ih =>
    have draws : Step.Routed drawId := fun _ => .ok _
    exact .bind draws fun _ => .bind (sealFor_routed _ _ _) fun outer => ih _ outer

omit [Chance] in
theorem senderKey_routed (c : Connection) (a : Agent) : Outcome.Routed (senderKey c a) := by
  unfold senderKey
  split
  · exact .ok _
  · refine .bind (Did.resolve_routed _ _) fun d _ => .bind d.recipientKeys_routed fun keys _ => ?_
    split
    · exact .ok _
    · exact .bind d.authenticationKeys_routed fun _ _ => .ok _

/-- A message is sealed for somebody, or fails for another reason. -/
theorem pack_routed (message : Json) {d : Delivery} (somebody : d.recipients ≠ []) :
    Step.Routed (pack message d) := by
  unfold pack
  split
  · exact fun _ => .error nofun
  · next nobody => exact absurd nobody somebody
  · exact .bind (sealFor_routed _ _ _) fun e => forward_routed _ e _

/-- A document gives a message no way: it has no service for messages, or the first one names nobody to
encipher them for. In the latter case the agent comes to see that once it knows the mediators in front of
the service and the key of its own. -/
inductive Unroutable (a : Agent) (c : Connection) (d : Document) : Prop
  | noService (none : d.didcommServices = [])
  | noRecipient {s : Service} {rest : List Service} {keys : List Key} {sender : Option Key}
      (first : d.didcommServices = s :: rest) (nobody : s.recipientKeys = [])
      (routing : d.serviceRoutingKeys s = .ok keys) (own : a.senderKey c = .ok sender)

section Services

variable {a : Agent} {did : String} {d : Document} (resolved : a.resolve did = .ok d)

include resolved

omit [Chance] in
theorem serviceDelivery_none (none : d.didcommServices = []) :
    ∃ what, a.serviceDelivery did = .error (.missingRouting what) := by
  refine ⟨s!"{did} has no DIDComm service", ?_⟩
  rw [serviceDelivery, resolved, Outcome.ok_bind, none]

variable {s : Service} {rest : List Service} (first : d.didcommServices = s :: rest)

include first

omit [Chance] in
theorem serviceDelivery_first : a.serviceDelivery did = (do
    let recipients ← d.serviceRecipientKeys s
    let routing ← d.serviceRoutingKeys s
    return (s.endpoint, { recipients, routing })) := by
  rw [serviceDelivery, resolved, Outcome.ok_bind, first]

omit [Chance] in
theorem serviceDelivery_routed : Outcome.Routed (a.serviceDelivery did) := by
  rw [serviceDelivery_first resolved first]
  refine .bind (d.serviceRecipientKeys_routed s) fun _ _ => ?_
  exact .bind (d.serviceRoutingKeys_routed s) fun _ _ => .ok _

omit [Chance] in
/-- A message goes to the recipients of the first service, through its mediators. -/
theorem serviceDelivery_eq_ok {endpoint : String} {v : Delivery} :
    a.serviceDelivery did = .ok (endpoint, v) ↔
      endpoint = s.endpoint ∧ d.serviceRecipientKeys s = .ok v.recipients ∧
        d.serviceRoutingKeys s = .ok v.routing ∧ v.sender = none ∧ v.form = .enciphered := by
  rw [serviceDelivery_first resolved first]
  constructor
  · intro h
    obtain ⟨recipients, hrecipients, h⟩ := Outcome.bind_eq_ok.mp h
    obtain ⟨routing, hrouting, h⟩ := Outcome.bind_eq_ok.mp h
    cases h
    exact ⟨rfl, hrecipients, hrouting, rfl, rfl⟩
  · obtain ⟨recipients, routing, sender, form⟩ := v
    rintro ⟨rfl, hrecipients, hrouting, rfl, rfl⟩
    rw [hrecipients, Outcome.ok_bind, hrouting]
    rfl

end Services

section Package

variable {a : Agent} {o : Outbound} {did : String} {d : Document}
  (theirs : o.connection.theirDid = some did) (resolved : a.resolve did = .ok d)

include theirs

omit [Chance] in
theorem delivery_of_theirDid : delivery o.connection a = a.serviceDelivery did := by
  rw [delivery, theirs]

include resolved

/-- The first service of the document is asked for whom it names, and then the connection for the key of
its own. A message that has no way after that has nobody to be enciphered for. -/
theorem unroutable_of_package {what : String}
    (failed : ((package o).run a).1 = .error (.missingRouting what)) : a.Unroutable o.connection d := by
  have run : (package o).run a = (.error (.missingRouting what), _) := Prod.ext failed rfl
  cases services : d.didcommServices with
  | nil => exact .noService services
  | cons s rest =>
    rcases bind_run_error.mp run with run | ⟨⟨endpoint, v⟩, _, asks, run⟩
    · have routed := serviceDelivery_routed resolved services
      rw [← delivery_of_theirDid theirs] at routed
      exact absurd (congrArg Prod.fst run) (routed what)
    obtain ⟨asked, rfl⟩ := ask_run_ok.mp asks
    rw [delivery_of_theirDid theirs] at asked
    obtain ⟨-, recipients, routing, -⟩ := (serviceDelivery_eq_ok resolved services).mp asked
    rcases bind_run_error.mp run with run | ⟨sender, _, asks, run⟩
    · exact absurd (congrArg Prod.fst run) (senderKey_routed _ a what)
    obtain ⟨own, rfl⟩ := ask_run_ok.mp asks
    refine .noRecipient services (by_contra fun named => ?_) routing own
    have somebody : v.recipients ≠ [] := by
      rintro none
      rw [none] at recipients
      exact named (List.forall₂_nil_right_iff.mp (Outcome.mapM_eq_ok.mp recipients))
    rcases bind_run_error.mp run with run | ⟨e, _, -, run⟩
    · exact absurd (congrArg Prod.fst run) (pack_routed _ (d := { v with sender }) somebody a what)
    · cases run

theorem package_of_unroutable (h : a.Unroutable o.connection d) :
    ∃ what, ((package o).run a).1 = .error (.missingRouting what) := by
  cases h with
  | noService none =>
    obtain ⟨what, missing⟩ := serviceDelivery_none resolved none
    have run : (package o).run a = (.error (.missingRouting what), a) :=
      Step.bind_error (by rw [run_ask, delivery_of_theirDid theirs, missing])
    exact ⟨what, congrArg Prod.fst run⟩
  | @noRecipient s rest keys sender first nobody routing own =>
    have recipients : d.serviceRecipientKeys s = .ok [] := by
      rw [Document.serviceRecipientKeys, nobody]
      rfl
    have asked := (serviceDelivery_eq_ok resolved first (v := ⟨[], keys, none, .enciphered⟩)).mpr
      ⟨rfl, recipients, routing, rfl, rfl⟩
    rw [← delivery_of_theirDid theirs] at asked
    refine ⟨"no recipient keys", ?_⟩
    rw [package, Step.bind_ask asked, Step.bind_ask own]
    rfl

/-- A message has no way exactly if the document of the DID that it goes to gives none. -/
theorem package_unroutable_iff :
    (∃ what, ((package o).run a).1 = .error (.missingRouting what)) ↔ a.Unroutable o.connection d := by
  constructor
  · rintro ⟨what, failed⟩
    exact unroutable_of_package theirs resolved failed
  · exact package_of_unroutable theirs resolved

end Package

end Agent

end Pairwise
