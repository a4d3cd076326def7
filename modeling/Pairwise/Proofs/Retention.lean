import Pairwise.Proofs.Network
import Pairwise.Proofs.Operations
/-!
# What an agent never loses

Whatever an agent sends and receives, it keeps its settings and all its keys and DIDs: there is no
message that takes one away.

Results:
* `Agent.Retains`: the agent afterwards has all of these.
* `retains_parts`: so it is after every operation.
* `receive_retains`: an agent that receives an envelope retains them, whatever comes of it.
* `converse_retains`: so do both sides of a conversation.
-/
namespace Pairwise

open Step

variable [suite : Suite]

namespace Agent

/-- The agent afterwards has the same settings, and all keys and DIDs that it had. -/
structure Retains (a a' : Agent) : Prop where
  settings : a'.settings = a.settings
  wallet : ∀ k, a.wallet.holds k = true → a'.wallet.holds k = true
  dids : a.dids.records <+: a'.dids.records

instance : IsPreorder Agent Retains where
  refl _ := ⟨rfl, fun _ h => h, List.prefix_rfl⟩
  trans _ _ _ hab hbc := {
    settings := hbc.settings.trans hab.settings
    wallet := fun k h => hbc.wallet k (hab.wallet k h)
    dids := hab.dids.trans hbc.dids }

theorem Later.retains {a a' : Agent} (h : Later a a') : Retains a a' where
  settings := h.settings
  wallet := fun _ held => h.wallet ▸ held
  dids := h.dids

end Agent

theorem Step.Keeps.retains {α : Type} {x : Step α} (h : Keeps Agent.Quiet x) :
    Keeps Agent.Retains x := fun a => (h a).toLater.retains

namespace Agent

variable [chance : Chance]

/-- Whatever an operation is put together from, nothing is lost by it; keys that are made are more. -/
theorem retains_parts : Parts Retains where
  ids := drawId_quiet.retains
  noise length := (drawNoise_quiet length).retains
  keys := fun _ => ⟨rfl, fun _ held => Wallet.holds_add held _, List.prefix_rfl⟩
  makes r form := (createPeerDid_quiet r form).retains
  accepts did attachment allowed := (acceptTheirDid_quiet did attachment allowed).retains
  follows _ _ d _ := (saveReceivedDid_quiet d.id d).retains
  saves _ := saveConnection_keeps fun _ _ _ => ⟨rfl, fun _ held => held, List.prefix_rfl⟩
  updates _ := updateConnection_keeps fun _ _ _ _ => ⟨rfl, fun _ held => held, List.prefix_rfl⟩

/-- Whatever comes of an envelope, the agent has all that it had. -/
theorem receive_retains (e : Envelope) : Keeps Retains (receive e) := retains_parts.receive e

/-- What a side of a conversation has, it has afterwards, however many messages there are. -/
theorem converse_retains {mediators : Wallet} {limit : Nat} {a b a' b' : Agent} {o : Outbound}
    {kinds : List MessageKind} (h : converse mediators limit a b o = .ok (kinds, a', b')) :
    Retains a a' ∧ Retains b b' := by
  induction limit generalizing a b a' b' o kinds with
  | zero => cases h
  | succ limit ih =>
    obtain ⟨⟨e, a₁⟩, hpost, h⟩ := Outcome.bind_eq_ok.mp h
    obtain ⟨⟨answer, b₁⟩, hreceive, h⟩ := Outcome.bind_eq_ok.mp h
    have sent := (post_quiet mediators o).retains.of_run (Step.outcome_eq_ok.mp hpost)
    have received := (receive_retains e).of_run (Step.outcome_eq_ok.mp hreceive)
    cases answer with
    | none =>
      cases h
      exact ⟨sent, received⟩
    | some answer =>
      obtain ⟨⟨rest, b₂, a₂⟩, hrest, h⟩ := Outcome.bind_eq_ok.mp h
      cases h
      obtain ⟨back, forth⟩ := ih hrest
      exact ⟨IsTrans.trans _ _ _ sent forth, IsTrans.trans _ _ _ received back⟩

end Agent

end Pairwise
