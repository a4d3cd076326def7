import Mathlib.Data.List.Infix
import Mathlib.Order.Defs.Unbundled
import Pairwise.Agent.Connections
import Pairwise.Agent.Dids
import Pairwise.Agent.Rotation
import Pairwise.Proofs.Stores
/-!
# What steps leave behind

Most of what an agent does on the way to a message touches no connection: it draws, reads, and stores
DIDs. Such a step is `Quiet`. A step that is put together from quiet ones is quiet, whatever comes of
it, so what a whole step does to the connections can be read off the one place where it stores one.

Results:
* `Step.run_bind`, `Step.run_lift`, …: how a step put together from others runs.
* `Step.bind_run_ok`, `Step.bind_run_error`: where the result, or the error, of a sequence comes from.
* `Keeps.bind` and the lemmas after it: a preorder on agents that every part of a step keeps is kept
  by the step.
* `saveConnection_run_ok`, `updateConnection_run_ok`, …: what storing a connection comes to, and
  `saveConnection_keeps`, `updateConnection_keeps`, `saveNewDid_keeps`: what is kept by the change of a
  store is kept by the step.
* `Agent.AddsDids`: an agent has stored DIDs of one kind, and has all that it had.
* `Step.FailsQuietly`: a step that stores a connection at its end, and is quiet when it fails.
* `createPeerDid_quiet`, `acceptTheirDid_quiet`, …: the quiet steps.
-/
namespace Pairwise

variable [Suite] {α β : Type}

namespace Step

/-! ## How steps run -/

theorem run_bind (x : Step α) (f : α → Step β) (a : Agent) :
    (x >>= f).run a = match x.run a with
      | (.ok r, a') => (f r).run a'
      | (.error e, a') => (.error e, a') := rfl

theorem run_pure (r : α) (a : Agent) : (pure r : Step α).run a = (.ok r, a) := rfl

theorem run_lift (x : Except Error α) (a : Agent) : (liftM x : Step α).run a = (x, a) := rfl

theorem run_view (f : Agent → α) (a : Agent) : (view f).run a = (.ok (f a), a) := rfl

theorem run_ask (f : Agent → Except Error α) (a : Agent) : (ask f).run a = (f a, a) := rfl

/-! What is known of the first part of a sequence is used up in turn. -/

theorem bind_lift {x : Except Error α} {r : α} (h : x = .ok r) (f : α → Step β) (a : Agent) :
    ((liftM x : Step α) >>= f).run a = (f r).run a := bind_ok (by rw [run_lift, h])

theorem bind_view (g : Agent → α) (f : α → Step β) (a : Agent) :
    (view g >>= f).run a = (f (g a)).run a := rfl

theorem bind_ask {g : Agent → Except Error α} {a : Agent} {r : α} (h : g a = .ok r)
    (f : α → Step β) : (ask g >>= f).run a = (f r).run a := bind_ok (by rw [run_ask, h])

/-- A sequence has a result exactly if its first part has one, from which the rest has it. -/
theorem bind_run_ok {x : Step α} {f : α → Step β} {a a' : Agent} {r : β} :
    (x >>= f).run a = (.ok r, a') ↔
      ∃ s a₁, x.run a = (.ok s, a₁) ∧ (f s).run a₁ = (.ok r, a') := by
  rw [run_bind]
  constructor
  · intro h
    split at h
    · next s a₁ hx => exact ⟨s, a₁, hx, h⟩
    · cases h
  · rintro ⟨s, a₁, hx, h⟩
    rw [hx]
    exact h

/-- A sequence fails exactly if its first part does, or the rest from its result. -/
theorem bind_run_error {x : Step α} {f : α → Step β} {a a' : Agent} {e : Error} :
    (x >>= f).run a = (.error e, a') ↔
      x.run a = (.error e, a') ∨
      ∃ s a₁, x.run a = (.ok s, a₁) ∧ (f s).run a₁ = (.error e, a') := by
  rw [run_bind]
  constructor
  · intro h
    split at h
    · next s a₁ hx => exact .inr ⟨s, a₁, hx, h⟩
    · next e' a₁ hx =>
      cases h
      exact .inl hx
  · rintro (hx | ⟨s, a₁, hx, h⟩)
    · rw [hx]
    · rw [hx]
      exact h

theorem lift_run_ok {x : Except Error α} {a a' : Agent} {r : α} :
    (liftM x : Step α).run a = (.ok r, a') ↔ x = .ok r ∧ a = a' := by
  rw [run_lift, Prod.mk.injEq]

theorem pure_run_ok {s r : α} {a a' : Agent} :
    (pure s : Step α).run a = (.ok r, a') ↔ s = r ∧ a = a' := by
  rw [run_pure, Prod.mk.injEq, Except.ok.injEq]

theorem view_run_ok {f : Agent → α} {a a' : Agent} {r : α} :
    (view f).run a = (.ok r, a') ↔ f a = r ∧ a = a' := by
  rw [run_view, Prod.mk.injEq, Except.ok.injEq]

theorem ask_run_ok {f : Agent → Except Error α} {a a' : Agent} {r : α} :
    (ask f).run a = (.ok r, a') ↔ f a = .ok r ∧ a = a' := by
  rw [run_ask, Prod.mk.injEq]

/-! ## Relations that steps keep -/

/-- Whatever comes of the step, the agent afterwards is in the relation with the agent before. -/
def Keeps (R : Agent → Agent → Prop) (x : Step α) : Prop := ∀ a, R a (x.run a).2

namespace Keeps

variable {R : Agent → Agent → Prop}

theorem of_run {x : Step α} (h : Keeps R x) {a a' : Agent} {r : Except Error α}
    (hx : x.run a = (r, a')) : R a a' := by
  have := h a
  rwa [hx] at this

variable [IsPreorder Agent R]

theorem pure (r : α) : Keeps R (Pure.pure r : Step α) := fun a => refl a

theorem lift (x : Except Error α) : Keeps R (liftM x : Step α) := fun a => refl a

theorem fail (e : Error) : Keeps R (Step.fail e : Step α) := fun a => refl a

theorem view (f : Agent → α) : Keeps R (Step.view f) := fun a => refl a

theorem ask (f : Agent → Except Error α) : Keeps R (Step.ask f) := fun a => refl a

/-- The rest of a sequence may use what is known of the result of its first part. -/
theorem bind_of {x : Step α} {f : α → Step β} {P : α → Prop} (hx : Keeps R x)
    (gives : ∀ a a' r, x.run a = (.ok r, a') → P r) (hf : ∀ r, P r → Keeps R (f r)) :
    Keeps R (x >>= f) := by
  intro a
  rw [run_bind]
  split
  · next r a₁ h => exact IsTrans.trans _ _ _ (hx.of_run h) (hf r (gives a a₁ r h) a₁)
  · next e a₁ h => exact hx.of_run h

theorem bind {x : Step α} {f : α → Step β} (hx : Keeps R x) (hf : ∀ r, Keeps R (f r)) :
    Keeps R (x >>= f) := .bind_of (P := fun _ => True) hx (fun _ _ _ _ => trivial) fun r _ => hf r

theorem bind_lift {x : Except Error α} {f : α → Step β} (hf : ∀ r, x = .ok r → Keeps R (f r)) :
    Keeps R ((liftM x : Step α) >>= f) :=
  .bind_of (.lift x) (fun _ _ _ h => (lift_run_ok.mp h).1) hf

theorem bind_view {g : Agent → α} {f : α → Step β} (hf : ∀ a, Keeps R (f (g a))) :
    Keeps R (Step.view g >>= f) := by
  refine .bind_of (P := fun r => ∃ a, g a = r) (.view g) (fun a _ _ h => ⟨a, (view_run_ok.mp h).1⟩) ?_
  rintro _ ⟨a, rfl⟩
  exact hf a

end Keeps

end Step

/-! ## Later and quiet -/

/-- The agent afterwards has the same settings and keys. It may have drawn ids, and stored DIDs
beside those it had. -/
structure Agent.Later (a a' : Agent) : Prop where
  settings : a'.settings = a.settings
  wallet : a'.wallet = a.wallet
  dids : a.dids.records <+: a'.dids.records
  ids : a.draws.ids ≤ a'.draws.ids
  seeds : a'.draws.seeds = a.draws.seeds
  now : a'.now = a.now

/-- The agent afterwards is a later one with the same connections. -/
structure Agent.Quiet (a a' : Agent) : Prop extends Agent.Later a a' where
  connections : a'.connections = a.connections

/-- The step has been quiet whenever it fails. -/
def Step.FailsQuietly (x : Step α) : Prop :=
  ∀ a a' e, x.run a = (.error e, a') → Agent.Quiet a a'

namespace Agent

instance : IsPreorder Agent Later where
  refl _ := ⟨rfl, rfl, List.prefix_rfl, Nat.le_refl _, rfl, rfl⟩
  trans _ _ _ hab hbc := {
    settings := hbc.settings.trans hab.settings
    wallet := hbc.wallet.trans hab.wallet
    dids := hab.dids.trans hbc.dids
    ids := Nat.le_trans hab.ids hbc.ids
    seeds := hbc.seeds.trans hab.seeds
    now := hbc.now.trans hab.now }

instance : IsPreorder Agent Quiet where
  refl a := ⟨refl a, rfl⟩
  trans a b c hab hbc :=
    ⟨IsTrans.trans a b c hab.toLater hbc.toLater, hbc.connections.trans hab.connections⟩

end Agent

namespace Step.FailsQuietly

theorem bind {x : Step α} {f : α → Step β} (hx : Keeps Agent.Quiet x)
    (hf : ∀ r, FailsQuietly (f r)) : FailsQuietly (x >>= f) := by
  intro a a' e h
  rcases bind_run_error.mp h with h | ⟨r, a₁, hr, h⟩
  · exact hx.of_run h
  · exact IsTrans.trans _ _ _ (hx.of_run hr) (hf r a₁ a' e h)

/-- What comes after the last part that can fail does not matter. -/
theorem bind_pure {x : Step α} (hx : FailsQuietly x) (g : α → β) :
    FailsQuietly (x >>= fun r => pure (g r)) := by
  intro a a' e h
  rcases bind_run_error.mp h with h | ⟨r, a₁, -, h⟩
  · exact hx a a' e h
  · rw [run_pure] at h
    cases h

/-- A step that cannot succeed is quiet. -/
theorem quiet {x : Step α} (hx : FailsQuietly x) (fails : ∀ a a' r, x.run a ≠ (.ok r, a')) :
    Keeps Agent.Quiet x := by
  intro a
  rcases h : x.run a with ⟨e | r, a'⟩
  · exact hx a a' e h
  · exact absurd h (fails a a' r)

/-- What would follow a step that cannot succeed is not done. -/
theorem bind_quiet {x : Step α} (hx : FailsQuietly x) (fails : ∀ a a' r, x.run a ≠ (.ok r, a'))
    (f : α → Step β) : Keeps Agent.Quiet (x >>= f) := by
  intro a
  rcases h : x.run a with ⟨e | r, a'⟩
  · rw [bind_error h]
    exact hx a a' e h
  · exact absurd h (fails a a' r)

end Step.FailsQuietly

namespace Agent

/-! ## Steps that store -/

section Storing

variable {a a' : Agent} {c c' : Connection} {e : Error}

theorem saveConnection_run_ok :
    (saveConnection c).run a = (.ok c', a') ↔
      c' = c ∧ ∃ connections, a.connections.save c = .ok connections ∧
        a' = { a with connections } := by
  simp only [Step.run, saveConnection]
  constructor
  · intro h
    split at h
    · next connections saved =>
      cases h
      exact ⟨rfl, connections, saved, rfl⟩
    · cases h
  · rintro ⟨rfl, connections, saved, rfl⟩
    rw [saved]

theorem saveConnection_run_error (h : (saveConnection c).run a = (.error e, a')) : a' = a := by
  simp only [Step.run, saveConnection] at h
  split at h
  · cases h
  · cases h
    rfl

theorem updateConnection_run_ok :
    (updateConnection c).run a = (.ok c', a') ↔
      ∃ connections, a.connections.update c = .ok (c', connections) ∧
        a' = { a with connections } := by
  simp only [Step.run, updateConnection]
  constructor
  · intro h
    split at h
    · next connections updated =>
      cases h
      exact ⟨connections, updated, rfl⟩
    · cases h
  · rintro ⟨connections, updated, rfl⟩
    rw [updated]

theorem updateConnection_run_error (h : (updateConnection c).run a = (.error e, a')) : a' = a := by
  simp only [Step.run, updateConnection] at h
  split at h
  · cases h
  · cases h
    rfl

variable {R : Agent → Agent → Prop} [IsPreorder Agent R]

theorem saveConnection_keeps
    (stores : ∀ a connections, a.connections.save c = .ok connections → R a { a with connections }) :
    Step.Keeps R (saveConnection c) := by
  intro a
  rcases h : (saveConnection c).run a with ⟨e | stored, a'⟩
  · rw [saveConnection_run_error h]
    exact refl a
  · obtain ⟨-, connections, saved, rfl⟩ := saveConnection_run_ok.mp h
    exact stores a connections saved

theorem updateConnection_keeps
    (stores : ∀ a stored connections, a.connections.update c = .ok (stored, connections) →
      R a { a with connections }) : Step.Keeps R (updateConnection c) := by
  intro a
  rcases h : (updateConnection c).run a with ⟨e | stored, a'⟩
  · rw [updateConnection_run_error h]
    exact refl a
  · obtain ⟨connections, updated, rfl⟩ := updateConnection_run_ok.mp h
    exact stores a stored connections updated

theorem saveNewDid_keeps {r : DidRecord}
    (stores : ∀ a dids, a.dids.save r = .ok dids → R a { a with dids }) :
    Step.Keeps R (saveNewDid r) := by
  unfold saveNewDid
  refine .bind (.view _) fun known => ?_
  split
  · exact .pure _
  intro a
  simp only [Step.run, saveDid]
  split
  · next dids saved => exact stores a dids saved
  · exact refl a

end Storing

/-- The agent afterwards has stored DIDs of one kind beside those that it had. -/
def AddsDids (P : DidRecord → Prop) (a a' : Agent) : Prop :=
  ∃ more, a'.dids.records = a.dids.records ++ more ∧ ∀ r ∈ more, P r

section AddsDids

variable {P : DidRecord → Prop}

instance : IsPreorder Agent (AddsDids P) where
  refl a := ⟨[], (List.append_nil _).symm, List.forall_mem_nil _⟩
  trans a b c := by
    rintro ⟨more, hb, new⟩ ⟨more', hc, new'⟩
    exact ⟨more ++ more', by rw [hc, hb, List.append_assoc],
      List.forall_mem_append.mpr ⟨new, new'⟩⟩

theorem AddsDids.of_same {a a' : Agent} (same : a'.dids = a.dids) : AddsDids P a a' :=
  ⟨[], by rw [same, List.append_nil], List.forall_mem_nil _⟩

theorem saveNewDid_addsDids {r : DidRecord} (h : P r) : Step.Keeps (AddsDids P) (saveNewDid r) :=
  saveNewDid_keeps fun _ _ saved =>
    ⟨[r], (Store.save_eq_ok.mp saved).2, List.forall_mem_singleton.mpr h⟩

end AddsDids

/-! ## Quiet steps -/

theorem updateConnection_failsQuietly (c : Connection) : (updateConnection c).FailsQuietly := by
  intro a a' e h
  rw [updateConnection_run_error h]
  exact refl a

theorem saveConnection_failsQuietly (c : Connection) : (saveConnection c).FailsQuietly := by
  intro a a' e h
  rw [saveConnection_run_error h]
  exact refl a

theorem saveNewDid_quiet (r : DidRecord) : Step.Keeps Quiet (saveNewDid r) := by
  refine saveNewDid_keeps fun a dids saved => ?_
  have kept : a.dids.records <+: dids.records := ⟨[r], (Store.save_eq_ok.mp saved).2.symm⟩
  exact ⟨⟨rfl, rfl, kept, Nat.le_refl _, rfl, rfl⟩, rfl⟩

theorem saveReceivedDid_quiet (did : String) (document : Document) :
    Step.Keeps Quiet (saveReceivedDid did document) := by
  unfold saveReceivedDid
  exact .bind (.lift _) fun _ => .bind (.view _) fun _ => .bind (.lift _) fun _ => saveNewDid_quiet _

theorem acceptTheirDid_quiet (did : String) (attachment : Option Attachment) (allowed : List Key) :
    Step.Keeps Quiet (acceptTheirDid did attachment allowed) := by
  unfold acceptTheirDid
  refine .bind (.lift _) fun peer => ?_
  split
  · exact .fail _
  · exact saveReceivedDid_quiet _ _

variable [Chance]

theorem drawId_quiet : Step.Keeps Quiet drawId :=
  fun _ => ⟨⟨rfl, rfl, List.prefix_rfl, Nat.le_succ _, rfl, rfl⟩, rfl⟩

theorem drawNoise_quiet (length : Nat) : Step.Keeps Quiet (drawNoise length) :=
  fun _ => ⟨⟨rfl, rfl, List.prefix_rfl, Nat.le_refl _, rfl, rfl⟩, rfl⟩

theorem newConnection_quiet (role : ExchangeRole) (state : ExchangeState) :
    Step.Keeps Quiet (newConnection role state) := by
  unfold newConnection
  exact .bind drawId_quiet fun _ => .bind (.view _) fun _ => .pure _

theorem routingDocument_quiet (r : Routing) : Step.Keeps Quiet (routingDocument r) := by
  unfold routingDocument
  exact .bind (.lift _) fun _ => .bind drawId_quiet fun _ => .bind drawId_quiet fun _ => .lift _

theorem createPeerDid_quiet (r : Routing) (form : PeerForm) :
    Step.Keeps Quiet (createPeerDid r form) := by
  unfold createPeerDid
  refine .bind (routingDocument_quiet r) fun told => .bind (.lift _) fun peer => ?_
  split
  · exact .fail _
  · exact .bind (.view _) fun _ => .bind (.lift _) fun _ => .bind (saveNewDid_quiet _) fun _ => .pure _

theorem attachmentFor_quiet (peer : PeerDid) (signer : Key) :
    Step.Keeps Quiet (attachmentFor peer signer) := by
  unfold attachmentFor
  refine .bind (.lift _) fun form => ?_
  split
  · exact .pure _
  · exact .pure _
  · exact .bind (.ask _) fun _ => .bind drawId_quiet fun _ => .pure _

/-! ## The DID to announce -/

section Rotation

variable {R : Agent → Agent → Prop} [IsPreorder Agent R]

/-- The choice of a DID that the agent has changes nothing. -/
theorem rotationDid_existing_keeps (did : String) (mediators : List Mediator) :
    Step.Keeps R (rotationDid (.existing did mediators)) := by
  unfold rotationDid
  refine .bind (.ask _) fun record => ?_
  split
  · exact .fail _
  · exact .bind (.ask _) fun _ => .bind (.lift _) fun _ => .pure _

theorem rotationDid_keeps (makes : ∀ r form, Step.Keeps R (createPeerDid r form))
    (t : RotationTarget) : Step.Keeps R (rotationDid t) := by
  cases t with
  | existing did mediators => exact rotationDid_existing_keeps did mediators
  | routing r =>
    unfold rotationDid
    exact .bind (.view _) fun _ => .bind (makes _ _) fun _ => .pure _

end Rotation

theorem rotationDid_quiet (t : RotationTarget) : Step.Keeps Quiet (rotationDid t) :=
  rotationDid_keeps createPeerDid_quiet t

end Agent

end Pairwise
