import Pairwise.Proofs.RotationTurns
/-!
# How a connection moves

A stored connection moves by the turns of its exchange, and once that is completed by what its
rotations and hangups do to it. Every move makes the next version. A connection that has moved is the
same connection further on.

Results:
* `Connection.Move`: all that a connection can come to in one version.
* `Connection.Sound`, `Move.sound`: what is true of every connection that came about by moves.
* `Connection.Onward`, `Move.onward`: what no move takes back.
* `Connection.Goes`: several moves, with what they were; `Goes.eq_of_version` tells that the version
  tells them apart.
-/
namespace Pairwise

/-! ## The order of the states -/

/-- The states of a side, in the order in which it goes through them. -/
def ExchangeRole.states : ExchangeRole → List ExchangeState
  | .requester =>
    [.start, .invitationReceived, .requestSent, .responseReceived, .completed, .abandoned]
  | .responder => [.start, .invitationSent, .requestReceived, .responseSent, .completed, .abandoned]

/-- How far a side is in a state. -/
def ExchangeRole.rank (role : ExchangeRole) (state : ExchangeState) : Nat := role.states.idxOf state

theorem ExchangeRole.rank_le_abandoned {role : ExchangeRole} {state : ExchangeState}
    (h : state ∈ role.states) : role.rank state ≤ role.rank .abandoned := by
  cases role <;> cases state <;> revert h <;> decide

namespace ExchangeState

/-- Nothing has come of the invitation yet. -/
def isFresh : ExchangeState → Bool
  | .start | .invitationSent | .invitationReceived => true
  | _ => false

/-- The agent has told its DID, and the exchange is still going on. -/
def hasTold : ExchangeState → Bool
  | .requestSent | .responseSent | .responseReceived => true
  | _ => false

/-- The agent was told a DID, and the exchange is still going on. -/
def wasTold : ExchangeState → Bool
  | .requestReceived | .responseSent | .responseReceived => true
  | _ => false

end ExchangeState

namespace Connection

/-! ## What is remembered -/

theorem prefix_remember (did : Option String) (dids : List String) : dids <+: remember did dids := by
  unfold remember
  split
  · split
    · exact List.prefix_rfl
    · exact List.prefix_append _ _
  · exact List.prefix_rfl

theorem nodup_remember (did : Option String) {dids : List String} (h : dids.Nodup) :
    (remember did dids).Nodup := by
  unfold remember
  split
  · next did =>
    split
    · exact h
    · next new =>
      rw [List.nodup_append]
      refine ⟨h, List.nodup_singleton did, fun x mem y single => ?_⟩
      rw [List.mem_singleton.mp single]
      rintro rfl
      exact new (List.contains_iff_mem.mpr mem)
  · exact h

/-! ## Moves -/

/-- What was done when a connection moved: a turn of the exchange was taken; a rotation was announced,
followed, committed or dropped; or one of the sides hung up. -/
inductive Deed where
  | exchanges
  | announces
  | follows
  | commits
  | drops
  | hangsUp
  | hungUp
  deriving DecidableEq

/-- All that a connection can come to in one version. -/
inductive Move (c : Connection) : Deed → Connection → Prop
  | exchanges {event : Event} {c' : Connection} (turn : c.Turn event c') : Move c .exchanges c'
  | announces (r : PendingRotation) (completed : c.state = .completed) :
      Move c .announces (c.noteRotation r).next
  | follows (did : String) (completed : c.state = .completed) :
      Move c .follows (c.withTheirDid (some did)).next
  | commits (r : PendingRotation) (completed : c.state = .completed)
      (pending : c.pendingRotation = .ok (some r)) : Move c .commits (c.commitRotation r).next
  | drops (completed : c.state = .completed) : Move c .drops c.dropRotation.next
  | hangsUp (completed : c.state = .completed) :
      Move c .hangsUp ({ c with did := none } : Connection).next
  | hungUp (completed : c.state = .completed) : Move c .hungUp (c.withTheirDid none).next

/-- A turn of the exchange touches neither the notes of a connection nor what it remembers, and it makes
the next version. -/
theorem Turn.leaves {c c' : Connection} {event : Event} (h : c.Turn event c') :
    c'.metadata = c.metadata ∧ c'.previousDids = c.previousDids ∧
      c'.previousTheirDids = c.previousTheirDids ∧ c'.version = c.version + 1 := by
  cases h <;> exact ⟨rfl, rfl, rfl, rfl⟩

/-- What is true of every connection that began with an invitation. -/
structure Sound (c : Connection) : Prop where
  state : c.state ∈ c.role.states
  fresh : c.state.isFresh = true → c.did = none ∧ c.threadId = none
  unanswered : c.state = .requestReceived → c.did = none
  told : c.state.hasTold = true → c.did.isSome = true
  heard : c.state.wasTold = true → c.theirDid.isSome = true
  waits : c.metadata.contains PendingRotation.key = true → c.state = .completed
  distinct : c.previousDids.Nodup ∧ c.previousTheirDids.Nodup

/-- What is never taken back: the connection is the same, further on, and remembers what it did. -/
structure Onward (c c' : Connection) : Prop where
  same : c'.id = c.id ∧ c'.role = c.role ∧ c'.invitation = c.invitation
  forward : c.role.rank c.state ≤ c.role.rank c'.state
  terminal : c.state.isTerminal = true → c'.state = c.state
  thread : c.threadId.isSome = true → c'.threadId = c.threadId
  previous : c.previousDids <+: c'.previousDids ∧ c.previousTheirDids <+: c'.previousTheirDids

namespace Onward

variable {c c₁ c₂ : Connection}

theorem refl (c : Connection) : c.Onward c where
  same := ⟨rfl, rfl, rfl⟩
  forward := Nat.le_refl _
  terminal := fun _ => rfl
  thread := fun _ => rfl
  previous := ⟨List.prefix_rfl, List.prefix_rfl⟩

theorem trans (h : c.Onward c₁) (h' : c₁.Onward c₂) : c.Onward c₂ where
  same := ⟨h'.same.1.trans h.same.1, h'.same.2.1.trans h.same.2.1, h'.same.2.2.trans h.same.2.2⟩
  forward := by
    have further := h'.forward
    rw [h.same.2.1] at further
    exact Nat.le_trans h.forward further
  terminal state := by
    have same := h.terminal state
    exact (h'.terminal (same ▸ state)).trans same
  thread there := by
    have same := h.thread there
    exact (h'.thread (same ▸ there)).trans same
  previous := ⟨h.previous.1.trans h'.previous.1, h.previous.2.trans h'.previous.2⟩

end Onward

/-! ## What a turn does -/

namespace Turn

variable {c c' : Connection} {event : Event}

theorem sound (h : c.Turn event c') (sound : c.Sound) : c'.Sound := by
  obtain ⟨metadata, own, theirs, -⟩ := h.leaves
  have free : c'.metadata.contains PendingRotation.key ≠ true := by
    intro waits
    have completed := sound.waits (metadata ▸ waits)
    have open_ := h.source_open
    rw [completed] at open_
    cases open_
  have distinct : c'.previousDids.Nodup ∧ c'.previousTheirDids.Nodup := by
    rw [own, theirs]
    exact sound.distinct
  have keep (state : c'.state ∈ c'.role.states) fresh unanswered told heard : c'.Sound :=
    ⟨state, fresh, unanswered, told, heard, fun waits => absurd waits free, distinct⟩
  cases h with
  | makesRequest r did id label options attachment role state =>
    refine keep ?_ nofun nofun (fun _ => rfl) nofun
    change ExchangeState.requestSent ∈ c.role.states
    rw [role]
    decide
  | takesRequest m role state =>
    have unasked : c.did = none := by
      refine (sound.fresh ?_).1
      rcases state with state | state <;> rw [state] <;> rfl
    refine keep ?_ nofun (fun _ => unasked) nofun fun _ => rfl
    change ExchangeState.requestReceived ∈ c.role.states
    rw [role]
    decide
  | makesResponse r did id attachment role state =>
    refine keep ?_ nofun nofun (fun _ => rfl) fun _ => sound.heard (by rw [state]; rfl)
    change ExchangeState.responseSent ∈ c.role.states
    rw [role]
    decide
  | takesResponse m role state =>
    refine keep ?_ nofun nofun (fun _ => sound.told (by rw [state]; rfl)) fun _ => rfl
    change ExchangeState.responseReceived ∈ c.role.states
    rw [role]
    decide
  | makesComplete id role =>
    refine keep ?_ nofun nofun nofun nofun
    change ExchangeState.completed ∈ c.role.states
    rw [role]
    decide
  | takesComplete m role =>
    refine keep ?_ nofun nofun nofun nofun
    change ExchangeState.completed ∈ c.role.states
    rw [role]
    decide
  | takesProblem m =>
    refine keep ?_ nofun nofun nofun nofun
    change ExchangeState.abandoned ∈ c.role.states
    cases c.role <;> decide

theorem forward (h : c.Turn event c') (sound : c.Sound) :
    c.role.rank c.state ≤ c.role.rank c'.state := by
  cases h with
  | makesRequest r did id label options attachment role state =>
    change _ ≤ c.role.rank .requestSent
    rw [role]
    rcases state with state | state <;> rw [state] <;> decide
  | takesRequest m role state =>
    change _ ≤ c.role.rank .requestReceived
    rw [role]
    rcases state with state | state <;> rw [state] <;> decide
  | makesResponse r did id attachment role state =>
    change _ ≤ c.role.rank .responseSent
    rw [role, state]
    decide
  | takesResponse m role state =>
    change _ ≤ c.role.rank .responseReceived
    rw [role, state]
    decide
  | makesComplete id role state =>
    change _ ≤ c.role.rank .completed
    rw [role, state]
    decide
  | takesComplete m role state =>
    change _ ≤ c.role.rank .completed
    rw [role, state]
    decide
  | takesProblem m => exact ExchangeRole.rank_le_abandoned sound.state

/-- The thread of an exchange is set with its request, where there is none yet. -/
theorem thread (h : c.Turn event c') (sound : c.Sound) (there : c.threadId.isSome = true) :
    c'.threadId = c.threadId := by
  have asked : c.state.isFresh ≠ true := by
    intro fresh
    rw [(sound.fresh fresh).2] at there
    cases there
  cases h with
  | makesRequest r did id label options attachment role state =>
    exfalso
    rcases state with state | state <;> rw [state] at asked <;> exact asked rfl
  | takesRequest m role state =>
    exfalso
    rcases state with state | state <;> rw [state] at asked <;> exact asked rfl
  | _ => rfl

/-- The own DID is told once, where there is none yet. -/
theorem did (h : c.Turn event c') (sound : c.Sound) (there : c.did.isSome = true) :
    c'.did = c.did := by
  have asked : c.state.isFresh ≠ true := by
    intro fresh
    rw [(sound.fresh fresh).1] at there
    cases there
  cases h with
  | makesRequest r did id label options attachment role state =>
    exfalso
    rcases state with state | state <;> rw [state] at asked <;> exact asked rfl
  | makesResponse r did id attachment role state =>
    rw [sound.unanswered state] at there
    cases there
  | _ => rfl

/-- Who completes an exchange has told a DID and was told one. -/
theorem known (h : c.Turn event c') (sound : c.Sound) (completed : c'.state = .completed) :
    c'.did.isSome = true ∧ c'.theirDid.isSome = true := by
  cases h with
  | makesComplete id role state =>
    exact ⟨sound.told (by rw [state]; rfl), sound.heard (by rw [state]; rfl)⟩
  | takesComplete m role state =>
    exact ⟨sound.told (by rw [state]; rfl), sound.heard (by rw [state]; rfl)⟩
  | _ => cases completed

end Turn

/-! ## What a move does -/

namespace Move

variable {c c' : Connection} {d : Deed}

/-- A connection that stays completed is sound if its notes and DIDs are. -/
theorem sound (h : c.Move d c') (sound : c.Sound) : c'.Sound := by
  have completes (x : Connection) (role : x.role = c.role) (state : x.state = .completed)
      (distinct : x.previousDids.Nodup ∧ x.previousTheirDids.Nodup) : x.Sound := by
    refine ⟨?_, ?_, ?_, ?_, ?_, fun _ => state, distinct⟩
    · rw [role, state]
      cases c.role <;> decide
    all_goals
      rw [state]
      exact nofun
  obtain ⟨own, theirs⟩ := sound.distinct
  cases h with
  | exchanges turn => exact turn.sound sound
  | announces r completed => exact completes _ rfl completed sound.distinct
  | follows did completed => exact completes _ rfl completed ⟨own, nodup_remember _ theirs⟩
  | commits r completed => exact completes _ rfl completed ⟨nodup_remember _ own, theirs⟩
  | drops completed => exact completes _ rfl completed sound.distinct
  | hangsUp completed => exact completes _ rfl completed sound.distinct
  | hungUp completed => exact completes _ rfl completed ⟨own, nodup_remember _ theirs⟩

theorem onward (h : c.Move d c') (sound : c.Sound) : c.Onward c' := by
  cases h with
  | exchanges turn =>
    obtain ⟨-, own, theirs, -⟩ := turn.leaves
    obtain ⟨id, role, invitation, -⟩ := turn.keeps
    exact {
      same := ⟨id, role, invitation⟩
      forward := turn.forward sound
      terminal := fun terminal => by
        rw [turn.source_open] at terminal
        cases terminal
      thread := turn.thread sound
      previous := by
        rw [own, theirs]
        exact ⟨List.prefix_rfl, List.prefix_rfl⟩ }
  | follows did completed =>
    exact { Onward.refl c with previous := ⟨List.prefix_rfl, prefix_remember _ _⟩ }
  | commits r completed =>
    exact { Onward.refl c with previous := ⟨prefix_remember _ _, List.prefix_rfl⟩ }
  | hungUp completed =>
    exact { Onward.refl c with previous := ⟨List.prefix_rfl, prefix_remember _ _⟩ }
  | _ => exact { Onward.refl c with }

theorem version (h : c.Move d c') : c'.version = c.version + 1 := by
  cases h with
  | exchanges turn => exact turn.leaves.2.2.2
  | _ => rfl

theorem did (h : c.Move d c') (sound : c.Sound) (kept : d ≠ .commits ∧ d ≠ .hangsUp)
    (there : c.did.isSome = true) : c'.did = c.did := by
  cases h with
  | exchanges turn => exact turn.did sound there
  | commits r completed => exact absurd rfl kept.1
  | hangsUp completed => exact absurd rfl kept.2
  | _ => rfl

/-- The own DID of a completed connection goes only when the agent hangs up. -/
theorem own (h : c.Move d c') (sound : c.Sound) (kept : d ≠ .hangsUp)
    (known : c.state = .completed → c.did.isSome = true) (completed : c'.state = .completed) :
    c'.did.isSome = true := by
  cases h with
  | exchanges turn => exact (turn.known sound completed).1
  | announces r completed => exact known completed
  | follows did completed => exact known completed
  | commits r completed => rfl
  | drops completed => exact known completed
  | hangsUp completed => exact absurd rfl kept
  | hungUp completed => exact known completed

/-- The counterparty's DID of a completed connection goes only when the counterparty hangs up. -/
theorem theirs (h : c.Move d c') (sound : c.Sound) (kept : d ≠ .hungUp)
    (known : c.state = .completed → c.theirDid.isSome = true) (completed : c'.state = .completed) :
    c'.theirDid.isSome = true := by
  cases h with
  | exchanges turn => exact (turn.known sound completed).2
  | announces r completed => exact known completed
  | follows did completed => rfl
  | commits r completed => exact known completed
  | drops completed => exact known completed
  | hangsUp completed => exact known completed
  | hungUp completed => exact absurd rfl kept

end Move

/-! ## Several moves -/

/-- The connection has come to another one by moves, one for every deed. -/
inductive Goes : Connection → List Deed → Connection → Prop
  | refl (c : Connection) : Goes c [] c
  | move {c c₁ c₂ : Connection} {d : Deed} {ds : List Deed} (first : c.Move d c₁)
      (rest : Goes c₁ ds c₂) : Goes c (d :: ds) c₂

namespace Goes

variable {c c₁ c₂ : Connection} {ds ds' : List Deed}

theorem one {d : Deed} (h : c.Move d c₁) : c.Goes [d] c₁ := .move h (.refl c₁)

theorem trans (h : c.Goes ds c₁) (h' : c₁.Goes ds' c₂) : c.Goes (ds ++ ds') c₂ := by
  induction h with
  | refl c => exact h'
  | move first _ ih => exact .move first (ih h')

theorem sound (h : c.Goes ds c₁) (sound : c.Sound) : c₁.Sound := by
  induction h with
  | refl c => exact sound
  | move first _ ih => exact ih (first.sound sound)

theorem onward (h : c.Goes ds c₁) (sound : c.Sound) : c.Onward c₁ := by
  induction h with
  | refl c => exact .refl c
  | move first _ ih => exact (first.onward sound).trans (ih (first.sound sound))

theorem did (h : c.Goes ds c₁) (sound : c.Sound) (kept : .commits ∉ ds ∧ .hangsUp ∉ ds)
    (there : c.did.isSome = true) : c₁.did = c.did := by
  induction h with
  | refl c => rfl
  | move first _ ih =>
    obtain ⟨commits, hangsUp⟩ := kept
    obtain ⟨commit, commits⟩ := not_or.mp (mt List.mem_cons.mpr commits)
    obtain ⟨hangUp, hangsUp⟩ := not_or.mp (mt List.mem_cons.mpr hangsUp)
    have same := first.did sound ⟨Ne.symm commit, Ne.symm hangUp⟩ there
    exact (ih (first.sound sound) ⟨commits, hangsUp⟩ (same ▸ there)).trans same

theorem own (h : c.Goes ds c₁) (sound : c.Sound) (kept : .hangsUp ∉ ds)
    (known : c.state = .completed → c.did.isSome = true) (completed : c₁.state = .completed) :
    c₁.did.isSome = true := by
  induction h with
  | refl c => exact known completed
  | move first _ ih =>
    obtain ⟨other, kept⟩ := not_or.mp (mt List.mem_cons.mpr kept)
    exact ih (first.sound sound) kept (first.own sound (Ne.symm other) known) completed

theorem theirs (h : c.Goes ds c₁) (sound : c.Sound) (kept : .hungUp ∉ ds)
    (known : c.state = .completed → c.theirDid.isSome = true) (completed : c₁.state = .completed) :
    c₁.theirDid.isSome = true := by
  induction h with
  | refl c => exact known completed
  | move first _ ih =>
    obtain ⟨other, kept⟩ := not_or.mp (mt List.mem_cons.mpr kept)
    exact ih (first.sound sound) kept (first.theirs sound (Ne.symm other) known) completed

theorem version (h : c.Goes ds c₁) : c₁.version = c.version + UInt64.ofNat ds.length := by
  induction h with
  | refl c => exact (UInt64.add_zero _).symm
  | move first _ ih =>
    rw [ih, first.version, UInt64.add_assoc, List.length_cons, Nat.add_comm, UInt64.ofNat_add]
    rfl

/-- As long as versions do not start over, a connection of the same version has not moved. -/
theorem eq_of_version (h : c.Goes ds c₁) (few : ds.length < UInt64.size)
    (same : c₁.version = c.version) : c₁ = c := by
  have length : ds.length = 0 := by
    have moved := congrArg UInt64.toNat (same.symm.trans h.version)
    rw [UInt64.toNat_add, UInt64.toNat_ofNat'] at moved
    have small : c.version.toNat < 2 ^ 64 := c.version.toNat_lt
    have size : UInt64.size = 2 ^ 64 := rfl
    omega
  obtain rfl := List.eq_nil_of_length_eq_zero length
  cases h
  rfl

end Goes

end Connection

end Pairwise
