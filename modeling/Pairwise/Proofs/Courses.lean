import Pairwise.Proofs.MadeDids
/-!
# The course of an operation

An operation is one action, or several in turn: whoever receives a message processes it, and may answer
it at once. In its course an agent is asked to act on connections that are stored then, or on the copy
that the operation is given. What every action keeps is kept by operations and by runs.

Results:
* `Operation.Asks`: what an agent is asked to do in the course of an operation, and which agent it is
  then.
* `Operation.Passes`, `Operation.passes`: the agents that an operation passes through.
* `Agent.along`: what every action keeps is so at all points of a run.
* `Connection.Regular`, `Agent.regular`: what is true of all connections in a run.
-/
namespace Pairwise

open Step
open Connection (Deed)

section Courses

variable [suite : Suite] [chance : Chance]

namespace Agent

/-! ## What is asked -/

omit chance in
/-- The envelope hands a message to the connection that its key leads to, in the name of a sender that is
accepted there. -/
def Hands (a : Agent) (e : Envelope) (m : Message) (c : Connection) : Prop :=
  ∃ opened, a.unpack e = .ok opened ∧ Message.ofJson opened.plaintext = .ok m ∧
    connectionFor m opened.recipient a = .ok c ∧ checkSender m c opened.sender a = .ok ()

omit chance in
theorem Hands.stored {a : Agent} {e : Envelope} {m : Message} {c : Connection}
    (h : a.Hands e m c) : a.connections.find? c.id = some c := by
  obtain ⟨opened, -, -, found, -⟩ := h
  exact connectionOfKey_stored (connectionFor_eq_ok.mp found)

omit chance in
/-- The agent afterwards has the connections and the DIDs that it had. -/
structure Rests (a a' : Agent) : Prop where
  connections : a'.connections = a.connections
  dids : a'.dids = a.dids

instance : IsPreorder Agent Rests where
  refl _ := ⟨rfl, rfl⟩
  trans _ _ _ hab hbc := ⟨hbc.connections.trans hab.connections, hbc.dids.trans hab.dids⟩

end Agent

open Agent

/-- What the agent is asked to do in the course of an operation: what the operation says, or what the
message of an envelope and the answer to it ask for. The agent that is asked is the second one. -/
inductive Operation.Asks (a : Agent) : Operation → Agent → Connection → Action → Prop
  | on (c : Connection) (y : Action) : Asks a (.on c y) a c y
  | receives {e : Envelope} {m : Message} {c : Connection} {y : Action} (hands : a.Hands e m c)
      (asks : m.action? = some y) : Asks a (.receive e) a c y
  | requested {e : Envelope} {m : Request} {c : Connection} {r : Option Routing} {b : Agent}
      (hands : a.Hands e (.request m) c) (routing : (answerRouting c).run a = (.ok r, b)) :
      Asks a (.receive e) b c (.processRequest m r)
  | responds {e : Envelope} {m : Request} {c c' : Connection} {r : Option Routing} {b b' : Agent}
      (hands : a.Hands e (.request m) c) (routing : (answerRouting c).run a = (.ok r, b))
      (taken : (processRequest c m r).run b = (.ok c', b'))
      (accepting : accepts c' a.settings = true) : Asks a (.receive e) b' c' (.createResponse r)
  | completes {e : Envelope} {m : Response} {c c' : Connection} {b : Agent}
      (hands : a.Hands e (.response m) c) (taken : (processResponse c m).run a = (.ok c', b))
      (accepting : accepts c' a.settings = true) : Asks a (.receive e) b c' .createComplete

/-- The agents that an operation passes through. -/
inductive Operation.Passes (a : Agent) : Operation → Agent → Prop
  | start (x : Operation) : Passes a x a
  | rests {x : Operation} {b b' : Agent} (before : Passes a x b) (rests : Rests b b') : Passes a x b'
  | invites {r : Routing} {multiUse : Bool} {label : Option String} {i : Invitation} {c : Connection}
      {b : Agent} (made : (createInvitation r multiUse label).run a = (.ok (i, c), b)) :
      Passes a (.invite r multiUse label) b
  | accepts {i : Invitation} {autoAccept : Option Bool} {c : Connection} {b : Agent}
      (taken : (receiveInvitation i autoAccept).run a = (.ok c, b)) :
      Passes a (.accept i autoAccept) b
  | acts {x : Operation} {b : Agent} {c : Connection} {y : Action} (before : Passes a x b)
      (asks : x.Asks a b c y) : Passes a x ((y.step c).run b).2

namespace Agent

variable {a a' b : Agent} {c : Connection}

/-! ## How the parts rest -/

theorem drawId_rests : Keeps Rests drawId := fun _ => ⟨rfl, rfl⟩

theorem answerRouting_rests (c : Connection) : Keeps Rests (answerRouting c) := by
  intro a
  unfold answerRouting
  split
  · exact ⟨rfl, rfl⟩
  · exact ⟨rfl, rfl⟩

theorem freshRouting_rests (mediator : Option Mediator) : Keeps Rests (freshRouting mediator) := by
  intro a
  cases mediator <;> exact ⟨rfl, rfl⟩

theorem package_rests (o : Outbound) : Keeps Rests (package o) :=
  package_keeps drawId_rests (fun _ _ => ⟨rfl, rfl⟩) o

/-- What comes of a message is what its processing does, with a report at most. -/
theorem handle_rests (m : Message) (c : Connection) (a : Agent) :
    Rests ((dispatch m c).run a).2 ((handle m c).run a).2 := by
  rw [handle, Step.bind_ok (Step.attempt_run _ _)]
  cases ((dispatch m c).run a).1 with
  | ok answer => exact refl _
  | error e =>
    dsimp only
    split
    · exact ⟨rfl, rfl⟩
    · exact refl _

/-! ## How connections begin -/

omit chance in
/-- A new connection is stored, on which the agent has done nothing. -/
structure Starts (a : Agent) (c : Connection) (a' : Agent) : Prop where
  saved : a.connections.save c = .ok a'.connections
  dids : a'.dids = a.dids
  blank : c.Blank
  tags : c.customTags = []
  thread : c.threadId = none

omit chance in
theorem saveConnection_starts (rests : Rests a b) {c' : Connection}
    (h : (saveConnection c).run b = (.ok c', a')) (blank : c.Blank) (tags : c.customTags = [])
    (thread : c.threadId = none) : c' = c ∧ Starts a c a' := by
  obtain ⟨rfl, connections, saved, rfl⟩ := saveConnection_run_ok.mp h
  exact ⟨rfl, rests.connections ▸ saved, rests.dids, blank, tags, thread⟩

/-- The connection of an invitation that is made waits for requests to the key of the routing. -/
theorem createInvitation_starts {r : Routing} {multiUse : Bool} {label : Option String}
    {i : Invitation} (made : (createInvitation r multiUse label).run a = (.ok (i, c), a')) :
    Starts a c a' ∧ c.state = .invitationSent ∧ c.invitationKey = some r.recipientKey.base58 := by
  simp only [createInvitation, newConnection, bind_run_ok, view_run_ok, pure_run_ok] at made
  obtain ⟨_, _, ⟨-, rfl⟩, _, _, first, new, _, ⟨_, _, second, _, _, ⟨-, rfl⟩, rfl, rfl⟩, stored, _,
    hsave, ⟨⟩, rfl⟩ := made
  have rests := IsTrans.trans _ _ _ (drawId_rests.of_run first) (drawId_rests.of_run second)
  obtain ⟨rfl, starts⟩ := saveConnection_starts rests hsave ⟨rfl, rfl, rfl⟩ rfl rfl
  exact ⟨starts, rfl, rfl⟩

theorem receiveInvitation_starts {i : Invitation} {autoAccept : Option Bool}
    (taken : (receiveInvitation i autoAccept).run a = (.ok c, a')) :
    Starts a c a' ∧ c.state = .invitationReceived := by
  simp only [receiveInvitation, newConnection, bind_run_ok, view_run_ok, pure_run_ok] at taken
  obtain ⟨new, _, ⟨_, _, first, _, _, ⟨-, rfl⟩, rfl, rfl⟩, hsave⟩ := taken
  obtain ⟨rfl, starts⟩ :=
    saveConnection_starts (drawId_rests.of_run first) hsave ⟨rfl, rfl, rfl⟩ rfl rfl
  exact ⟨starts, rfl⟩

theorem createInvitation_rests {r : Routing} {multiUse : Bool} {label : Option String} {e : Error}
    (h : (createInvitation r multiUse label).run a = (.error e, a')) : Rests a a' := by
  have quiet : (createInvitation r multiUse label).FailsQuietly := by
    unfold createInvitation
    refine .bind (.view _) fun _ => .bind drawId_quiet fun _ => ?_
    exact .bind (newConnection_quiet _ _) fun _ => .bind_pure (saveConnection_failsQuietly _) _
  have dids : Keeps SameDids (createInvitation r multiUse label) := by
    unfold createInvitation
    refine .bind (.view _) fun _ => .bind drawId_sameDids fun _ => ?_
    exact .bind (newConnection_sameDids _ _) fun _ => .bind (saveConnection_sameDids _) fun _ => .pure _
  exact ⟨(quiet _ _ _ h).connections, dids.of_run h⟩

theorem receiveInvitation_rests {i : Invitation} {autoAccept : Option Bool} {e : Error}
    (h : (receiveInvitation i autoAccept).run a = (.error e, a')) : Rests a a' := by
  have quiet : (receiveInvitation i autoAccept).FailsQuietly := by
    unfold receiveInvitation
    exact .bind (newConnection_quiet _ _) fun _ => saveConnection_failsQuietly _
  have dids : Keeps SameDids (receiveInvitation i autoAccept) := by
    unfold receiveInvitation
    exact .bind (newConnection_sameDids _ _) fun _ => saveConnection_sameDids _
  exact ⟨(quiet _ _ _ h).connections, dids.of_run h⟩

end Agent

/-! ## All operations -/

namespace Operation

variable {a b : Agent} {c : Connection} {x : Operation} {y : Action}

/-- Whatever the agent is asked to do, it is asked to do with the copy that the operation is given, or
with a connection that is stored then. -/
theorem Asks.stored (asks : x.Asks a b c y) :
    x = .on c y ∧ b = a ∨ b.connections.find? c.id = some c := by
  cases asks with
  | on => exact .inl ⟨rfl, rfl⟩
  | receives hands => exact .inr hands.stored
  | requested hands routing =>
    exact .inr (((answerRouting_rests c).of_run routing).connections ▸ hands.stored)
  | @responds e m c₀ _ _ b₀ _ hands routing taken =>
    have before : b₀.connections.find? c₀.id = some c₀ :=
      ((answerRouting_rests c₀).of_run routing).connections ▸ hands.stored
    rcases processRequest_cases before taken with turn | fork
    · exact .inr (turn.turn.keeps.1 ▸ turn.after)
    · exact .inr fork.after
  | completes hands taken =>
    have turn := (processResponse_turn hands.stored taken).2
    exact .inr (turn.turn.keeps.1 ▸ turn.after)

theorem Asks.faithful (asks : x.Asks a b c y) {id : String}
    (faithful : ∀ c y, x = .on c y → a.Faithful id c) : b.Faithful id c := by
  rcases asks.stored with ⟨rfl, rfl⟩ | stored
  · exact faithful c y rfl
  · exact faithful_of_stored stored id

/-- Nobody announces a rotation but who is asked to. -/
theorem Asks.direct {target : RotationTarget} (asks : x.Asks a b c (.createRotate target)) :
    x = .on c (.createRotate target) ∧ b = a := by
  cases asks with
  | on => exact ⟨rfl, rfl⟩
  | @receives e m _ _ hands asks => cases m <;> cases asks

/-- A message is processed in the course of the operation that receives it, and so is the answer. -/
theorem passes_dispatch {e : Envelope} {m : Message} (hands : a.Hands e m c) :
    (receive e).Passes a ((dispatch m c).run a).2 := by
  have start : (receive e).Passes a a := .start _
  have processing {m : Message} {y : Action} (hands : a.Hands e m c) (other : ∀ q, m ≠ .response q)
      (asks : m.action? = some y) : (receive e).Passes a ((dispatch m c).run a).2 := by
    rw [dispatch_action other asks]
    exact start.acts (.receives hands asks)
  cases m with
  | request m =>
    rw [dispatch, bind_view]
    dsimp only
    obtain ⟨r, b, routing, -⟩ := answerRouting_run c a
    have asks : (receive e).Asks a b c (.processRequest m r) := .requested hands routing
    have taking := (start.rests ((answerRouting_rests c).of_run routing)).acts asks
    change (receive e).Passes a ((Agent.processRequest c m r).done.run b).2 at taking
    rw [done_run] at taking
    rw [Step.bind_ok routing, run_bind]
    rcases taken : (Agent.processRequest c m r).run b with ⟨error | c', b'⟩
    · rwa [taken] at taking
    rw [taken] at taking
    dsimp only
    split
    · next accepting =>
      have answering := taking.acts (.responds hands routing taken accepting)
      change (receive e).Passes a ((Agent.createResponse c' r).done.run b').2 at answering
      rw [done_run] at answering
      rwa [run_bind_of_still _ fun _ _ => rfl]
    · exact taking
  | response m =>
    rw [dispatch, bind_view]
    dsimp only
    have taking := start.acts (.receives hands rfl)
    change (receive e).Passes a ((Agent.processResponse c m).done.run a).2 at taking
    rw [done_run] at taking
    rw [run_bind]
    rcases taken : (Agent.processResponse c m).run a with ⟨error | c', b⟩
    · rwa [taken] at taking
    rw [taken] at taking
    dsimp only
    split
    · next accepting =>
      have answering := taking.acts (.completes hands taken accepting)
      change (receive e).Passes a ((Agent.createComplete c').done.run b).2 at answering
      rw [done_run] at answering
      rwa [run_bind_of_still _ fun _ _ => rfl]
    · exact taking
  | forward m => exact start
  | complete m => exact processing hands (fun _ => Message.noConfusion) rfl
  | exchangeProblem m => exact processing hands (fun _ => Message.noConfusion) rfl
  | rotate m => exact processing hands (fun _ => Message.noConfusion) rfl
  | rotateAck m => exact processing hands (fun _ => Message.noConfusion) rfl
  | hangup m => exact processing hands (fun _ => Message.noConfusion) rfl
  | rotateProblem m => exact processing hands (fun _ => Message.noConfusion) rfl

/-- Every operation ends with an agent that it passes through. -/
theorem passes (a : Agent) (x : Operation) : x.Passes a (x.step.run a).2 := by
  cases x with
  | invite r multiUse label =>
    change Passes a _ ((Agent.createInvitation r multiUse label).done.run a).2
    rw [done_run]
    rcases h : (Agent.createInvitation r multiUse label).run a with ⟨e | ⟨i, c⟩, b⟩
    · exact .rests (.start _) (createInvitation_rests h)
    · exact .invites h
  | accept i autoAccept =>
    change Passes a _ ((Agent.receiveInvitation i autoAccept).done.run a).2
    rw [done_run]
    rcases h : (Agent.receiveInvitation i autoAccept).run a with ⟨e | c, b⟩
    · exact .rests (.start _) (receiveInvitation_rests h)
    · exact .accepts h
  | on c y => exact .acts (.start _) (.on c y)
  | receive e =>
    change Passes a _ ((Agent.receive e).done.run a).2
    rw [done_run]
    rcases receive_cases (Prod.eta ((Agent.receive e).run a)).symm with
      ⟨-, same⟩ | ⟨opened, m, c, hopen, hm, found, accepted, handled⟩
    · rw [same]
      exact .start _
    · have rests := handle_rests m c a
      rw [handled] at rests
      exact .rests (passes_dispatch ⟨opened, hopen, hm, found, accepted⟩) rests
  | route mediator => exact .rests (.start _) ((freshRouting_rests mediator).done a)
  | package o => exact .rests (.start _) ((package_rests o).done a)

end Operation

/-! ## All connections -/

namespace Connection

omit suite chance

/-- What is true of every connection in a run that began with none. -/
structure Regular (c : Connection) : Prop extends c.Sound where
  tags : c.customTags = []
  young : c.state ≠ .completed → c.previousDids = []

/-- No move changes the tags of a connection's own. -/
theorem Move.customTags {c c' : Connection} {d : Deed} (h : c.Move d c') :
    c'.customTags = c.customTags := by
  cases h with
  | exchanges turn => cases turn <;> rfl
  | _ => rfl

/-- Nobody begins to wait for requests by a move. -/
theorem Move.state {c c' : Connection} {d : Deed} (h : c.Move d c') :
    c'.state ≠ .invitationSent := by
  cases h with
  | exchanges turn => cases turn <;> exact nofun
  | announces r completed => exact fun waits => nomatch completed.symm.trans waits
  | follows did completed => exact fun waits => nomatch completed.symm.trans waits
  | commits r completed => exact fun waits => nomatch completed.symm.trans waits
  | drops completed => exact fun waits => nomatch completed.symm.trans waits
  | hangsUp completed => exact fun waits => nomatch completed.symm.trans waits
  | hungUp completed => exact fun waits => nomatch completed.symm.trans waits

/-- A connection stays completed, unless its exchange goes on. -/
theorem Move.young {c c' : Connection} {d : Deed} (h : c.Move d c')
    (young : c.state ≠ .completed → c.previousDids = []) (open_ : c'.state ≠ .completed) :
    c'.previousDids = [] := by
  cases h with
  | exchanges turn =>
    rw [turn.leaves.2.1]
    refine young fun completed => ?_
    have source := turn.source_open
    rw [completed] at source
    cases source
  | announces r completed => exact absurd completed open_
  | follows did completed => exact absurd completed open_
  | commits r completed => exact absurd completed open_
  | drops completed => exact absurd completed open_
  | hangsUp completed => exact absurd completed open_
  | hungUp completed => exact absurd completed open_

theorem Regular.move {c c' : Connection} {d : Deed} (h : c.Regular) (move : c.Move d c') :
    c'.Regular where
  toSound := move.sound h.toSound
  tags := move.customTags.trans h.tags
  young := move.young h.young

end Connection

namespace Agent

variable {a a' : Agent} {c : Connection} {xs : List Operation} {n : Nat}

/-! ## What is stored -/

omit chance in
/-- What is stored after an update is the connection that was updated, or another one that was stored
before. -/
theorem Stores.mem {next stored z : Connection} (h : Stores a next stored a')
    (mem : z ∈ a'.connections.records) :
    z = next.next ∨ z.id ≠ next.id ∧ z ∈ a.connections.records := by
  by_cases own : z.id = next.id
  · have found : a'.connections.find? next.id = some z := Store.find?_eq_some.mpr ⟨mem, own⟩
    exact .inl (Option.some.inj (found.symm.trans h.find?_next))
  · exact .inr ⟨own, h.others z mem own⟩

omit chance in
theorem Starts.mem {z : Connection} (h : Starts a c a') (mem : z ∈ a'.connections.records) :
    z = c ∨ z.id ≠ c.id ∧ z ∈ a.connections.records := by
  obtain ⟨new, records⟩ := Store.save_eq_ok.mp h.saved
  rw [records, List.mem_append, List.mem_singleton] at mem
  exact mem.symm.imp_right fun before => ⟨Store.find?_eq_none.mp new z before, before⟩

/-- A connection that has just begun is regular, if the one that it was forked from is. -/
theorem Begins.regular (h : a.Begins c) (blank : c.Blank) (tags : c.customTags = []) : c.Regular :=
  ⟨h.sound.2.1, tags, fun _ => blank.previous⟩

/-- What an action leaves behind is regular, if its connection is. -/
theorem regular_of_leaves {y : Action} {result : Except Error Unit} (h : y.Leaves a c a' result)
    (copy : c.Regular) (all : ∀ z ∈ a.connections.records, z.Regular) :
    ∀ z ∈ a'.connections.records, z.Regular := by
  intro z mem
  cases h with
  | fails quiet => exact all z (quiet.connections ▸ mem)
  | refuses quiet => exact all z (quiet.connections ▸ mem)
  | forks many taken saved blank tags =>
    rw [(Store.save_eq_ok.mp saved).2, List.mem_append, List.mem_singleton] at mem
    rcases mem with before | rfl
    · exact all z before
    · exact Begins.regular (.forks many taken) blank (tags.trans copy.tags)
  | revises stores same revises =>
    rcases stores.mem mem with rfl | ⟨-, before⟩
    · obtain ⟨d, move⟩ := revises.move
      exact copy.move move
    · exact all z before

/-- Every copy that a run is given was stored at an earlier point of it. -/
theorem CopiesRead.stored (copies : ∀ id, a.CopiesRead id xs) {y : Action}
    (asks : xs[n]? = some (.on c y)) :
    ∃ m ≤ n, c ∈ (a.after (xs.take m)).connections.records := by
  obtain ⟨m, le, -, found⟩ := copies c.id n c y asks rfl
  exact ⟨m, le, (Store.find?_eq_some.mp found).1⟩

/-- A run that is given no copies. -/
theorem CopiesRead.of_none {id : String} (none : ∀ c y, .on c y ∉ xs) : a.CopiesRead id xs :=
  fun _ c y asks => absurd (List.mem_of_getElem? asks) (none c y)

/-- What is so at the beginning of a run and is kept by all that an operation passes through is so at every
point of the run. An action may count on the points before it too, where the copy that it is given may come
from. -/
theorem along {P : Agent → Prop} (start : P a) (rests : ∀ b b', Rests b b' → P b → P b')
    (invites : ∀ n r multiUse label i c b, xs[n]? = some (.invite r multiUse label) →
      P (a.after (xs.take n)) →
      (createInvitation r multiUse label).run (a.after (xs.take n)) = (.ok (i, c), b) → P b)
    (accepts : ∀ n i autoAccept c b, xs[n]? = some (.accept i autoAccept) →
      P (a.after (xs.take n)) →
      (receiveInvitation i autoAccept).run (a.after (xs.take n)) = (.ok c, b) → P b)
    (acts : ∀ n x b c y, xs[n]? = some x → (∀ m ≤ n, P (a.after (xs.take m))) →
      x.Asks (a.after (xs.take n)) b c y → P b → P ((y.step c).run b).2)
    (hn : n ≤ xs.length) : P (a.after (xs.take n)) := by
  induction n using Nat.strongRecOn with
  | ind n ih =>
  cases n with
  | zero => exact start
  | succ n =>
    have before (m : Nat) (le : m ≤ n) := ih m (Nat.lt_succ_of_le le) (by omega)
    have now := before n (Nat.le_refl n)
    rw [after_take_succ a hn]
    have at_ : xs[n]? = some xs[n] := List.getElem?_eq_getElem hn
    have passes := xs[n].passes (a.after (xs.take n))
    generalize xs[n] = x, (xs[n].step.run (a.after (xs.take n))).2 = b at at_ passes ⊢
    induction passes with
    | start => exact now
    | rests _ same ih => exact rests _ _ same (ih at_)
    | invites made => exact invites n _ _ _ _ _ _ at_ now made
    | accepts taken => exact accepts n _ _ _ _ at_ now taken
    | acts _ asks ih => exact acts n _ _ _ _ at_ before asks (ih at_)

/-- All connections that are stored at a point of a run are regular. -/
theorem regular (empty : a.connections.records = []) (copies : ∀ id, a.CopiesRead id xs)
    (hn : n ≤ xs.length) : ∀ c ∈ (a.after (xs.take n)).connections.records, c.Regular := by
  refine along (P := fun b => ∀ c ∈ b.connections.records, c.Regular) ?_ ?_ ?_ ?_ ?_ hn
  · rw [empty]
    exact List.forall_mem_nil _
  · exact fun b b' same all => same.connections ▸ all
  · intro n r multiUse label i c b _ all made z mem
    obtain ⟨starts, -⟩ := createInvitation_starts made
    rcases starts.mem mem with rfl | ⟨-, old⟩
    · exact Begins.regular (.invites made) starts.blank starts.tags
    · exact all z old
  · intro n i autoAccept c b _ all taken z mem
    obtain ⟨starts, -⟩ := receiveInvitation_starts taken
    rcases starts.mem mem with rfl | ⟨-, old⟩
    · exact Begins.regular (.accepts taken) starts.blank starts.tags
    · exact all z old
  · intro n x b c y at_ before asks all
    refine regular_of_leaves (Action.leaves (Prod.eta _).symm) ?_ all
    rcases asks.stored with ⟨rfl, rfl⟩ | stored
    · obtain ⟨m, le, mem⟩ := CopiesRead.stored copies at_
      exact before m le c mem
    · exact all c (Store.find?_eq_some.mp stored).1

end Agent

end Courses

/-! ## Runs -/

section Plain

attribute [local instance] Suite.plain Chance.counting

namespace Agent

/-- A request for an invitation tells a DID of form 1, and the document of the DID with it. -/
structure Requesting (i : Invitation) (label : String) (r : Routing) (p : PeerDid) (m : Request)
    (attachment : Attachment) : Prop where
  made : p.Made r
  form : PeerDid.form p.did = .ok .genesisHash
  telling : m = .telling m.id label i.id p.did {} attachment
  plain : attachment.Plain
  told : theirPeerDid p.did (some attachment) [] = .ok p

/-- Any invitation can be answered so. -/
theorem plain_requests (i : Invitation) :
    ∃ label r p m attachment, Requesting i label r p m attachment := by
  obtain ⟨c, a, p, -, stage, moves, made, form, tells⟩ := plain_tells i
  obtain ⟨m, a', attachment, record, -, hm, plain, told, -⟩ :=
    createRequest_run Suite.plain_lawful tells moves.connections stage.role stage.state
      stage.invitation {}
  exact ⟨_, _, p, m, attachment, made, form, hm, plain, told⟩

/-- An agent that does not accept by itself. -/
def plainManual : Agent :=
  { plain .hashAndDocument [2] with settings := { exchangeForm := .hashAndDocument } }

/-- An agent with an invitation for many has received a request for it, which waits for an answer on a
connection of its own. -/
structure Unanswered (b b' : Agent) (s : Routing) (i : Invitation) (d f : Connection) (p : PeerDid)
    (m : Request) (e : Envelope) : Prop where
  waiting : Waiting b [] d i s
  many : d.multiUse = true
  holds : e.Holds (Message.request m).toJson [s.recipientKey] none
  readable : (Message.request m).Readable
  received : (receive e).run b = (.ok none, b')
  taken : (processRequest d m (some (nextRouting b))).run (withNextKey b) = (.ok f, b')
  names : d.id = Chance.uuid 1 ∧ f.id = Chance.uuid 2
  stage : f.At i .responder .requestReceived none (some p.did) (some m.id)
  plain : f.Plain
  mediator : f.mediatorId = d.mediatorId
  form : PeerDid.form p.did = .ok .genesisHash
  known : ∃ r record, p.Made r ∧ record.Of .received p r ∧ b'.dids.records = [record]
  connections : b'.connections.records = [d, f]
  settings : b'.settings = plainManual.settings
  held : b'.wallet.holds s.recipientKey = true
  ids : b'.draws.ids = 3

/-- Somebody requests a connection of such an agent. -/
theorem plain_unanswered : ∃ b b' s i d f p m e,
    (createInvitation s true none).run plainManual = (.ok (i, d), b) ∧
      Unanswered b b' s i d f p m e := by
  let s := Routing.plain [2] []
  have form : PeerForm.hashAndDocument ≠ .inceptionKey := nofun
  have host : Host (plain .hashAndDocument [2]) s := plain_host form [2] []
  obtain ⟨i, d, b, made, hi, hd, moves⟩ := createInvitation_run (a := plainManual) s true none rfl
  have waiting : Waiting b [] d i s := by
    rw [hi] at hd ⊢
    refine ⟨moves.connections, List.forall_mem_nil _, hd ▸ ⟨rfl, rfl, rfl, rfl⟩,
      hd ▸ ⟨rfl, rfl, rfl, rfl, rfl, rfl⟩, hd ▸ rfl, ⟨rfl, rfl, rfl⟩, host.sound, ?_,
      moves.wallet ▸ host.held⟩
    rw [didsOfKey_received moves.dids (List.forall_mem_nil _)]
    rfl
  obtain ⟨label, r, p, m, attachment, requests⟩ := plain_requests i
  have hm := requests.telling
  have readable : (Message.request m).Readable := by
    rw [hm]
    exact Request.telling_readable _ _ _ _ _ requests.plain
  obtain ⟨e, -, -, -, holds⟩ := sealFor_run (a := plainManual) Suite.plain_lawful Chance.counting_lawful
    readable.fits (List.forall_mem_singleton.mpr host.sound.recipient) (List.cons_ne_nil _ _) none nofun
  have uses : d.multiUse = true := hd ▸ rfl
  have manual : accepts d b.settings = false := by
    rw [moves.settings, hd]
    rfl
  have distinct : Chance.uuid 2 ≠ Chance.uuid 1 := by decide
  have id : d.id = Chance.uuid 1 := hd ▸ rfl
  have new : b.connections.find? (Chance.uuid b.draws.ids) = none := by
    rw [moves.ids]
    refine Store.find?_eq_none_append moves.connections rfl (List.forall_mem_singleton.mpr ?_)
    exact fun same => distinct (same.symm.trans id)
  have holds' := hm ▸ holds
  obtain ⟨f, b₁, record, received, taken, id', stage, plain', mediator, isOf, moves₁⟩ :=
    waiting.receiveRequest_waits uses manual new requests.made
      (Store.find?_eq_none_append moves.dids rfl (List.forall_mem_nil _)) requests.plain requests.told
      holds'
  have dids : b₁.dids.records = [record] := by
    rw [moves₁.dids]
    exact congrArg (· ++ [record]) moves.dids
  refine ⟨b, b₁, s, i, d, f, p, m, e, made, waiting, uses, holds, readable, received, hm ▸ taken,
    ⟨id, ?_⟩, stage, plain', mediator.trans waiting.mediator.symm, requests.form,
    ⟨r, record, requests.made, isOf, dids⟩, ?_, moves₁.settings.trans moves.settings,
    moves₁.wallet ▸ Wallet.holds_add waiting.held _, ?_⟩
  · rw [id', moves.ids]
    rfl
  · rw [moves₁.connections, moves.connections]
    rfl
  · rw [moves₁.ids]
    exact congrArg (· + 1) moves.ids

namespace Unanswered

variable {b b' : Agent} {s : Routing} {i : Invitation} {d f : Connection} {p : PeerDid} {m : Request}
  {e : Envelope}

/-- No copy is read before the request has come. -/
theorem copies (id : String) : plainManual.CopiesRead id [.invite s true none, .receive e] :=
  .of_none fun _ _ mem => by rcases List.mem_pair.mp mem with same | same <;> cases same

theorem after (h : Unanswered b b' s i d f p m e)
    (made : (createInvitation s true none).run plainManual = (.ok (i, d), b)) :
    plainManual.after [.invite s true none, .receive e] = b' := by
  change ((Agent.receive e).done.run ((createInvitation s true none).done.run plainManual).2).2 = b'
  rw [done_run, done_run, made, h.received]

theorem other (h : Unanswered b b' s i d f p m e) : f.id ≠ d.id := by
  rw [h.names.1, h.names.2]
  decide

/-- The key of the invitation is for no DID. -/
theorem unused (h : Unanswered b b' s i d f p m e) : b'.didsOfKey s.recipientKey = [] := by
  obtain ⟨r, record, -, isOf, dids⟩ := h.known
  rw [didsOfKey, Store.query, dids]
  refine List.filter_eq_nil_iff.mpr fun known mem accepted => ?_
  rw [List.mem_singleton.mp mem] at accepted
  cases isOf.role.symm.trans (DidRecord.accepts_key.mp accepted).1

theorem first (h : Unanswered b b' s i d f p m e) :
    d.invitationKey = some s.recipientKey.base58 := by
  rw [Connection.invitationKey, h.waiting.stage.invitation]
  change i.recipientKeys.head? = _
  rw [h.waiting.tells.recipients]
  rfl

end Unanswered

end Agent

end Plain

end Pairwise
