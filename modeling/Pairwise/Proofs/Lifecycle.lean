import Pairwise.Proofs.Actions
/-!
# The life of a connection

A connection begins with an invitation, and from then on it moves, whatever its agent is asked to do:
its operations are given copies of connections, new ones and old ones, and whatever envelopes come. A
copy that is older than the stored connection has another version, and nothing is stored of it.

Results:
* `Agent.Leads`: what has become of a stored connection.
* `Action.leads`, `receive_leads`, `Operation.leads`: what an operation can make of one.
* `after_leads`: so a connection goes on by moves through a whole run.
* `Agent.lifecycle`: what is true of it all the time, and what is never taken back.
-/
namespace Pairwise

open Step
open Connection (Deed)

section Lives

variable [suite : Suite]

section Runs

variable [chance : Chance]

/-! ## Who does what -/

/-- What an agent is asked to do with the connection that a message comes to. A request needs a routing,
and what is to be forwarded is not for the agent. -/
def Message.action? : Message → Option Action
  | .response m => some (.processResponse m)
  | .complete m => some (.processComplete m)
  | .exchangeProblem m => some (.processExchangeProblem m)
  | .rotate m => some (.processRotate m)
  | .rotateAck m => some (.processRotateAck m)
  | .hangup m => some (.processHangup m)
  | .rotateProblem m => some (.processRotateProblem m)
  | .request _ | .forward _ => none

namespace Operation

/-- The operation does it with the connection: as it is asked, or because an envelope brings the message
for it. -/
inductive Calls (a : Agent) : Operation → Connection → Action → Prop
  | on (c : Connection) (y : Action) : Calls a (.on c y) c y
  | receives {e : Envelope} {m : Message} {c : Connection} {y : Action} (brings : a.Brings e m c)
      (asks : m.action? = some y) : Calls a (.receive e) c y

/-- The operation does it, with success, on the connection of an id. -/
def Performs (a : Agent) (x : Operation) (id : String) (y : Action) : Prop :=
  ∃ c, x.Calls a c y ∧ c.id = id ∧ ((y.step c).run a).1 = .ok ()

/-- The operation accounts for what becomes of the own DID and of the counterparty's on the connection
of an id. -/
def Accounts (a : Agent) (x : Operation) (id : String) : Deed → Prop
  | .announces => ∃ t, x.Performs a id (.createRotate t)
  | .commits => ∃ m, x.Performs a id (.processRotateAck m)
  | .hangsUp => x.Performs a id .createHangup
  | .hungUp => ∃ m, x.Performs a id (.processHangup m)
  | _ => True

end Operation

namespace Agent

/-! ## What becomes of a connection -/

/-- The connection of an id, where there is one, has come to the one that is stored afterwards by so
many deeds at most, all of them such that may be. -/
def Leads (n : Nat) (id : String) (may : Deed → Prop) (a a' : Agent) : Prop :=
  ∀ c, a.connections.find? id = some c → ∃ ds c', a'.connections.find? id = some c' ∧
    c.Goes ds c' ∧ ds.length ≤ n ∧ ∀ d ∈ ds, may d

/-- A copy of the connection of an id has the version of the stored one only if it is that. -/
def Faithful (a : Agent) (id : String) (c : Connection) : Prop :=
  c.id = id → ∀ x, a.connections.find? id = some x → x.version = c.version → x = c

omit chance in
theorem faithful_of_stored {a : Agent} {c : Connection} (stored : a.connections.find? c.id = some c)
    (id : String) : a.Faithful id c := by
  rintro rfl x found -
  exact Option.some.inj (found.symm.trans stored)

omit chance in
/-- A faithful copy of which something is stored was the stored connection. -/
theorem Stores.source {a a' : Agent} {c next stored : Connection} {id : String}
    (faithful : a.Faithful id c) (stores : Stores a next stored a')
    (same : next.id = c.id ∧ next.version = c.version) (own : c.id = id) :
    a.connections.find? id = some c := by
  obtain ⟨⟨x, found, version⟩, -, -⟩ := Store.update_eq_ok.mp stores.update
  have found : a.connections.find? next.id = some x := found
  have version : x.version = next.version := version
  rw [same.1.trans own] at found
  obtain rfl : x = c := faithful own x found (version.trans same.2)
  exact found

namespace Leads

variable {a a₁ a' : Agent} {c c' : Connection} {id : String} {may : Deed → Prop} {m n : Nat}

omit chance

theorem mono (h : Leads m id may a a') (le : m ≤ n) : Leads n id may a a' := by
  intro x found
  obtain ⟨ds, y, found', goes, few, all⟩ := h x found
  exact ⟨ds, y, found', goes, Nat.le_trans few le, all⟩

theorem imp {may' : Deed → Prop} (h : Leads n id may a a') (sub : ∀ d, may d → may' d) :
    Leads n id may' a a' := by
  intro x found
  obtain ⟨ds, y, found', goes, few, all⟩ := h x found
  exact ⟨ds, y, found', goes, few, fun d mem => sub d (all d mem)⟩

theorem trans (h : Leads m id may a a₁) (h' : Leads n id may a₁ a') : Leads (m + n) id may a a' := by
  intro x found
  obtain ⟨ds, y, found', goes, few, all⟩ := h x found
  obtain ⟨ds', z, found'', goes', few', all'⟩ := h' y found'
  refine ⟨ds ++ ds', z, found'', goes.trans goes', ?_, List.forall_mem_append.mpr ⟨all, all'⟩⟩
  rw [List.length_append]
  exact Nat.add_le_add few few'

theorem of_adds (h : Adds a a') : Leads 0 id may a a' :=
  fun x found => ⟨[], x, h _ _ found, .refl x, Nat.le_refl _, List.forall_mem_nil _⟩

theorem of_same (same : a'.connections = a.connections) : Leads 0 id may a a' :=
  of_adds fun _ _ found => same ▸ found

theorem of_quiet (h : Quiet a a') : Leads 0 id may a a' := of_same h.connections

/-- What is stored of a copy is a move of the stored connection. -/
theorem of_stores {next stored : Connection} {d : Deed} (faithful : a.Faithful id c)
    (stores : Stores a next stored a') (same : next.id = c.id ∧ next.version = c.version)
    (move : c.Move d next.next) (may_ : c.id = id → may d) : Leads 1 id may a a' := by
  intro y found
  by_cases own : c.id = id
  · obtain rfl : c = y := Option.some.inj ((stores.source faithful same own).symm.trans found)
    refine ⟨[d], next.next, ?_, .one move, Nat.le_refl _, List.forall_mem_singleton.mpr (may_ own)⟩
    rw [← same.1.trans own]
    exact stores.find?_next
  · refine ⟨[], y, ?_, .refl y, Nat.zero_le _, List.forall_mem_nil _⟩
    rw [stores.find?_of_ne fun e => own (same.1.symm.trans e.symm)]
    exact found

theorem of_turn {event : Event} (turn : Turns a c event c' a') (may_ : may .exchanges) :
    Leads 1 id may a a' := by
  intro x found
  rcases turn.kept found with ⟨rfl, rfl⟩ | ⟨-, found'⟩
  · exact ⟨[.exchanges], c', turn.after, .one (.exchanges turn.turn), Nat.le_refl _,
      List.forall_mem_singleton.mpr may_⟩
  · exact ⟨[], x, found', .refl x, Nat.zero_le _, List.forall_mem_nil _⟩

/-- A new connection is stored under an id of its own. -/
theorem of_forks {q : Request} (fork : Forks a q c a') : Leads 0 id may a a' := by
  refine of_adds fun id x found => ?_
  rw [fork.others id fun same => ?_, found]
  rw [same, fork.new] at found
  cases found

theorem of_handles {q : Message} {result : Except Error (Option Outbound)}
    (h : Handles a q a' result) (may_ : may .exchanges) : Leads 2 id may a a' := by
  cases h with
  | fails same => exact (of_same same).mono (Nat.zero_le _)
  | takes turn => exact (of_turn turn may_).mono (Nat.le_succ _)
  | answers first second => exact (of_turn first may_).trans (of_turn second may_)
  | stops request first same => exact ((of_turn first may_).trans (of_same same)).mono (Nat.le_succ _)
  | forks request fork same => exact ((of_forks fork).trans (of_same same)).mono (Nat.zero_le _)
  | forksAnswers request fork second =>
    exact ((of_forks fork).trans (of_turn second may_)).mono (Nat.le_succ _)

end Leads

end Agent

/-! ## Operations on copies -/

open Agent

variable {a a' : Agent} {c : Connection} {id : String}

/-- An operation that performs an action accounts for what the action makes. -/
theorem Action.Makes.accounts {x : Operation} {y : Action} {d : Deed} {c' : Connection}
    (h : y.Makes a c d c') (performs : x.Performs a id y) : x.Accounts a id d := by
  cases h with
  | announces => exact ⟨_, performs⟩
  | commits => exact ⟨_, performs⟩
  | hangsUp => exact performs
  | hungUp => exact ⟨_, performs⟩
  | _ => exact trivial

/-- Whatever is done with a faithful copy, it makes one move at most of the stored connection, and the
operation accounts for it. -/
theorem Action.leads {x : Operation} {y : Action} {result : Except Error Unit}
    (run : (y.step c).run a = (result, a')) (faithful : a.Faithful id c) (calls : x.Calls a c y) :
    Leads 1 id (x.Accounts a id) a a' := by
  cases Action.does run with
  | fails quiet => exact (Leads.of_quiet quiet).mono (Nat.zero_le _)
  | refuses quiet => exact (Leads.of_quiet quiet).mono (Nat.zero_le _)
  | forks adds => exact (Leads.of_adds adds).mono (Nat.zero_le _)
  | makes stores same makes =>
    refine .of_stores faithful stores same makes.move fun own => ?_
    exact makes.accounts ⟨c, calls, own, by rw [run]⟩

namespace Agent

/-! ## Envelopes -/

/-- A message that nothing is answered to by the agent itself is processed, and that is all. -/
theorem dispatch_action {m : Message} {y : Action} (other : ∀ q, m ≠ .response q)
    (asks : m.action? = some y) : ((dispatch m c).run a).2 = ((y.step c).run a).2 := by
  have done {α : Type} (x : Step α) (g : α → Option Outbound) :
      ((x >>= fun r => pure (g r)).run a).2 = (x.done.run a).2 := by
    rw [done_run, run_bind]
    split
    · next h => rw [h]; rfl
    · next h => rw [h]
  rw [dispatch, bind_view]
  cases m with
  | request m => cases asks
  | response m => exact absurd rfl (other m)
  | complete m => cases asks; exact done (processComplete c m) fun _ => none
  | exchangeProblem m => cases asks; exact done (processExchangeProblem c m) fun _ => none
  | rotate m => cases asks; exact done (processRotate c m) some
  | rotateAck m => cases asks; exact done (processRotateAck c m) fun _ => none
  | hangup m => cases asks; exact done (processHangup c m) fun _ => none
  | rotateProblem m => cases asks; exact done (processRotateProblem c m) fun _ => none
  | forward m => cases asks

/-- An envelope leads a connection on by a message that it brings for it, and by the answer. -/
theorem receive_leads {e : Envelope} {result : Except Error (Option Outbound)}
    (run : (receive e).run a = (result, a')) :
    Leads 2 id ((Operation.receive e).Accounts a id) a a' := by
  rcases receive_cases run with ⟨-, rfl⟩ | ⟨opened, m, c, hopen, hm, found, -, hhandle⟩
  · exact (Leads.of_same rfl).mono (Nat.zero_le _)
  have key := connectionFor_eq_ok.mp found
  have stored := connectionOfKey_stored key
  by_cases exchange : m.OfExchange
  · have handles : Handles a m a' result := by
      rcases handle_cases hhandle with ⟨answer, rfl, hdispatch⟩ | ⟨e, a₁, hdispatch, same, refuses⟩
      · exact dispatch_dispatched stored exchange hdispatch
      · exact dispatch_dispatched stored exchange hdispatch a' result same refuses
    exact .of_handles handles trivial
  -- nothing is answered on the connection, and a report changes nothing
  have dispatched : a'.connections = ((dispatch m c).run a).2.connections := by
    rcases handle_cases hhandle with ⟨answer, -, hdispatch⟩ | ⟨e, a₁, hdispatch, same, -⟩
    · rw [hdispatch]
    · rw [hdispatch, same]
  refine Leads.mono (.trans (m := 1) (n := 0) ?_ (.of_same dispatched)) (Nat.le_succ _)
  cases asks : m.action? with
  | none =>
    have idle : ((dispatch m c).run a).2 = a := by
      cases m with
      | request q => exact absurd trivial exchange
      | forward q => rfl
      | _ => cases asks
    rw [idle]
    exact (Leads.of_same rfl).mono (Nat.zero_le _)
  | some y =>
    have other (q : Response) : m ≠ .response q := by
      rintro rfl
      exact exchange trivial
    rw [dispatch_action other asks]
    exact Action.leads rfl (faithful_of_stored stored id)
      (.receives ⟨opened, hopen, hm, key⟩ asks)

/-! ## All operations -/

omit chance in
theorem saveConnection_adds (c : Connection) : Keeps Adds (saveConnection c) :=
  saveConnection_keeps fun _ _ saved _ _ found => Store.find?_save_of_some saved found

theorem createInvitation_adds (r : Routing) (multiUse : Bool) (label : Option String) :
    Keeps Adds (createInvitation r multiUse label) := by
  unfold createInvitation
  refine .bind (.view _) fun settings => .bind (fun a => (drawId_quiet a).adds) fun _ => ?_
  refine .bind (fun a => (newConnection_quiet _ _ a).adds) fun _ => ?_
  exact .bind (saveConnection_adds _) fun _ => .pure _

theorem receiveInvitation_adds (i : Invitation) (autoAccept : Option Bool) :
    Keeps Adds (receiveInvitation i autoAccept) := by
  unfold receiveInvitation
  exact .bind (fun a => (newConnection_quiet _ _ a).adds) fun _ => saveConnection_adds _

end Agent

/-- An operation makes two moves at most of a stored connection, if it is given no unfaithful copy of
it. -/
theorem Operation.leads (x : Operation)
    (faithful : ∀ c y, x = .on c y → a.Faithful id c) :
    Leads 2 id (x.Accounts a id) a (x.step.run a).2 := by
  cases x with
  | invite r multiUse label =>
    exact (Leads.of_adds ((createInvitation_adds r multiUse label).done a)).mono (Nat.zero_le _)
  | accept i autoAccept =>
    exact (Leads.of_adds ((receiveInvitation_adds i autoAccept).done a)).mono (Nat.zero_le _)
  | on c y => exact (Action.leads rfl (faithful c y rfl) (.on c y)).mono (Nat.le_succ _)
  | receive e =>
    change Leads 2 id _ a ((Agent.receive e).done.run a).2
    rw [done_run]
    exact receive_leads rfl
  | route mediator =>
    change Leads 2 id _ a ((freshRouting mediator).done.run a).2
    rw [done_run]
    exact (Leads.of_same (freshRouting_connections mediator a)).mono (Nat.zero_le _)
  | package o => exact (Leads.of_quiet ((package_quiet o).done a)).mono (Nat.zero_le _)

/-! ## Runs -/

namespace Agent

/-- Every copy of the connection of an id that a run is given was read from the store in its course. It
was not read so long ago that versions have started over meanwhile: there are `2 ^ 64` of them, and an
operation makes two at most. -/
def CopiesRead (a : Agent) (id : String) (xs : List Operation) : Prop :=
  ∀ n c y, xs[n]? = some (.on c y) → c.id = id →
    ∃ m ≤ n, n < m + 2 ^ 63 ∧ (a.after (xs.take m)).connections.find? id = some c

/-- From one point of a run to another it was done with success on the connection of an id. -/
def Performed (a : Agent) (xs : List Operation) (id : String) (m n : Nat) (y : Action) : Prop :=
  ∃ k, m ≤ k ∧ k < n ∧ ∃ x, xs[k]? = some x ∧ x.Performs (a.after (xs.take k)) id y

/-- From one point of a run to another there is an operation that accounts for a deed. -/
def Accounted (a : Agent) (xs : List Operation) (id : String) (m n : Nat) (d : Deed) : Prop :=
  ∃ k, m ≤ k ∧ k < n ∧ ∃ x, xs[k]? = some x ∧ x.Accounts (a.after (xs.take k)) id d

variable {xs : List Operation} {m n : Nat}

theorem Accounted.announces (h : a.Accounted xs id m n .announces) :
    ∃ t, a.Performed xs id m n (.createRotate t) := by
  obtain ⟨k, le, lt, x, at_, t, performs⟩ := h
  exact ⟨t, k, le, lt, x, at_, performs⟩

theorem Accounted.commits (h : a.Accounted xs id m n .commits) :
    ∃ q, a.Performed xs id m n (.processRotateAck q) := by
  obtain ⟨k, le, lt, x, at_, q, performs⟩ := h
  exact ⟨q, k, le, lt, x, at_, performs⟩

theorem Accounted.hangsUp (h : a.Accounted xs id m n .hangsUp) :
    a.Performed xs id m n .createHangup := h

theorem Accounted.hungUp (h : a.Accounted xs id m n .hungUp) :
    ∃ q, a.Performed xs id m n (.processHangup q) := by
  obtain ⟨k, le, lt, x, at_, q, performs⟩ := h
  exact ⟨q, k, le, lt, x, at_, performs⟩

theorem Accounted.within {d : Deed} {m' n' : Nat} (h : a.Accounted xs id m n d) (first : m' ≤ m)
    (last : n ≤ n') : a.Accounted xs id m' n' d := by
  obtain ⟨k, from_, until_, h⟩ := h
  exact ⟨k, Nat.le_trans first from_, Nat.lt_of_lt_of_le until_ last, h⟩

/-- A copy that a run is given was read at an earlier point of it, and is the stored connection if it has
its version: not so many moves have been made meanwhile that versions have started over. -/
theorem CopiesRead.faithful_of_leads (copies : a.CopiesRead id xs) {may : Nat → Deed → Prop}
    (leads : ∀ m ≤ n, Leads (2 * (n - m)) id (may m) (a.after (xs.take m)) (a.after (xs.take n)))
    {c : Connection} {y : Action} (asks : xs[n]? = some (.on c y)) :
    (a.after (xs.take n)).Faithful id c := by
  intro own x found version
  obtain ⟨k, le, recent, read⟩ := copies n c y asks own
  obtain ⟨ds, c', found', goes, few, -⟩ := leads k le c read
  obtain rfl : x = c' := Option.some.inj (found.symm.trans found')
  refine goes.eq_of_version ?_ version
  have size : UInt64.size = 2 * 2 ^ 63 := rfl
  omega

/-- Between any two points of a run, a connection makes two moves at most for every operation. By
induction on the later point. -/
theorem after_leads (copies : a.CopiesRead id xs) (hn : n ≤ xs.length) : ∀ m ≤ n,
    Leads (2 * (n - m)) id (a.Accounted xs id m n) (a.after (xs.take m)) (a.after (xs.take n)) := by
  induction n with
  | zero =>
    intro m le
    obtain rfl : m = 0 := Nat.le_zero.mp le
    exact .of_same rfl
  | succ n ih =>
    have lt : n < xs.length := hn
    have ih := ih (Nat.le_of_lt lt)
    intro m le
    rcases Nat.le_succ_iff.mp le with le | rfl
    swap
    · exact (Leads.of_same rfl).mono (Nat.zero_le _)
    have faithful (c : Connection) (y : Action) (asks : xs[n] = .on c y) :
        (a.after (xs.take n)).Faithful id c :=
      copies.faithful_of_leads ih (by rw [List.getElem?_eq_getElem lt, asks])
    have last := Operation.leads xs[n] faithful
    rw [← after_take_succ a lt] at last
    have before (d : Deed) (h : a.Accounted xs id m n d) : a.Accounted xs id m (n + 1) d :=
      h.within (Nat.le_refl m) (Nat.le_succ n)
    have now (d : Deed) (h : xs[n].Accounts (a.after (xs.take n)) id d) :
        a.Accounted xs id m (n + 1) d :=
      ⟨n, le, Nat.lt_succ_self n, xs[n], List.getElem?_eq_getElem lt, h⟩
    exact (((ih m le).imp before).trans (last.imp now)).mono (by omega)

/-- Every copy that a run is given is the stored connection if it has its version. -/
theorem CopiesRead.faithful (copies : a.CopiesRead id xs) {c : Connection} {y : Action}
    (asks : xs[n]? = some (.on c y)) : (a.after (xs.take n)).Faithful id c :=
  copies.faithful_of_leads
    (after_leads copies (Nat.le_of_lt (List.getElem?_eq_some_iff.mp asks).1)) asks

theorem CopiesRead.nil : a.CopiesRead id [] := fun _ _ _ asks => nomatch asks

/-- A run goes on with a copy that was read at its end, or with one of another connection. -/
theorem CopiesRead.append (copies : a.CopiesRead id xs) {c : Connection}
    (read : c.id = id → (a.after xs).connections.find? id = some c) (y : Action) :
    a.CopiesRead id (xs ++ [.on c y]) := by
  intro n c' y' asks own
  rcases Nat.lt_trichotomy n xs.length with lt | rfl | gt
  · rw [List.getElem?_append_left lt] at asks
    obtain ⟨m, le, recent, found⟩ := copies n c' y' asks own
    refine ⟨m, le, recent, ?_⟩
    rw [List.take_append_of_le_length (Nat.le_of_lt (Nat.lt_of_le_of_lt le lt))]
    exact found
  · rw [List.getElem?_append_right (Nat.le_refl _), Nat.sub_self] at asks
    cases asks
    refine ⟨xs.length, Nat.le_refl _, by omega, ?_⟩
    rw [List.take_left]
    exact read own
  · rw [List.getElem?_eq_none (by rw [List.length_append]; exact gt)] at asks
    cases asks

/-- A run goes on with a copy that was read at its end. -/
theorem CopiesRead.snoc (copies : a.CopiesRead id xs) {c : Connection}
    (read : (a.after xs).connections.find? id = some c) (y : Action) :
    a.CopiesRead id (xs ++ [.on c y]) := copies.append (fun _ => read) y

/-! ## How a connection begins -/

/-- The connection has just begun: with an invitation of the agent's, with one that it has taken in, or
with a request for an invitation for many. -/
inductive Begins (a : Agent) (c : Connection) : Prop
  | invites {a₀ : Agent} {r : Routing} {multiUse : Bool} {label : Option String} {i : Invitation}
      (made : (createInvitation r multiUse label).run a₀ = (.ok (i, c), a))
  | accepts {a₀ : Agent} {i : Invitation} {autoAccept : Option Bool}
      (taken : (receiveInvitation i autoAccept).run a₀ = (.ok c, a))
  | forks {a₀ : Agent} {c₀ : Connection} {q : Request} {r : Option Routing}
      (many : c₀.multiUse = true) (taken : (processRequest c₀ q r).run a₀ = (.ok c, a))

omit chance in
theorem saveConnection_ok {c' : Connection} (h : (saveConnection c).run a = (.ok c', a')) :
    c' = c ∧ a'.connections.find? c.id = some c := by
  obtain ⟨rfl, connections, saved, rfl⟩ := saveConnection_run_ok.mp h
  exact ⟨rfl, Store.find?_save_self saved⟩

/-- A connection begins as a sound one, and its exchange is still to be completed. -/
theorem Begins.sound (h : a.Begins c) :
    a.connections.find? c.id = some c ∧ c.Sound ∧ c.state ≠ .completed := by
  have blank : ([] : List String).Nodup ∧ ([] : List String).Nodup := ⟨List.nodup_nil, List.nodup_nil⟩
  have none {p : Prop} (told : false = true) : p := absurd told Bool.false_ne_true
  cases h with
  | invites made =>
    simp only [createInvitation, newConnection, bind_run_ok, view_run_ok, pure_run_ok] at made
    obtain ⟨_, _, -, _, _, -, new, _, ⟨_, _, -, _, _, -, rfl, -⟩, stored, _, hsave, ⟨⟩, rfl⟩ := made
    obtain ⟨rfl, found⟩ := saveConnection_ok hsave
    have state : ExchangeState.invitationSent ∈ ExchangeRole.responder.states := by decide
    exact ⟨found, ⟨state, fun _ => ⟨rfl, rfl⟩, fun _ => rfl, none, none, none, blank⟩,
      fun done => by cases done⟩
  | accepts taken =>
    simp only [receiveInvitation, newConnection, bind_run_ok, view_run_ok, pure_run_ok] at taken
    obtain ⟨new, _, ⟨_, _, -, _, _, -, rfl, -⟩, hsave⟩ := taken
    obtain ⟨rfl, found⟩ := saveConnection_ok hsave
    have state : ExchangeState.invitationReceived ∈ ExchangeRole.requester.states := by decide
    exact ⟨found, ⟨state, fun _ => ⟨rfl, rfl⟩, fun _ => rfl, none, none, none, blank⟩,
      fun done => by cases done⟩
  | @forks a₀ c₀ q r many taken =>
    obtain ⟨role, -, -, ⟨single, -⟩ | ⟨-, -, a₁, answer, made, rfl, saved⟩⟩ :=
      processRequest_ok taken
    · rw [many] at single
      cases single
    obtain ⟨single, -⟩ | ⟨-, r, id, -, -, rfl⟩ := answering_ok made
    · rw [many] at single
      cases single
    refine ⟨Store.find?_save_self saved, ⟨?_, none, fun _ => rfl, none, fun _ => rfl, none, blank⟩,
      fun done => by cases done⟩
    change ExchangeState.requestReceived ∈ c₀.role.states
    rw [role]
    decide

/-! ## The life of a connection -/

/-- What is true of a connection that has come from one point of a run to another. -/
structure Lifecycle (a : Agent) (xs : List Operation) (m n : Nat) (c c' : Connection) : Prop where
  /-- It is the same connection, further on, with its thread, and remembers its DIDs. -/
  onward : c.Onward c'
  state : c'.state ∈ c'.role.states
  /-- The own DID stays as it is until a rotation is acknowledged or the agent hangs up. -/
  did : c.did.isSome = true → c'.did = c.did ∨
    (∃ q, a.Performed xs c.id m n (.processRotateAck q)) ∨ a.Performed xs c.id m n .createHangup
  distinct : c'.previousDids.Nodup ∧ c'.previousTheirDids.Nodup
  waits : c'.metadata.contains PendingRotation.key = true → c'.state = .completed
  /-- A side that has completed the exchange has a DID unless it has hung up. -/
  own : c'.state = .completed → c'.did.isSome = true ∨ a.Performed xs c.id 0 n .createHangup
  theirs : c'.state = .completed → c'.theirDid.isSome = true ∨
    ∃ q, a.Performed xs c.id 0 n (.processHangup q)

/-- Whatever an agent is asked to do with copies of a connection that it has read, new or old, and
whatever envelopes it receives: the connection stays stored from its beginning on, and between any two
points of the run it keeps to its life cycle. -/
theorem lifecycle (begins : a.Begins c) (copies : a.CopiesRead c.id xs) (le : m ≤ n)
    (hn : n ≤ xs.length) :
    ∃ c₁ c₂, (a.after (xs.take m)).connections.find? c.id = some c₁ ∧
      (a.after (xs.take n)).connections.find? c.id = some c₂ ∧ Lifecycle a xs m n c₁ c₂ := by
  obtain ⟨found, sound, incomplete⟩ := begins.sound
  obtain ⟨ds₁, c₁, found₁, goes₁, -, all₁⟩ :=
    after_leads copies (Nat.le_trans le hn) 0 (Nat.zero_le m) c found
  obtain ⟨ds₂, c₂, found₂, goes₂, -, all₂⟩ := after_leads copies hn m le c₁ found₁
  have goes := goes₁.trans goes₂
  have id : c₁.id = c.id := (goes₁.onward sound).same.1
  have sound₁ := goes₁.sound sound
  have sound₂ := goes.sound sound
  have known (p : Prop) : c.state = .completed → p := fun completed => absurd completed incomplete
  have all (d : Deed) (mem : d ∈ ds₁ ++ ds₂) : a.Accounted xs c₁.id 0 n d := by
    rw [id]
    rcases List.mem_append.mp mem with mem | mem
    · exact (all₁ d mem).within (Nat.zero_le 0) le
    · exact (all₂ d mem).within (Nat.zero_le m) (Nat.le_refl n)
  refine ⟨c₁, c₂, found₁, found₂, goes₂.onward sound₁, sound₂.state, fun there => ?_,
    sound₂.distinct, sound₂.waits, fun completed => ?_, fun completed => ?_⟩
  · by_cases commits : Deed.commits ∈ ds₂
    · exact .inr (.inl (id ▸ (all₂ _ commits).commits))
    by_cases hangsUp : Deed.hangsUp ∈ ds₂
    · exact .inr (.inr (id ▸ (all₂ _ hangsUp).hangsUp))
    exact .inl (goes₂.did sound₁ ⟨commits, hangsUp⟩ there)
  · by_cases hangsUp : Deed.hangsUp ∈ ds₁ ++ ds₂
    · exact .inr (all _ hangsUp).hangsUp
    exact .inl (goes.own sound hangsUp (known _) completed)
  · by_cases hungUp : Deed.hungUp ∈ ds₁ ++ ds₂
    · exact .inr (all _ hungUp).hungUp
    exact .inl (goes.theirs sound hungUp (known _) completed)

end Agent

end Runs

end Lives

/-! ## A run -/

section Plain

attribute [local instance] Suite.plain Chance.counting

namespace Agent

/-- An invitation is taken in, a request is made, and the copy that was there before is used again. -/
theorem lifecycle_plain : ∃ a c xs c₁ c₂, a.Begins c ∧ a.CopiesRead c.id xs ∧ xs.length = 2 ∧
    (a.after (xs.take 1)).connections.find? c.id = some c₁ ∧
    (a.after xs).connections.find? c.id = some c₂ ∧ Lifecycle a xs 1 2 c₁ c₂ := by
  let r := Routing.plain [2] []
  obtain ⟨c, a, taken, -, -⟩ :=
    receiveInvitation_run (a := plain .genesisHash [1]) (invitationOf r "invitation" "Alice") none rfl
  have begins : a.Begins c := .accepts taken
  let y : Action := .createRequest r {}
  have copies : a.CopiesRead c.id [.on c y, .on c .createHangup] := by
    intro n x z given own
    have early : n < 2 := (List.getElem?_eq_some_iff.mp given).1
    have first : x = c := by
      rcases List.mem_pair.mp (List.mem_of_getElem? given) with h | h <;> cases h <;> rfl
    exact ⟨0, Nat.zero_le n, Nat.lt_trans early (by decide), first ▸ begins.sound.1⟩
  obtain ⟨c₁, c₂, found₁, found₂, cycle⟩ :=
    lifecycle begins copies (Nat.le_succ 1) (Nat.le_refl 2)
  exact ⟨a, c, _, c₁, c₂, begins, copies, rfl, found₁, found₂, cycle⟩

end Agent

end Plain

end Pairwise
