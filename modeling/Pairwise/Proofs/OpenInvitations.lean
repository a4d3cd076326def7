import Pairwise.Proofs.Completion
import Pairwise.Proofs.Endings
/-!
# Invitations that stay open

An invitation for many waits on its connection for whoever answers it. Every request is taken in on a
connection of its own, and no other message moves the invitation's connection, but for one: whoever
knows the invitation's key can report a problem to it, and the invitation is given up for all.

Results:
* `Agent.Adds`: an agent has stored nothing but new connections.
* `Connection.Unmoved`, `dispatch_adds`: the messages that cannot move a connection.
* `receive_keeps`, `receive_report`: an invitation for many stays as it is, or is given up.
* `invitation_kept_iff`: it stays as it is in a run exactly if no report comes to it.
-/
namespace Pairwise

open Step

namespace Connection

variable {c : Connection}

/-- The message cannot move the connection. -/
def Unmoved (c : Connection) : Message → Prop
  | .request _ => c.multiUse = true ∨ c.state ≠ .start ∧ c.state ≠ .invitationSent
  | .response _ => c.state ≠ .requestSent
  | .complete _ => c.state ≠ .responseSent
  | .exchangeProblem _ => c.state.isTerminal = true
  | .rotate _ | .rotateAck _ | .rotateProblem _ | .hangup _ => c.state ≠ .completed
  | .forward _ => True

/-- The connection of an invitation for many, on which nobody is known yet. -/
structure Invites (c : Connection) : Prop where
  many : c.multiUse = true
  role : c.role = .responder
  state : c.state = .invitationSent
  theirDid : c.theirDid = none

theorem Invites.unmoved (h : c.Invites) {m : Message} (other : ∀ q, m ≠ .exchangeProblem q) :
    c.Unmoved m := by
  cases m with
  | request q => exact .inl h.many
  | exchangeProblem q => exact absurd rfl (other q)
  | forward q => exact trivial
  | _ => exact fun state => nomatch h.state.symm.trans state

/-- What has been given up stays so. -/
theorem unmoved_of_abandoned (state : c.state = .abandoned) (m : Message) : c.Unmoved m := by
  cases m with
  | request q => exact .inr (state ▸ ⟨nofun, nofun⟩)
  | exchangeProblem q => exact congrArg ExchangeState.isTerminal state
  | forward q => exact trivial
  | _ => exact fun other => nomatch state.symm.trans other

end Connection

section Exchange

variable [suite : Suite]

namespace Agent

/-- Whatever connection was stored is stored as it was. -/
def Adds (a a' : Agent) : Prop :=
  ∀ id c, a.connections.find? id = some c → a'.connections.find? id = some c

instance : IsPreorder Agent Adds where
  refl _ := fun _ _ h => h
  trans _ _ _ hab hbc := fun id c h => hbc id c (hab id c h)

theorem Quiet.adds {a a' : Agent} (h : Quiet a a') : Adds a a' := by
  intro id c hc
  rwa [h.connections]

/-- A step that cannot succeed adds nothing if it fails quietly. -/
theorem adds_of_fails {α : Type} {x : Step α} (quiet : x.FailsQuietly)
    (fails : ∀ a a' r, x.run a ≠ (.ok r, a')) : Keeps Adds x :=
  fun a => (quiet.quiet fails a).adds

variable {c : Connection}

/-! ## What cannot move a connection -/

theorem processResponse_adds (m : Response) (state : c.state ≠ .requestSent) :
    Keeps Adds (processResponse c m) :=
  adds_of_fails (processResponse_failsQuietly m) fun _ _ _ h => state (processResponse_ok h).2.1

theorem processComplete_adds (m : Complete) (state : c.state ≠ .responseSent) :
    Keeps Adds (processComplete c m) :=
  adds_of_fails (processComplete_failsQuietly m) fun _ _ _ h => state (processComplete_ok h).2.1

theorem processExchangeProblem_adds (m : ProblemReport) (terminal : c.state.isTerminal = true) :
    Keeps Adds (processExchangeProblem c m) :=
  adds_of_fails (processExchangeProblem_failsQuietly m) fun _ _ _ h => by
    rw [(processExchangeProblem_ok h).1] at terminal
    cases terminal

/-- What asks for a completed exchange first does nothing before it. -/
theorem requireCompleted_adds {α : Type} (state : c.state ≠ .completed) (f : Unit → Step α) :
    Keeps Adds ((liftM c.requireCompleted : Step Unit) >>= f) := by
  intro a
  have refused : c.requireCompleted = .error (.unexpectedState c.id c.state [.completed]) := by
    rw [Connection.requireCompleted, Connection.assertState, if_neg]
    intro there
    exact state (List.mem_singleton.mp (List.contains_iff_mem.mp there))
  rw [run_bind, run_lift, refused]
  exact refl a

variable [chance : Chance]

theorem answerRouting_adds (c : Connection) : Keeps Adds (answerRouting c) :=
  answerRouting_keeps (fun _ _ same _ _ found => same ▸ found) c

/-- A request for an invitation for many adds a connection, and what follows is done on that one. A
request that comes when none is waited for adds nothing. -/
theorem processRequest_adds {α : Type} {q : Request} (unmoved : c.Unmoved (.request q))
    (r : Option Routing) {f : Connection → Step α} (hf : ∀ answer, Keeps (Only answer.id) (f answer)) :
    Keeps Adds (processRequest c q r >>= f) := by
  intro a id d hd
  rcases h : (processRequest c q r).run a with ⟨error | answer, a₁⟩
  · rw [run_bind, h]
    exact (processRequest_failsQuietly q r _ _ _ h).adds id d hd
  · rw [run_bind, h]
    obtain ⟨-, state, -, ⟨once, -⟩ | ⟨-, -, a₀, forked, -, rfl, hsave⟩⟩ := processRequest_ok h
    · rcases unmoved with many | ⟨start, waiting⟩
      · rw [once] at many
        cases many
      · exact (state.elim start waiting).elim
    · -- the new connection was stored under no id that was taken
      refine hf _ a₁ id d ?_ (Store.find?_save_of_some hsave hd)
      rintro rfl
      have new := (Store.save_eq_ok.mp hsave).1
      cases new.symm.trans hd

/-- A message that cannot move its connection moves none. -/
theorem dispatch_adds {m : Message} (unmoved : c.Unmoved m) : Keeps Adds (dispatch m c) := by
  unfold dispatch
  refine .bind (.view _) fun settings => ?_
  cases m with
  | request q =>
    refine .bind (answerRouting_adds c) fun r => processRequest_adds unmoved r fun answer => ?_
    split
    · exact .bind (createResponse_only answer r) fun _ => .pure _
    · exact .pure _
  | response q =>
    intro a
    rcases h : (processResponse c q).run a with ⟨error | c', a₁⟩
    · dsimp only
      rw [run_bind, h]
      exact (processResponse_adds q unmoved).of_run h
    · exact absurd (processResponse_ok h).2.1 unmoved
  | complete q => exact .bind (processComplete_adds q unmoved) fun _ => .pure _
  | exchangeProblem q => exact .bind (processExchangeProblem_adds q unmoved) fun _ => .pure _
  | rotate q => exact .bind (requireCompleted_adds unmoved _) fun _ => .pure _
  | rotateAck q => exact .bind (requireCompleted_adds unmoved _) fun _ => .pure _
  | hangup q => exact .bind (requireCompleted_adds unmoved _) fun _ => .pure _
  | rotateProblem q => exact .bind (requireCompleted_adds unmoved _) fun _ => .pure _
  | forward q => exact .fail _

theorem handle_adds {m : Message} (unmoved : c.Unmoved m) : Keeps Adds (handle m c) :=
  handle_keeps (fun a => (drawId_quiet a).adds) (dispatch_adds unmoved)

/-! ## What an envelope brings -/

omit chance in
/-- The envelope opens to a message, for a key that leads to the connection. -/
def Brings (a : Agent) (e : Envelope) (m : Message) (c : Connection) : Prop :=
  ∃ opened, a.unpack e = .ok opened ∧ Message.ofJson opened.plaintext = .ok m ∧
    a.connectionOfKey opened.recipient = .ok (some c)

variable {a : Agent} {e : Envelope}

omit chance in
/-- An envelope brings one message, to one connection. -/
theorem Brings.unique {m m' : Message} {c' : Connection} (h : a.Brings e m c)
    (h' : a.Brings e m' c') : m = m' ∧ c = c' := by
  obtain ⟨opened, hopen, hm, hc⟩ := h
  obtain ⟨opened', hopen', hm', hc'⟩ := h'
  cases hopen.symm.trans hopen'
  cases hm.symm.trans hm'
  cases hc.symm.trans hc'
  exact ⟨rfl, rfl⟩

omit chance in
/-- A message is brought to the connection that the key it is sealed for leads to. -/
theorem Brings.of_holds {m : Message} {k : Key} {sender : Option Key}
    (holds : e.Holds m.toJson [k] sender) (readable : m.Readable) (held : a.wallet.holds k = true)
    (found : a.connectionOfKey k = .ok (some c)) : a.Brings e m c :=
  ⟨_, unpack_run holds held, readable.read, found⟩

/-- What cannot move its connection moves none. -/
theorem Brings.adds {m : Message} (h : a.Brings e m c) (unmoved : c.Unmoved m) :
    Adds a ((receive e).run a).2 := by
  rcases receive_cases (Prod.eta ((receive e).run a)).symm with
    ⟨-, same⟩ | ⟨opened, m', c', hopen, hm, hc, -, hhandle⟩
  · rw [same]
    exact refl a
  · obtain ⟨rfl, rfl⟩ := h.unique ⟨opened, hopen, hm, connectionFor_eq_ok.mp hc⟩
    exact (handle_adds unmoved).of_run hhandle

/-- A stored connection stays as it is unless an envelope brings it a message that can move it. -/
theorem receive_keeps (stored : a.connections.find? c.id = some c)
    (unmoved : ∀ m, a.Brings e m c → c.Unmoved m) :
    ((receive e).run a).2.connections.find? c.id = some c := by
  rcases receive_cases (Prod.eta ((receive e).run a)).symm with
    ⟨-, same⟩ | ⟨opened, m, c', hopen, hm, hc, -, hhandle⟩
  · rwa [same]
  have found := connectionFor_eq_ok.mp hc
  by_cases hid : c.id = c'.id
  · obtain rfl : c = c' := by
      rw [hid, connectionOfKey_stored found] at stored
      exact (Option.some.inj stored).symm
    exact (handle_adds (unmoved m ⟨opened, hopen, hm, found⟩)).of_run hhandle _ _ stored
  · exact (handle_only m c').of_run hhandle _ _ hid stored

/-! ## Invitations for many -/

/-- An invitation for many is made with such a connection. -/
theorem createInvitation_invites {a a' : Agent} {r : Routing} {label : Option String}
    {i : Invitation} (made : (createInvitation r true label).run a = (.ok (i, c), a')) :
    c.Invites := by
  simp only [createInvitation, newConnection, bind_run_ok, view_run_ok, pure_run_ok] at made
  obtain ⟨_, _, -, _, _, -, new, _, ⟨_, _, -, _, _, -, rfl, -⟩, stored, _, hsave, ⟨⟩, -⟩ := made
  obtain ⟨rfl, -⟩ := saveConnection_run_ok.mp hsave
  exact ⟨rfl, rfl, rfl, rfl⟩

/-- A report of a problem gives up the invitation, whoever it comes from. -/
theorem receive_report (h : c.Invites) {q : ProblemReport}
    (brings : a.Brings e (.exchangeProblem q) c) :
    ((receive e).run a).2.connections.find? c.id = some c.abandoned.next := by
  obtain ⟨opened, hopen, hm, hc⟩ := brings
  have checked : checkSender (.exchangeProblem q) c opened.sender a = .ok () :=
    checkSender_stranger h.theirDid rfl
  have advance : c.advance .process .exchangeProblem = .ok .abandoned := by
    rw [Connection.advance, h.role, h.state]
    rfl
  -- the connection is the one that is stored, so it can be updated
  obtain ⟨a', updated, found⟩ :=
    updateConnection_found (connectionOfKey_stored hc) c.abandoned rfl rfl
  have hprocess : (processExchangeProblem c q).run a = (.ok c.abandoned.next, a') := by
    rw [processExchangeProblem, bind_lift advance]
    exact updated
  have hdispatch : (dispatch (.exchangeProblem q) c).run a = (.ok none, a') := by
    rw [dispatch, bind_view]
    exact bind_ok hprocess
  rw [receive, bind_ask hopen, bind_lift hm, bind_ask (connectionFor_eq_ok.mpr hc),
    bind_ask checked, handle_run hdispatch]
  exact found

/-! ## Whole runs -/

/-- The agent receives one envelope after another. -/
def receiveAll (es : List Envelope) (a : Agent) : Agent :=
  es.foldl (fun a e => ((receive e).run a).2) a

theorem receiveAll_append (es es' : List Envelope) (a : Agent) :
    receiveAll (es ++ es') a = receiveAll es' (receiveAll es a) := List.foldl_append

/-- A stored connection stays as it is unless one of the envelopes brings it, when it is received, a
message that can move it. -/
theorem receiveAll_keeps {es : List Envelope} (stored : a.connections.find? c.id = some c)
    (unmoved : ∀ before e after m, es = before ++ e :: after →
      (receiveAll before a).Brings e m c → c.Unmoved m) :
    (receiveAll es a).connections.find? c.id = some c := by
  induction es generalizing a with
  | nil => exact stored
  | cons e es ih =>
    refine ih (receive_keeps stored fun m => unmoved [] e es m rfl) ?_
    intro before e' after m split
    exact unmoved (e :: before) e' after m (congrArg _ split)

/-- Whatever envelopes an agent receives, the connection of an invitation for many stays as it was
made exactly as long as none of them reports a problem to it. All other messages to it, requests
included, leave every stored connection as it was. -/
theorem invitation_kept_iff {a₀ a₁ a : Agent} {r : Routing} {label : Option String} {i : Invitation}
    {c : Connection} (made : (createInvitation r true label).run a₀ = (.ok (i, c), a₁))
    (stored : a.connections.find? c.id = some c) (es : List Envelope) :
    ((receiveAll es a).connections.find? c.id = some c ↔
      ∀ before e after q, es = before ++ e :: after →
        ¬ (receiveAll before a).Brings e (.exchangeProblem q) c) ∧
    ∀ before e after m, es = before ++ e :: after → (receiveAll before a).Brings e m c →
      (∀ q, m ≠ .exchangeProblem q) → Adds (receiveAll before a) (receiveAll (before ++ [e]) a) := by
  have invites := createInvitation_invites made
  refine ⟨⟨fun kept before e after q split brings => ?_, fun none => ?_⟩, ?_⟩
  · -- once it is given up, it stays given up
    have gone : (receiveAll es a).connections.find? c.id = some c.abandoned.next := by
      rw [split, List.append_cons, receiveAll_append, receiveAll_append]
      refine receiveAll_keeps (c := c.abandoned.next) (receive_report invites brings) ?_
      intro _ _ _ m _ _
      exact Connection.unmoved_of_abandoned rfl m
    rw [kept] at gone
    have same : c.state = .abandoned := congrArg Connection.state (Option.some.inj gone)
    rw [invites.state] at same
    cases same
  · refine receiveAll_keeps stored fun before e after m split brings => invites.unmoved ?_
    rintro q rfl
    exact none before e after q split brings
  · intro before e after m split brings other
    rw [receiveAll_append]
    exact brings.adds (invites.unmoved other)

end Agent

end Exchange

/-! ## An invitation that is given up -/

section Plain

attribute [local instance] Suite.plain Chance.counting

namespace Agent

/-- Whoever reads an invitation can write to it, without a name. -/
theorem plain_invited {m : Message} (readable : m.Readable) : ∃ r i c a e,
    (createInvitation r true none).run (plain .hashAndDocument [2]) = (.ok (i, c), a) ∧
      c.At i .responder .invitationSent none none none ∧ accepts c a.settings = true ∧
      a.Brings e m c := by
  let r := Routing.plain [2] []
  have form : PeerForm.hashAndDocument ≠ .inceptionKey := nofun
  have host : Host (plain .hashAndDocument [2]) r := plain_host form [2] []
  obtain ⟨i, c, a, hinvite, hi, hc, moves⟩ :=
    createInvitation_run (a := plain .hashAndDocument [2]) r true none rfl
  have waiting : Waiting a [] c i r := by
    rw [hi] at hc ⊢
    exact .of_invitation host moves (hc ▸ ⟨rfl, rfl, rfl, rfl⟩)
      (hc ▸ ⟨rfl, rfl, rfl, rfl, rfl, rfl⟩) (hc ▸ rfl)
  obtain ⟨e, -, -, -, holds⟩ := sealFor_run (a := plain .genesisHash [1]) Suite.plain_lawful
    Chance.counting_lawful readable.fits (List.forall_mem_singleton.mpr host.sound.recipient)
    (List.cons_ne_nil _ _) none nofun
  have accepting : accepts c a.settings = true := by
    rw [accepts, moves.settings, hc]
    rfl
  exact ⟨r, i, c, a, e, hinvite, waiting.stage, accepting,
    .of_holds holds readable waiting.held waiting.connectionOfKey⟩

/-- Whoever reads an invitation can report a problem to it. -/
theorem plain_reported : ∃ r i c a e q,
    (createInvitation r true none).run (plain .hashAndDocument [2]) = (.ok (i, c), a) ∧
      a.connections.find? c.id = some c ∧ a.Brings e (.exchangeProblem q) c := by
  let q : ProblemReport := {
    kind := .exchangeProblem, id := "report", description := .ofKnown .requestNotAccepted }
  obtain ⟨r, i, c, a, e, hinvite, -, -, brings⟩ :=
    plain_invited (m := .exchangeProblem q) (ProblemReport.readable rfl nofun)
  obtain ⟨opened, -, -, found⟩ := id brings
  exact ⟨r, i, c, a, e, q, hinvite, connectionOfKey_stored found, brings⟩

/-- It stays so no longer than nobody reports a problem. -/
theorem invitation_given_up : ∃ r i c a e,
    (createInvitation r true none).run (plain .hashAndDocument [2]) = (.ok (i, c), a) ∧
      ¬ (receiveAll [e] a).connections.find? c.id = some c := by
  obtain ⟨r, i, c, a, e, q, hinvite, stored, brings⟩ := plain_reported
  refine ⟨r, i, c, a, e, hinvite, fun kept => ?_⟩
  exact (invitation_kept_iff hinvite stored [e]).1.mp kept [] e [] q rfl brings

/-- It is not so that the connection of an invitation for many stays as it was made. -/
theorem invitation_not_always_kept :
    ¬ ∀ (a₀ a₁ a : Agent) (r : Routing) (label : Option String) (i : Invitation) (c : Connection),
      (createInvitation r true label).run a₀ = (.ok (i, c), a₁) →
      a.connections.find? c.id = some c → ∀ es : List Envelope,
        (receiveAll es a).connections.find? c.id = some c := by
  intro always
  obtain ⟨r, i, c, a, e, q, hinvite, stored, brings⟩ := plain_reported
  have kept := always _ a a r none i c hinvite stored [e]
  have invites := createInvitation_invites hinvite
  have given := receive_report invites brings
  change ((receive e).run a).2.connections.find? c.id = some c at kept
  rw [given] at kept
  have same : ExchangeState.abandoned = c.state := congrArg Connection.state (Option.some.inj kept)
  rw [invites.state] at same
  cases same

end Agent

end Plain

end Pairwise
