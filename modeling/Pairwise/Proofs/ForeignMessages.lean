import Pairwise.Proofs.OpenInvitations
/-!
# Messages of another exchange

Before the counterparty's DID is known, whoever has the recipient key of a connection can write to it.
A request then has to answer the invitation of the connection, and a response has to go on with its
thread; those of another exchange change nothing. A report is not asked which exchange it belongs to:
it gives up any connection on which nobody is known yet.

Results:
* `Connection.Expects`: the messages that belong to the exchange of a connection.
* `dispatch_foreign`: a message of another exchange leaves all connections as they are, if it is no
  report.
* `receive_foreign`: what comes of a message of another exchange that is received.
-/
namespace Pairwise

open Step

/-- The message belongs to the exchange of the connection: a request answers its invitation, a
response or a report goes on with its thread. -/
def Connection.Expects (c : Connection) : Message → Prop
  | .request q => ∃ id, c.invitationId = some id ∧ Thread.parentOf q.thread = some id
  | .response q => c.threadId = some (Thread.idOf q.id q.thread)
  | .exchangeProblem q => c.threadId = some q.threadId
  | _ => False

section Exchange

variable [suite : Suite]

namespace Agent

/-- The connections are what they were. -/
def Still (a a' : Agent) : Prop := a'.connections = a.connections

instance : IsPreorder Agent Still where
  refl _ := rfl
  trans _ _ _ hab hbc := hbc.trans hab

end Agent

theorem Step.Keeps.still {α : Type} {x : Step α} (hx : Keeps Agent.Quiet x) : Keeps Agent.Still x :=
  fun a => (hx a).connections

namespace Agent

variable [chance : Chance] {a : Agent} {c : Connection} {m : Message} {e : Envelope}

/-! ## Messages that are no reports -/

/-- A request or a response of another exchange is refused. -/
theorem dispatch_foreign (foreign : ¬ c.Expects m) (early : comesBeforeDid m = true)
    (other : ∀ q, m ≠ .exchangeProblem q) : Keeps Still (dispatch m c) := by
  unfold dispatch
  refine .bind (.view _) fun settings => ?_
  cases m with
  | request q =>
    refine .bind (answerRouting_keeps (fun _ _ same => same) c) fun r => ?_
    refine ((processRequest_failsQuietly q r).bind_quiet (fun a a' answer h => ?_) _).still
    obtain ⟨-, -, ⟨there, parent⟩, -⟩ := processRequest_ok h
    obtain ⟨id, invitation⟩ := Option.isSome_iff_exists.mp there
    exact foreign ⟨id, invitation, parent.symm.trans invitation⟩
  | response q =>
    refine ((processResponse_failsQuietly q).bind_quiet (fun a a' next h => ?_) _).still
    exact foreign (processResponse_ok h).2.2.1.2
  | exchangeProblem q => exact absurd rfl (other q)
  | _ => cases early

/-! ## Reports -/

omit suite chance in
theorem advance_problem (open_ : c.state.isTerminal = false) :
    c.advance .process .exchangeProblem = .ok .abandoned := by
  have there : Transition.openStates.contains c.state = true := by
    refine List.contains_iff_mem.mpr (List.mem_filter.mpr ⟨?_, ?_⟩)
    · cases c.state <;> decide
    · rw [open_]
      rfl
  exact if_pos there

omit chance in
/-- What is stored changes with every update: the version is another one. -/
theorem Stores.changes {a' : Agent} {next stored : Connection} (h : Stores a next stored a') :
    a'.connections ≠ a.connections := by
  obtain ⟨⟨before, found, version⟩, rfl, -⟩ := Store.update_eq_ok.mp h.update
  intro same
  have after := h.find?_self
  rw [same] at after
  cases found.symm.trans after
  exact absurd version (by simp [Storable.version, Storable.setVersion])

/-- Any report gives up a stored connection that is not at its end. -/
theorem dispatch_report (stored : a.connections.find? c.id = some c)
    (open_ : c.state.isTerminal = false) (q : ProblemReport) :
    ∃ a', (dispatch (.exchangeProblem q) c).run a = (.ok none, a') ∧
      Stores a c.abandoned c.abandoned.next a' := by
  obtain ⟨a', updated, -⟩ := updateConnection_found stored c.abandoned rfl rfl
  have processed : (processExchangeProblem c q).run a = (.ok c.abandoned.next, a') := by
    rw [processExchangeProblem, bind_lift (advance_problem open_)]
    exact updated
  refine ⟨a', ?_, updateConnection_ok (refl a) updated⟩
  rw [dispatch, bind_view]
  exact bind_ok processed

/-- No report moves a connection that is at its end. -/
theorem dispatch_report_late (terminal : c.state.isTerminal = true) (q : ProblemReport) :
    Keeps Still (dispatch (.exchangeProblem q) c) := by
  unfold dispatch
  refine .bind (.view _) fun settings => ?_
  refine ((processExchangeProblem_failsQuietly q).bind_quiet (fun a a' next h => ?_) _).still
  exact Bool.false_ne_true ((processExchangeProblem_ok h).1.symm.trans terminal)

/-! ## What an envelope brings -/

omit chance in
theorem Brings.stored (brings : a.Brings e m c) : a.connections.find? c.id = some c := by
  obtain ⟨opened, -, -, hc⟩ := brings
  exact connectionOfKey_stored hc

section Receiving

variable (brings : a.Brings e m c) (unknown : c.theirDid = none)

include brings unknown

/-- What may come before the counterparty's DID is known is handled, whoever it comes from. -/
theorem Brings.receive_early (early : comesBeforeDid m = true) :
    (receive e).run a = (handle m c).run a := by
  obtain ⟨opened, hopen, hm, hc⟩ := brings
  have checked : checkSender m c opened.sender a = .ok () := checkSender_stranger unknown early
  rw [receive, bind_ask hopen, bind_lift hm, bind_ask (connectionFor_eq_ok.mpr hc), bind_ask checked]

/-- All other messages are dropped. -/
theorem Brings.receive_late (late : comesBeforeDid m = false) : ((receive e).run a).2 = a := by
  rcases receive_cases (Prod.eta ((receive e).run a)).symm with
    ⟨-, same⟩ | ⟨opened, m', c', hopen, hm, hc, checked, -⟩
  · exact same
  · obtain ⟨rfl, rfl⟩ := brings.unique ⟨opened, hopen, hm, connectionFor_eq_ok.mp hc⟩
    rw [checkSender, late] at checked
    · cases checked
    · exact unknown

/-- Whichever exchange a report belongs to, the connection that it comes to is given up, if that is not
at its end. -/
theorem Brings.receive_report {q : ProblemReport} (report : m = .exchangeProblem q)
    (open_ : c.state.isTerminal = false) :
    Stores a c.abandoned c.abandoned.next ((receive e).run a).2 := by
  subst report
  obtain ⟨a', hdispatch, stores⟩ := dispatch_report brings.stored open_ q
  rwa [brings.receive_early unknown rfl, handle_run hdispatch]

/-- A message of another exchange changes what is stored exactly if it is a report that comes before
the end of the exchange. The connection is given up then, and all others stay as they are. -/
theorem receive_foreign (foreign : ¬ c.Expects m) :
    (((receive e).run a).2.connections ≠ a.connections ↔
      (∃ q, m = .exchangeProblem q) ∧ c.state.isTerminal = false) ∧
    (((receive e).run a).2.connections ≠ a.connections →
      ((receive e).run a).2.connections.find? c.id = some c.abandoned.next ∧
        ∀ id ≠ c.id, ((receive e).run a).2.connections.find? id = a.connections.find? id) := by
  by_cases report : (∃ q, m = .exchangeProblem q) ∧ c.state.isTerminal = false
  · obtain ⟨⟨q, hm⟩, open_⟩ := id report
    have stores := brings.receive_report unknown hm open_
    exact ⟨iff_of_true stores.changes report, fun _ =>
      ⟨stores.find?_self, fun id hne => stores.find?_of_ne hne⟩⟩
  · have same : Still a ((receive e).run a).2 := by
      by_cases early : comesBeforeDid m = true
      · rw [brings.receive_early unknown early]
        refine handle_keeps drawId_quiet.still ?_ a
        by_cases other : ∀ q, m ≠ .exchangeProblem q
        · exact dispatch_foreign foreign early other
        · push Not at other
          obtain ⟨q, rfl⟩ := other
          exact dispatch_report_late (Bool.of_not_eq_false fun open_ => report ⟨⟨q, rfl⟩, open_⟩) q
      · rw [brings.receive_late unknown (Bool.of_not_eq_true early)]
        exact refl a
    exact ⟨iff_of_false (fun changed => changed same) report, fun changed => absurd same changed⟩

end Receiving

end Agent

end Exchange

/-! ## A report of another exchange -/

section Plain

attribute [local instance] Suite.plain Chance.counting

namespace Agent

/-- An agent waits for the response to its request, and is sent a report of another exchange, without
a name. -/
theorem plain_foreign : ∃ (a : Agent) (e : Envelope) (q : ProblemReport) (c : Connection),
    a.Brings e (.exchangeProblem q) c ∧ c.theirDid = none ∧ c.state = .requestSent ∧
      c.threadId.isSome ∧ ¬ c.Expects (.exchangeProblem q) := by
  obtain ⟨p, p', fresh⟩ := plain_fresh [1] [2] [] [] false
  have here : PeerForm.genesisHash ≠ .inceptionKey := nofun
  have there : PeerForm.hashAndDocument ≠ .inceptionKey := nofun
  have willing : (none : Option Bool) ≠ some false ∧
      ({} : RequestOptions).autoAccept ≠ some false := ⟨nofun, nofun⟩
  have host := plain_host here [1] []
  obtain ⟨i, d, b, c₀, a₁, m, c, a, -, -, -, -, -, opened⟩ := open_run host
    (plain_host there [2] []) fresh Suite.plain_lawful none willing
  let q : ProblemReport := {
    kind := .exchangeProblem, id := "report", description := .ofKnown .requestNotAccepted
    thread := some (.reply ("not " ++ m.id)) }
  have apart : ¬ c.Expects (.exchangeProblem q) := by
    intro same
    have text : m.id = "not " ++ m.id := Option.some.inj (opened.asked.thread.symm.trans same)
    exact Text.append_ne (by decide) m.id text.symm
  have readable : (Message.exchangeProblem q).Readable := ProblemReport.readable rfl fun t ht =>
    Option.mem_some_iff.mp ht ▸ Thread.plain_replyUnder _ none
  obtain ⟨e, -, -, -, holds⟩ := sealFor_run (a := plain .genesisHash [3]) Suite.plain_lawful
    Chance.counting_lawful readable.fits (List.forall_mem_singleton.mpr host.sound.recipient)
    (List.cons_ne_nil _ _) none nofun
  have brings : a.Brings e (.exchangeProblem q) c :=
    .of_holds holds readable opened.party.held opened.party.connectionOfKey
  refine ⟨a, e, q, c, brings, opened.asked.theirDid, opened.asked.state, ?_, apart⟩
  rw [opened.asked.thread]
  rfl

/-- The request that waits is given up for the report. -/
theorem receive_foreign_plain : ∃ (a : Agent) (e : Envelope) (q : ProblemReport) (c : Connection),
    a.Brings e (.exchangeProblem q) c ∧ c.theirDid = none ∧ ¬ c.Expects (.exchangeProblem q) ∧
      ((receive e).run a).2.connections.find? c.id = some c.abandoned.next := by
  obtain ⟨a, e, q, c, brings, unknown, waits, -, foreign⟩ := plain_foreign
  obtain ⟨changes, gives⟩ := receive_foreign brings unknown foreign
  have open_ : c.state.isTerminal = false := by
    rw [waits]
    rfl
  exact ⟨a, e, q, c, brings, unknown, foreign, (gives (changes.mpr ⟨⟨q, rfl⟩, open_⟩)).1⟩

/-- It is not so that what is stored only changes by messages that belong to the exchange of the
connection that they come to. -/
theorem foreign_not_always_kept :
    ¬ ∀ (a : Agent) (e : Envelope) (m : Message) (c : Connection),
      a.Brings e m c → c.theirDid = none → comesBeforeDid m = true →
      ((receive e).run a).2.connections ≠ a.connections → c.Expects m := by
  intro always
  obtain ⟨a, e, q, c, brings, unknown, waits, -, foreign⟩ := plain_foreign
  have open_ : c.state.isTerminal = false := by
    rw [waits]
    rfl
  have stores := brings.receive_report unknown rfl open_
  exact foreign (always a e _ c brings unknown rfl stores.changes)

end Agent

end Plain

end Pairwise
