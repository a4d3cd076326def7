import Pairwise.Proofs.Acceptance
import Pairwise.Proofs.Moves
import Pairwise.Proofs.RotationReplay
/-!
# What is answered to an announcement

A counterparty can announce any text as its new DID. What an agent makes of it is settled by the text and,
for the wording of a refusal only, by the DIDs that are stored. A connection goes on under a DID that
tells its document, with a service and with recipient keys that can be read; of all others it is left as
it was.

Results:
* `Agent.Appraises`, `Agent.appraises_iff`: the problem that is reported of an announced DID, or its
  document.
* `Agent.Switches`: what it means that a connection goes on under a new DID of its counterparty.
* `Agent.processRotate_answers`: every announcement on a completed connection is acknowledged, or refused,
  or fails, and by which of these the rest is known.
-/
namespace Pairwise

open Step

section Rotation

variable [suite : Suite]

namespace Agent

/-! ## The verdict -/

/-- What an agent makes of a DID that is announced to it: the problem that it reports, with its code and
its text, or the document that the DID tells. A peer DID that does not tell its document is not looked
up. -/
inductive Appraises (a : Agent) (did : String) : Except Problem Document → Prop
  | underivable (valid : PeerDid.isValid did = true) (untold : PeerDid.isDerivable did = false) :
    Appraises a did (.error ⟨"e.did.method_unsupported", some "DID Method Unsupported"⟩)
  | unresolvable {e : Error} (told : PeerDid.isValid did = true → PeerDid.isDerivable did = true)
      (fails : a.resolve did = .error e) :
    Appraises a did (.error ⟨"e.did.unresolvable", some "DID Unresolvable"⟩)
  | unserved {d : Document} (told : PeerDid.isValid did = true → PeerDid.isDerivable did = true)
      (resolved : a.resolve did = .ok d) (none : d.didcommServices = []) :
    Appraises a did (.error ⟨"e.did.doc_unsupported", some "DID Document Unsupported"⟩)
  | announced {d : Document} (announced : Announced did d) : Appraises a did (.ok d)

/-- What is reported of a DID that does not pass the check. -/
def reported (failed : KnownProblem × String) : Problem :=
  { Problem.ofKnown failed.1 with en := some failed.2 }

/-- The verdict is what the check of the DID comes to. -/
theorem appraises_iff {a : Agent} {did : String} {verdict : Except Problem Document} :
    a.Appraises did verdict ↔ (checkRotationDid did a).mapError reported = verdict := by
  have told : (PeerDid.isValid did = true → PeerDid.isDerivable did = true) ↔
      ¬ (PeerDid.isValid did && !PeerDid.isDerivable did) = true := by
    cases PeerDid.isValid did <;> cases PeerDid.isDerivable did <;> decide
  constructor
  · intro h
    cases h with
    | underivable valid untold =>
      rw [checkRotationDid, valid, untold]
      rfl
    | unresolvable tells fails =>
      rw [checkRotationDid, if_neg (told.mp tells), fails]
      rfl
    | unserved tells resolved none =>
      rw [checkRotationDid, if_neg (told.mp tells), resolved]
      dsimp only
      rw [none]
      rfl
    | announced announced =>
      rw [checkRotationDid_eq_ok.mpr announced]
      rfl
  · rintro rfl
    rcases checked : checkRotationDid did a with failed | d
    · unfold checkRotationDid at checked
      split at checked
      · next untold =>
        cases checked
        rw [Bool.and_eq_true, Bool.not_eq_true'] at untold
        exact .underivable untold.1 untold.2
      next supported =>
      split at checked
      · next e fails =>
        cases checked
        exact .unresolvable (told.mpr supported) fails
      next d resolved =>
      split at checked
      · next none =>
        cases checked
        exact .unserved (told.mpr supported) resolved (List.isEmpty_iff.mp none)
      · cases checked
    · exact .announced (checkRotationDid_eq_ok.mp checked)

/-- There is no other verdict. -/
theorem Appraises.unique {a : Agent} {did : String} {verdict verdict' : Except Problem Document}
    (h : a.Appraises did verdict) (h' : a.Appraises did verdict') : verdict = verdict' :=
  (appraises_iff.mp h).symm.trans (appraises_iff.mp h')

/-! ## What follows from it -/

/-- The connection goes on under a new DID of its counterparty in its next version: the DID that it leaves
is remembered, and nothing else of it has changed, nor has any other connection. The new DID is stored
with its document, or as it was stored before. -/
structure Switches (a : Agent) (c : Connection) (did : String) (d : Document) (a' : Agent) : Prop where
  connection : ∃ previous, c.previousTheirDids <+: previous ∧
    (∀ x, x ∈ previous ↔ c.theirDid = some x ∨ x ∈ c.previousTheirDids) ∧
    a'.connections.find? c.id = some { c with
      theirDid := some did, previousTheirDids := previous, version := c.version + 1 }
  others : ∀ id, id ≠ c.id → a'.connections.find? id = a.connections.find? id
  stored : ∃ record, a'.dids.find? did = some record ∧
    (record.document = some d ∨ a.dids.find? did = some record)

/-- What comes of an announcement, by what is made of the DID in it. Whatever is answered is addressed with
the connection as it was. -/
inductive Settles (a : Agent) (c : Connection) (m : Rotate) : Except Error Outbound → Agent → Prop
  | acknowledges {d : Document} {keys : List Key} {id : String} {a' : Agent}
      (appraised : a.Appraises m.did (.ok d)) (readable : d.recipientKeys = .ok keys)
      (switches : a.Switches c m.did d a') :
    Settles a c m (.ok ⟨.rotateAck (.new id m.threadId .ok), c⟩) a'
  | refuses {problem : Problem} {report : ProblemReport} {a' : Agent}
      (appraised : a.Appraises m.did (.error problem)) (kind : report.kind = .rotateProblem)
      (description : report.description = problem)
      (thread : report.thread = some (.reply m.threadId))
      (connections : a'.connections = a.connections) (dids : a'.dids = a.dids) :
    Settles a c m (.ok ⟨.rotateProblem report, c⟩) a'
  | fails {d : Document} {e : Error} {a' : Agent}
      (appraised : a.Appraises m.did (.ok d)) (unreadable : d.recipientKeys = .error e)
      (connections : a'.connections = a.connections) (dids : a'.dids = a.dids) :
    Settles a c m (.error e) a'

variable {a : Agent} {c : Connection} {m : Rotate} {did : String} {d : Document}

/-- Who announces a DID that tells its document, with keys that can be read, is answered with an
acknowledgement. -/
theorem Settles.acknowledged {result : Except Error Outbound} {a' : Agent}
    (h : Settles a c m result a') (appraised : a.Appraises m.did (.ok d)) {keys : List Key}
    (readable : d.recipientKeys = .ok keys) :
    (∃ id, result = .ok ⟨.rotateAck (.new id m.threadId .ok), c⟩) ∧ a.Switches c m.did d a' := by
  cases h with
  | acknowledges appraised' _ switches =>
    cases appraised.unique appraised'
    exact ⟨⟨_, rfl⟩, switches⟩
  | refuses appraised' => cases appraised.unique appraised'
  | fails appraised' unreadable =>
    cases appraised.unique appraised'
    cases readable.symm.trans unreadable

/-- Who announces another is answered with a report of the problem, and nothing changes. -/
theorem Settles.refused {result : Except Error Outbound} {a' : Agent} (h : Settles a c m result a')
    {problem : Problem} (appraised : a.Appraises m.did (.error problem)) :
    (∃ report : ProblemReport, result = .ok ⟨.rotateProblem report, c⟩ ∧
      report.description = problem) ∧ a'.connections = a.connections := by
  cases h with
  | acknowledges appraised' => cases appraised.unique appraised'
  | refuses appraised' _ description _ connections =>
    cases appraised.unique appraised'
    exact ⟨⟨_, rfl, description⟩, connections⟩
  | fails appraised' => cases appraised.unique appraised'

/-- A document whose keys cannot be read is not taken in. -/
theorem saveReceivedDid_unreadable (announced : Announced did d) {e : Error}
    (unreadable : d.recipientKeys = .error e) (a : Agent) :
    (saveReceivedDid d.id d).run a = (.error e, a) := by
  obtain ⟨names, hnames⟩ := announced.otherNames_ok
  have made : DidRecord.new d.id .received d names a.now = .error e := by
    rw [DidRecord.new, Document.recipientFingerprints, unreadable]
    rfl
  rw [saveReceivedDid, bind_lift hnames, bind_view, run_bind, run_lift, made]

/-- An announced DID with keys that can be read is taken in, and the connection goes on under it. -/
theorem switches_run (announced : Announced did d) {keys : List Key}
    (readable : d.recipientKeys = .ok keys) (stored : a.connections.find? c.id = some c) :
    ∃ a₁ a', (saveReceivedDid d.id d).run a = (.ok (), a₁) ∧
      (updateConnection (c.withTheirDid (some did))).run a₁
        = (.ok (c.withTheirDid (some did)).next, a') ∧ a.Switches c did d a' := by
  have texts : d.recipientFingerprints = .ok (keys.map (·.fingerprint)) := by
    rw [Document.recipientFingerprints, readable]
    rfl
  obtain ⟨a₁, saved⟩ := announced.saveReceivedDid_run ⟨_, texts⟩ a
  have quiet := (saveReceivedDid_quiet _ _).of_run saved
  have stored₁ : a₁.connections.find? c.id = some c := by
    rw [quiet.connections]
    exact stored
  obtain ⟨a', updated, found⟩ :=
    updateConnection_found stored₁ (c.withTheirDid (some did)) rfl rfl
  have stores := updateConnection_ok quiet updated
  refine ⟨a₁, a', saved, updated, ⟨_, Connection.prefix_remember _ _, fun x => Connection.mem_remember,
    found⟩, fun id other => ?_, ?_⟩
  · exact Store.find?_update_of_ne stores.update other
  · rw [updateConnection_dids updated, ← announced.id]
    exact saveReceivedDid_stored saved

variable [chance : Chance]

/-- Whatever a counterparty announces on a completed connection, there is one verdict on it, and the answer
is by that: an acknowledgement if the DID is one of form 4 that tells its document, with a service and
with recipient keys that can be read, and then the connection has been switched to it; a report that names
the problem, or the error of the keys, and then the connections are as they were. -/
theorem processRotate_answers (completed : c.state = .completed)
    (stored : a.connections.find? c.id = some c) :
    (∃! verdict, a.Appraises m.did verdict) ∧
      Settles a c m ((processRotate c m).run a).1 ((processRotate c m).run a).2 := by
  have appraised : a.Appraises m.did ((checkRotationDid m.did a).mapError reported) :=
    appraises_iff.mpr rfl
  refine ⟨⟨_, appraised, fun _ other => other.unique appraised⟩, ?_⟩
  rw [processRotate, bind_lift (requireCompleted_eq_ok.mpr completed), bind_view]
  rcases checked : checkRotationDid m.did a with ⟨problem, en⟩ | d
  · rw [checked] at appraised
    exact .refuses appraised rfl rfl rfl rfl rfl
  rw [checked] at appraised
  have announced := checkRotationDid_eq_ok.mp checked
  dsimp only
  rw [bind_ok (drawId_run a)]
  rcases readable : d.recipientKeys with e | keys
  · rw [bind_error (saveReceivedDid_unreadable announced readable _)]
    exact .fails appraised readable rfl rfl
  · obtain ⟨a₁, a', saved, updated, switches⟩ :=
      switches_run (a := (drawId.run a).2) announced readable stored
    rw [bind_ok saved, bind_ok updated]
    exact .acknowledges appraised readable ⟨switches.connection, switches.others, switches.stored⟩

end Agent

end Rotation

/-! ## A DID that is switched to, and one that is not -/

section Plain

attribute [local instance] Suite.plain Chance.counting

/-- The DID of a routing is announced on a completed connection, is acknowledged, and the connection goes
on under it and remembers the DID before. A DID that nobody can resolve is announced instead, and is
refused with the code for that. -/
theorem Agent.processRotate_answers_plain : ∃ (a : Agent) (c : Connection) (m m' : Rotate) (d : Document)
    (n : RotateAck) (report : ProblemReport) (a₁ a₂ : Agent), c.theirDid = some "did:peer:old" ∧
      c.state = .completed ∧ a.connections.find? c.id = some c ∧
      (processRotate c m).run a = (.ok ⟨.rotateAck n, c⟩, a₁) ∧ a.Switches c m.did d a₁ ∧
      m'.did = "did:web:example.org" ∧
      (processRotate c m').run a = (.ok ⟨.rotateProblem report, c⟩, a₂) ∧
      report.description.code = "e.did.unresolvable" ∧ a₂.connections = a.connections := by
  obtain ⟨did, d, announced, tells⟩ := Announced.plain [1]
  let c : Connection := {
    id := "connection", createdAt := .epoch, role := .responder, state := .completed
    theirDid := some "did:peer:old" }
  obtain ⟨connections, hsave⟩ : ∃ s, (Store.empty : Store Connection).save c = .ok s := ⟨_, rfl⟩
  let a : Agent := { plain .hashAndDocument [3] with connections }
  have stored : a.connections.find? c.id = some c := Store.find?_save_self hsave
  have unresolvable : a.Appraises "did:web:example.org"
      (.error ⟨"e.did.unresolvable", some "DID Unresolvable"⟩) := .unresolvable (by decide) rfl
  obtain ⟨-, taken⟩ := processRotate_answers (m := .new "1" did) rfl stored
  obtain ⟨⟨id, answer⟩, switches⟩ := taken.acknowledged (.announced announced) tells.recipientKeys
  obtain ⟨-, left⟩ := processRotate_answers (m := .new "2" "did:web:example.org") rfl stored
  obtain ⟨⟨report, answer', description⟩, connections⟩ := left.refused unresolvable
  exact ⟨a, c, .new "1" did, .new "2" "did:web:example.org", d, _, report, _, _, rfl, rfl, stored,
    Prod.ext answer rfl, switches, rfl, Prod.ext answer' rfl, congrArg Problem.code description,
    connections⟩

end Plain

end Pairwise
