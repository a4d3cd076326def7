import Pairwise.Proofs.Courses
/-!
# The threads of connections

A thread begins when a request is made or taken in, on one connection, and stays with that. Nothing ever
looks for the thread of a request before it is taken in: a connection for one has left the state in which
requests are taken in, but an invitation for many takes in the same request again. Two connections share a
thread in that case, and in no other.

Results:
* `Operation.Opens`, `Operation.threads`: the thread that begins in the course of an operation.
* `Agent.OpenedAt`, `Agent.thread_shared_iff`: when two connections share a thread.
* `Agent.threads_not_always_apart`: two connections share one if a request is received again.
-/
namespace Pairwise

open Step

section Threads

variable [suite : Suite] [chance : Chance]

namespace Agent

variable {a a' b : Agent} {c : Connection} {id id' t : String} {y : Action}

/-! ## What begins a thread -/

omit chance in
/-- The thread of the connection of an id. -/
def threadOf (a : Agent) (id : String) : Option String := (a.connections.find? id).bind (·.threadId)

omit chance in
theorem threadOf_eq_some : a.threadOf id = some t ↔
    ∃ c ∈ a.connections.records, c.id = id ∧ c.threadId = some t := by
  rw [threadOf, Option.bind_eq_some_iff]
  constructor
  · rintro ⟨c, found, thread⟩
    obtain ⟨mem, same⟩ := Store.find?_eq_some.mp found
    exact ⟨c, mem, same, thread⟩
  · rintro ⟨c, mem, same, thread⟩
    exact ⟨c, Store.find?_eq_some.mpr ⟨mem, same⟩, thread⟩

omit chance in
/-- The agent afterwards has its connections in their threads, and no others. -/
def SameThreads (a a' : Agent) : Prop := ∀ id, a'.threadOf id = a.threadOf id

instance : IsPreorder Agent SameThreads where
  refl _ _ := rfl
  trans _ _ _ hab hbc id := (hbc id).trans (hab id)

omit chance in
/-- Two connections are in the thread. -/
def SharesThread (a : Agent) (t : String) : Prop :=
  ∃ c ∈ a.connections.records, ∃ c' ∈ a.connections.records, c ≠ c' ∧ c.threadId = some t ∧
    c'.threadId = some t

omit chance in
/-- The connection of a thread cannot be told exactly if two are in it. -/
theorem sharesThread_iff (tags : ∀ c ∈ a.connections.records, c.customTags = []) :
    (∃ what, a.connectionOfThread t = .error (.recordDuplicate what)) ↔ a.SharesThread t := by
  rw [connectionOfThread, Store.querySingle_eq_duplicate]
  have asked (c : Connection) : c ∈ a.connections.query (.on "threadId" t) ↔
      c ∈ a.connections.records ∧ c.threadId = some t := by
    rw [Store.mem_query]
    exact and_congr_right fun mem => Connection.accepts_thread (tags c mem)
  constructor
  · rintro ⟨c, mem, c', mem', other⟩
    obtain ⟨there, thread⟩ := (asked c).mp mem
    obtain ⟨there', thread'⟩ := (asked c').mp mem'
    exact ⟨c, there, c', there', other, thread, thread'⟩
  · rintro ⟨c, there, c', there', other, thread, thread'⟩
    exact ⟨c, (asked c).mpr ⟨there, thread⟩, c', (asked c').mpr ⟨there', thread'⟩, other⟩

omit chance in
/-- A thread begins, on one connection that was in none. -/
structure Threads (a : Agent) (id t : String) (a' : Agent) : Prop where
  new : a.threadOf id = none
  begun : a'.threadOf id = some t
  others : ∀ id', id' ≠ id → a'.threadOf id' = a.threadOf id'

omit chance in
theorem SameThreads.of_same (same : a'.connections = a.connections) : SameThreads a a' :=
  fun id => congrArg (fun s => (s.find? id).bind Connection.threadId) same

omit chance in
/-- A connection that begins is in no thread. -/
theorem Starts.sameThreads (h : Starts a c a') : SameThreads a a' := by
  intro id
  rw [threadOf, threadOf]
  by_cases own : id = c.id
  · subst own
    have found : a'.connections.find? c.id = some c := Store.find?_save_self h.saved
    have new : a.connections.find? c.id = none := (Store.save_eq_ok.mp h.saved).1
    rw [found, new]
    exact h.thread
  · rw [Store.find?_save_of_ne h.saved own]

omit chance in
/-- The connection that is stored has its thread, and all others have theirs. -/
theorem Stores.threads {next stored : Connection} (h : Stores a next stored a') :
    a'.threadOf next.id = next.threadId ∧ ∀ id, id ≠ next.id → a'.threadOf id = a.threadOf id := by
  constructor
  · rw [threadOf, h.find?_next]
    rfl
  · intro id other
    rw [threadOf, threadOf, h.find?_of_ne other]

/-- An action that begins no thread leaves all connections in theirs. -/
theorem act_sameThreads (faithful : a.Faithful c.id c) (none : ∀ t, ¬ y.Opens a c t) :
    SameThreads a ((y.step c).run a).2 := by
  generalize run : (y.step c).run a = out
  obtain ⟨result, a'⟩ := out
  cases Action.leaves run with
  | fails quiet => exact .of_same quiet.connections
  | refuses quiet => exact .of_same quiet.connections
  | forks many taken => exact absurd (.takes (congrArg Prod.fst taken)) (none _)
  | @revises _ next _ stores same revises =>
    have source := Stores.source faithful stores same rfl
    obtain ⟨begun, others⟩ := stores.threads
    intro id
    by_cases own : id = next.id
    · subst own
      obtain ⟨t, opens, -⟩ | ⟨-, thread⟩ := revises.thread
      · exact absurd opens (none t)
      · rw [begun, thread, threadOf, same.1, source]
        rfl
    · exact others id own

/-- An action that begins a thread does so on one connection that was in none. -/
theorem act_threads (faithful : a.Faithful c.id c)
    (fresh : c.state.isFresh = true → c.threadId = none) (opens : y.Opens a c t) :
    ∃ id, Threads a id t ((y.step c).run a).2 := by
  have done := opens.succeeds
  generalize run : (y.step c).run a = out at done
  obtain ⟨result, a'⟩ := out
  cases done
  cases Action.leaves run with
  | refuses quiet => cases opens
  | @forks m r fork many taken saved blank tags thread state =>
    obtain rfl : t = m.id := opens.unique (.takes (congrArg Prod.fst taken))
    have found : a'.connections.find? fork.id = some fork := Store.find?_save_self saved
    have new : a.connections.find? fork.id = none := (Store.save_eq_ok.mp saved).1
    refine ⟨fork.id, ?_, ?_, fun id other => ?_⟩
    · rw [threadOf, new]
      rfl
    · rw [threadOf, found]
      exact thread
    · rw [threadOf, threadOf, Store.find?_save_of_ne saved other]
  | @revises _ next _ stores same revises =>
    have source := Stores.source faithful stores same rfl
    obtain ⟨begun, others⟩ := stores.threads
    obtain ⟨t', opens', young, thread⟩ | ⟨none, -⟩ := revises.thread
    · obtain rfl := opens.unique opens'
      refine ⟨next.id, ?_, begun.trans thread, others⟩
      rw [threadOf, same.1, source]
      exact fresh young
    · exact absurd opens (none t)

/-- Once a request is taken in, nothing that comes of the envelope begins another thread. -/
theorem receive_sameThreads {e : Envelope} {m : Request} {r : Option Routing} {c' : Connection}
    {b' : Agent} (hands : a.Hands e (.request m) c) (routing : (answerRouting c).run a = (.ok r, b))
    (taken : (processRequest c m r).run b = (.ok c', b')) :
    SameThreads b' ((receive e).run a).2 := by
  have dispatched : SameThreads b' ((dispatch (.request m) c).run a).2 := by
    rw [dispatch, bind_view]
    dsimp only
    rw [Step.bind_ok routing, Step.bind_ok taken]
    split
    · have stored : b'.connections.find? c'.id = some c' := by
        have before := ((answerRouting_rests c).of_run routing).connections ▸ hands.stored
        rcases processRequest_cases before taken with turn | fork
        · exact turn.turn.keeps.1 ▸ turn.after
        · exact fork.after
      have answering := act_sameThreads (y := .createResponse r) (faithful_of_stored stored c'.id)
        (fun _ opens => by cases opens)
      change SameThreads b' ((Agent.createResponse c' r).done.run b').2 at answering
      rw [done_run] at answering
      rwa [run_bind_of_still _ fun _ _ => rfl]
    · exact refl b'
  obtain ⟨opened, hopen, hm, found, accepted⟩ := hands
  have handled : (receive e).run a = (handle (.request m) c).run a := by
    rw [receive, bind_ask hopen, bind_lift hm, bind_ask found, bind_ask accepted]
  rw [handled]
  exact IsTrans.trans _ _ _ dispatched (.of_same (handle_rests (.request m) c a).connections)

end Agent

/-! ## Operations -/

namespace Operation

open Agent

variable {a b : Agent} {c : Connection} {x : Operation} {t : String}

/-- In the course of the operation a request is made or taken in, and its thread begins. -/
def Opens (a : Agent) (x : Operation) (t : String) : Prop :=
  ∃ b c y, x.Asks a b c y ∧ y.Opens b c t

/-- An operation that begins no thread leaves all connections in theirs. -/
theorem sameThreads (faithful : ∀ id c y, x = .on c y → a.Faithful id c)
    (none : ∀ t, ¬ x.Opens a t) : SameThreads a (x.step.run a).2 := by
  have passes := x.passes a
  generalize (x.step.run a).2 = b at passes
  induction passes with
  | start => exact refl a
  | rests _ rests ih => exact IsTrans.trans _ _ _ (ih faithful none) (.of_same rests.connections)
  | invites made => exact (createInvitation_starts made).1.sameThreads
  | accepts taken => exact (receiveInvitation_starts taken).1.sameThreads
  | @acts x b c y _ asks ih =>
    refine IsTrans.trans _ _ _ (ih faithful none) (act_sameThreads ?_ fun t opens => ?_)
    · exact asks.faithful (faithful c.id)
    · exact none t ⟨b, c, y, asks, opens⟩

/-- An operation that begins a thread does so on one connection that was in none. -/
theorem threads (faithful : ∀ id c y, x = .on c y → a.Faithful id c)
    (fresh : ∀ c, c ∈ a.connections.records ∨ (∃ y, x = .on c y) → c.state.isFresh = true →
      c.threadId = none) (opens : x.Opens a t) : ∃ id, Threads a id t (x.step.run a).2 := by
  obtain ⟨b, c, y, asks, opens⟩ := opens
  cases asks with
  | on => exact act_threads (faithful c.id c y rfl) (fresh c (.inr ⟨y, rfl⟩)) opens
  | @receives e m c y hands asks => cases m <;> cases asks <;> cases opens
  | @requested e m c r b hands routing =>
    have rests := (answerRouting_rests c).of_run routing
    have stored : b.connections.find? c.id = some c := rests.connections ▸ hands.stored
    have mem := (Store.find?_eq_some.mp hands.stored).1
    obtain ⟨id, begins⟩ := act_threads (faithful_of_stored stored c.id) (fresh c (.inl mem)) opens
    have before : SameThreads a b := .of_same rests.connections
    cases opens with
    | takes taken =>
    have after := receive_sameThreads hands routing (Prod.ext taken rfl)
    change Threads b id m.id ((Agent.processRequest c m r).done.run b).2 at begins
    rw [done_run] at begins
    change ∃ id, Threads a id m.id ((Agent.receive e).done.run a).2
    rw [done_run]
    exact ⟨id, (before id).symm.trans begins.new, (after id).trans begins.begun,
      fun id' other => (after id').trans ((begins.others id' other).trans (before id'))⟩
  | responds => cases opens
  | completes => cases opens

end Operation

/-! ## Runs -/

namespace Agent

variable {a : Agent} {xs : List Operation} {k k' m n : Nat} {id id' t : String}

/-- At a point of a run a request is made or taken in, and its thread begins. -/
def OpenedAt (a : Agent) (xs : List Operation) (n : Nat) (t : String) : Prop :=
  ∃ x, xs[n]? = some x ∧ x.Opens (a.after (xs.take n)) t

/-- What one operation of a run does to the threads. -/
theorem threads_succ (empty : a.connections.records = []) (copies : ∀ id, a.CopiesRead id xs)
    (hn : n < xs.length) :
    (∀ t, a.OpenedAt xs n t →
      ∃ id, Threads (a.after (xs.take n)) id t (a.after (xs.take (n + 1)))) ∧
    ((∀ t, ¬ a.OpenedAt xs n t) → SameThreads (a.after (xs.take n)) (a.after (xs.take (n + 1)))) := by
  have at_ : xs[n]? = some xs[n] := List.getElem?_eq_getElem hn
  have faithful (id : String) (c : Connection) (y : Action) (asks : xs[n] = .on c y) :
      (a.after (xs.take n)).Faithful id c := (copies id).faithful (at_.trans (congrArg some asks))
  have regular (m : Nat) (le : m ≤ n) := regular empty copies (Nat.le_trans le (Nat.le_of_lt hn))
  rw [after_take_succ a hn]
  constructor
  · rintro t ⟨x, at_', opens⟩
    cases at_.symm.trans at_'
    refine Operation.threads faithful (fun c there => ?_) opens
    rcases there with there | ⟨y, asks⟩
    · exact fun fresh => ((regular n (Nat.le_refl n) c there).fresh fresh).2
    · obtain ⟨m, le, there⟩ := CopiesRead.stored copies (at_.trans (congrArg some asks))
      exact fun fresh => ((regular m le c there).fresh fresh).2
  · exact fun none => Operation.sameThreads faithful fun t opens => none t ⟨_, at_, opens⟩

/-- A connection stays in its thread. -/
theorem threadOf_stays (empty : a.connections.records = []) (copies : ∀ id, a.CopiesRead id xs)
    (le : m ≤ n) (hn : n ≤ xs.length) (there : (a.after (xs.take m)).threadOf id = some t) :
    (a.after (xs.take n)).threadOf id = some t := by
  induction n, le using Nat.le_induction with
  | base => exact there
  | succ n le ih =>
    have before := ih (Nat.le_of_lt hn)
    obtain ⟨opened, unopened⟩ := threads_succ empty copies hn
    by_cases opens : ∃ t', a.OpenedAt xs n t'
    · obtain ⟨t', opens⟩ := opens
      obtain ⟨id', begins⟩ := opened t' opens
      by_cases own : id = id'
      · cases (own ▸ begins.new).symm.trans before
      · exact (begins.others id own).trans before
    · exact (unopened (fun t' opens' => opens ⟨t', opens'⟩) id).trans before

/-- Every connection came to be in its thread at a point of the run at which the thread began. -/
theorem threadOf_began (empty : a.connections.records = []) (copies : ∀ id, a.CopiesRead id xs)
    (hn : n ≤ xs.length) (there : (a.after (xs.take n)).threadOf id = some t) :
    ∃ k < n, a.OpenedAt xs k t ∧
      Threads (a.after (xs.take k)) id t (a.after (xs.take (k + 1))) := by
  induction n with
  | zero =>
    obtain ⟨c, mem, -⟩ := threadOf_eq_some.mp there
    change c ∈ a.connections.records at mem
    rw [empty] at mem
    cases mem
  | succ n ih =>
    obtain ⟨opened, unopened⟩ := threads_succ empty copies hn
    have earlier (before : (a.after (xs.take n)).threadOf id = some t) :
        ∃ k < n + 1, a.OpenedAt xs k t ∧
          Threads (a.after (xs.take k)) id t (a.after (xs.take (k + 1))) := by
      obtain ⟨k, lt, began⟩ := ih (Nat.le_of_lt hn) before
      exact ⟨k, Nat.lt_succ_of_lt lt, began⟩
    by_cases opens : ∃ t', a.OpenedAt xs n t'
    · obtain ⟨t', opens⟩ := opens
      obtain ⟨id', begins⟩ := opened t' opens
      by_cases own : id = id'
      · subst own
        obtain rfl : t' = t := Option.some.inj (begins.begun.symm.trans there)
        exact ⟨n, Nat.lt_succ_self n, opens, begins⟩
      · exact earlier ((begins.others id own).symm.trans there)
    · exact earlier ((unopened (fun t' opens' => opens ⟨t', opens'⟩) id).symm.trans there)

/-- A thread that began twice is that of two connections. -/
theorem SharesThread.of_opened (empty : a.connections.records = [])
    (copies : ∀ id, a.CopiesRead id xs) (lt : k < k') (opened : a.OpenedAt xs k t)
    (opened' : a.OpenedAt xs k' t) : (a.after xs).SharesThread t := by
  have bound {n : Nat} : a.OpenedAt xs n t → n < xs.length
    | ⟨_, at_, _⟩ => (List.getElem?_eq_some_iff.mp at_).1
  obtain ⟨id, begins⟩ := (threads_succ empty copies (bound opened)).1 t opened
  obtain ⟨id', begins'⟩ := (threads_succ empty copies (bound opened')).1 t opened'
  have still {m n : Nat} (le : m ≤ n) (hn : n ≤ xs.length) {id : String}
      (there : (a.after (xs.take m)).threadOf id = some t) :
      (a.after (xs.take n)).threadOf id = some t := threadOf_stays empty copies le hn there
  have other : id ≠ id' := by
    rintro rfl
    cases begins'.new.symm.trans (still lt (Nat.le_of_lt (bound opened')) begins.begun)
  have last := still (Nat.succ_le_of_lt (bound opened)) (Nat.le_refl _) begins.begun
  have last' := still (Nat.succ_le_of_lt (bound opened')) (Nat.le_refl _) begins'.begun
  rw [List.take_length] at last last'
  obtain ⟨c, there, rfl, thread⟩ := threadOf_eq_some.mp last
  obtain ⟨c', there', rfl, thread'⟩ := threadOf_eq_some.mp last'
  exact ⟨c, there, c', there', fun same => other (congrArg Connection.id same), thread, thread'⟩

/-- Whatever an agent that begins without connections is asked to do, and whatever envelopes it receives:
two connections share a thread exactly if it began twice, with requests that were made or taken in at
different points. The connection of the thread cannot be told then, and whenever it cannot, they do. -/
theorem thread_shared_iff (empty : a.connections.records = []) (copies : ∀ id, a.CopiesRead id xs)
    (t : String) :
    ((a.after xs).SharesThread t ↔ ∃ k k', k ≠ k' ∧ a.OpenedAt xs k t ∧ a.OpenedAt xs k' t) ∧
      ((∃ what, (a.after xs).connectionOfThread t = .error (.recordDuplicate what)) ↔
        (a.after xs).SharesThread t) := by
  refine ⟨⟨?_, ?_⟩, sharesThread_iff ?_⟩
  · rintro ⟨c, there, c', there', other, thread, thread'⟩
    have began := threadOf_eq_some.mpr ⟨c, there, rfl, thread⟩
    have began' := threadOf_eq_some.mpr ⟨c', there', rfl, thread'⟩
    rw [← List.take_length (l := xs)] at began began'
    obtain ⟨k, -, opened, begins⟩ := threadOf_began empty copies (Nat.le_refl _) began
    obtain ⟨k', -, opened', begins'⟩ := threadOf_began empty copies (Nat.le_refl _) began'
    refine ⟨k, k', ?_, opened, opened'⟩
    rintro rfl
    have apart : c'.id ≠ c.id := fun same => other (Store.eq_of_id_eq there there' same.symm)
    have same := begins.others c'.id apart
    rw [begins'.begun, begins'.new] at same
    cases same
  · rintro ⟨k, k', other, opened, opened'⟩
    rcases Nat.lt_or_gt_of_ne other with lt | gt
    · exact .of_opened empty copies lt opened opened'
    · exact .of_opened empty copies gt opened' opened
  · have regular := regular empty copies (Nat.le_refl xs.length)
    rw [List.take_length] at regular
    exact fun c mem => (regular c mem).tags

/-! ## What is taken in again -/

omit chance in
theorem saveNewDid_done (record : DidRecord) (b : Agent) :
    ∃ b', (saveNewDid record).run b = (.ok (), b') ∧ b'.connections = b.connections := by
  by_cases known : (b.dids.find? record.did).isSome = true
  · refine ⟨b, ?_, rfl⟩
    rw [saveNewDid, bind_view, if_pos known]
    rfl
  · obtain ⟨b', saved, gains⟩ := saveNewDid_run record (Option.not_isSome_iff_eq_none.mp known)
    exact ⟨b', saved, gains.connections⟩

omit chance in
/-- Whether a DID is taken in does not depend on what is stored. -/
theorem acceptTheirDid_again {did : String} {attachment : Option Attachment} {allowed : List Key}
    (taken : (acceptTheirDid did attachment allowed).run a = (.ok (), a')) (b : Agent) :
    ∃ b', (acceptTheirDid did attachment allowed).run b = (.ok (), b') ∧
      b'.connections = b.connections := by
  simp only [acceptTheirDid, bind_run_ok, lift_run_ok] at taken
  obtain ⟨p, _, ⟨told, rfl⟩, saved⟩ := taken
  split at saved
  · cases saved
  next d document =>
  simp only [saveReceivedDid, bind_run_ok, lift_run_ok] at saved
  obtain ⟨names, _, ⟨hnames, -⟩, now, _, -, record, _, ⟨made, -⟩, -⟩ := saved
  obtain ⟨record', made'⟩ : ∃ record', DidRecord.new did .received d names b.now = .ok record' := by
    rw [DidRecord.new, (DidRecord.new_ok made).2.2]
    exact ⟨_, rfl⟩
  obtain ⟨b', done, same⟩ := saveNewDid_done record' b
  refine ⟨b', ?_, same⟩
  rw [acceptTheirDid, bind_lift told, document]
  dsimp only
  rw [saveReceivedDid, bind_lift hnames, bind_view, bind_lift made', done]

/-- An invitation for many takes in again what it has taken in before. -/
theorem processRequest_again {m : Request} {own : Routing} {c' : Connection}
    (many : c.multiUse = true) (taken : (processRequest c m (some own)).run a = (.ok c', a'))
    (own' : Routing) (new : b.connections.find? (chance.uuid b.draws.ids) = none) :
    ∃ c'' b', (processRequest c m (some own')).run b = (.ok c'', b') := by
  simp only [processRequest, bind_run_ok, lift_run_ok] at taken
  obtain ⟨state, _, ⟨advance, rfl⟩, ⟨⟩, _, ⟨refers, rfl⟩, _, _, -, ⟨⟩, _, accepted, -⟩ := taken
  let fork : Connection := forked c own' (chance.uuid b.draws.ids) b.now
  have answer := answering_fork many own' b
  obtain ⟨b₁, again, same⟩ := acceptTheirDid_again accepted
    { b with draws := { b.draws with ids := b.draws.ids + 1 } }
  obtain ⟨b', saved, -⟩ := saveConnection_run (a := b₁) (requested fork m) (by rw [same]; exact new)
  obtain ⟨-, -, rfl⟩ := Transition.process_request advance
  refine ⟨requested fork m, b', ?_⟩
  rw [processRequest, bind_lift advance, bind_lift refers, bind_ok answer, bind_ok again, if_pos many]
  exact saved

end Agent

end Threads

/-! ## An envelope that is received again -/

section Plain

attribute [local instance] Suite.plain Chance.counting

namespace Agent

variable {b b' : Agent} {s : Routing} {i : Invitation} {d f : Connection} {p : PeerDid} {m : Request}
  {e : Envelope}

/-- An agent with the key of the invitation hands the request to the connection that the key leads to. -/
theorem Unanswered.hands (h : Unanswered b b' s i d f p m e) {a : Agent}
    (held : a.wallet.holds s.recipientKey = true)
    (found : a.connectionOfKey s.recipientKey = .ok (some d)) : a.Hands e (.request m) d := by
  exact ⟨_, unpack_run h.holds held, h.readable.read, connectionFor_eq_ok.mpr found,
    checkSender_stranger h.waiting.stage.theirDid rfl⟩

/-- The request opens its thread when it is received. -/
theorem Unanswered.opens (h : Unanswered b b' s i d f p m e) : (Operation.receive e).Opens b m.id := by
  have hands := h.hands h.waiting.held h.waiting.connectionOfKey
  exact ⟨_, d, _, .requested hands (answerRouting_many h.many b), .takes (congrArg Prod.fst h.taken)⟩

/-- It opens its thread again when it is received again. -/
theorem Unanswered.opens_again (h : Unanswered b b' s i d f p m e) :
    (Operation.receive e).Opens b' m.id := by
  have stored (z : Connection) : z ∈ b'.connections.records ↔ z = d ∨ z = f := by
    rw [h.connections, List.mem_pair]
  have found : b'.connectionOfKey s.recipientKey = .ok (some d) := by
    refine connectionOfKey_waiting h.unused (Store.query_single ((stored d).mpr (.inl rfl))
      ((Connection.accepts_invitationKey h.first).mpr h.waiting.stage.state) fun z mem other => ?_)
    rcases (stored z).mp mem with rfl | rfl
    · exact absurd rfl other
    · refine Bool.eq_false_iff.mpr fun accepted => ?_
      cases h.stage.state.symm.trans (Connection.accepts_state.mp (Query.accepts_and.mp accepted).2)
  have new : b'.connections.find? (Chance.uuid b'.draws.ids) = none := by
    refine Store.find?_eq_none.mpr fun z mem => ?_
    rw [h.ids]
    rcases (stored z).mp mem with rfl | rfl
    · exact fun same => absurd (h.names.1.symm.trans same) (by decide)
    · exact fun same => absurd (h.names.2.symm.trans same) (by decide)
  obtain ⟨c, b₁, again⟩ := processRequest_again (b := withNextKey b') h.many h.taken (nextRouting b') new
  exact ⟨_, d, _, .requested (h.hands h.held found) (answerRouting_many h.many b'),
    .takes (congrArg Prod.fst again)⟩

/-- A request that is received once has a thread of its own. -/
theorem thread_shared_iff_plain : ∃ (a : Agent) (xs : List Operation) (t : String),
    a.connections.records = [] ∧ (∀ id, a.CopiesRead id xs) ∧ a.OpenedAt xs 1 t ∧
    ((a.after xs).SharesThread t ↔ ∃ k k', k ≠ k' ∧ a.OpenedAt xs k t ∧ a.OpenedAt xs k' t) ∧
      ((∃ what, (a.after xs).connectionOfThread t = .error (.recordDuplicate what)) ↔
        (a.after xs).SharesThread t) := by
  obtain ⟨b, b', s, i, d, f, p, m, e, made, h⟩ := plain_unanswered
  have first : plainManual.after [.invite s true none] = b := by
    change ((createInvitation s true none).done.run plainManual).2 = b
    rw [done_run, made]
  have opened : plainManual.OpenedAt [.invite s true none, .receive e] 1 m.id :=
    ⟨.receive e, rfl, first.symm ▸ h.opens⟩
  exact ⟨plainManual, _, m.id, rfl, Unanswered.copies, opened,
    thread_shared_iff rfl Unanswered.copies m.id⟩

/-- It is not so that connections have threads of their own in every run in which invitations are made and
one envelope is received, any number of times. -/
theorem threads_not_always_apart : ¬ ∀ (a : Agent) (xs : List Operation) (e : Envelope) (t : String),
    a.connections.records = [] → a.dids.records = [] →
    (∀ x ∈ xs, (∃ r multiUse label, x = .invite r multiUse label) ∨ x = .receive e) →
    ¬ (a.after xs).SharesThread t := by
  intro always
  obtain ⟨b, b', s, i, d, f, p, m, e, made, h⟩ := plain_unanswered
  let xs : List Operation := [.invite s true none, .receive e, .receive e]
  have copies (id : String) : plainManual.CopiesRead id xs := by
    refine .of_none fun c y mem => ?_
    rcases List.mem_cons.mp mem with same | mem
    · cases same
    · rcases List.mem_pair.mp mem with same | same <;> cases same
  have first : plainManual.after [.invite s true none] = b := by
    change ((createInvitation s true none).done.run plainManual).2 = b
    rw [done_run, made]
  have opened : plainManual.OpenedAt xs 1 m.id := ⟨.receive e, rfl, first.symm ▸ h.opens⟩
  have again : plainManual.OpenedAt xs 2 m.id := ⟨.receive e, rfl, (h.after made).symm ▸ h.opens_again⟩
  have shares := SharesThread.of_opened rfl copies Nat.one_lt_two opened again
  refine always plainManual xs e m.id rfl rfl (fun x mem => ?_) shares
  rcases List.mem_cons.mp mem with rfl | mem
  · exact .inl ⟨s, true, none, rfl⟩
  · rcases List.mem_pair.mp mem with rfl | rfl <;> exact .inr rfl

end Agent

end Plain

end Pairwise
