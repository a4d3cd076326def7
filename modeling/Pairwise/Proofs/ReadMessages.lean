import Pairwise.Proofs.Messages
import Pairwise.Proofs.ReadDocuments
import Pairwise.Proofs.Texts
/-!
# Messages that were read

A message is read as what its type names: the family and the name of its type decide, and the version
between them does not. Whatever is read is sound: its numbers have their size, and JSON that is attached
to it is in order. So it is written as a message of the same kind, with the type of that kind, and is read
back from that as it was.

Results:
* `MessageKind.ofUri?_eq_some`: which types are known.
* `Message.Sound`, `Message.Sound.readBack`: the messages that are read back.
* `Request.gives`, `Response.gives`, …: what is read from the values of a message.
* `Message.ofKind_ok`, `Message.ofJson_ok`: what a message was read from.
* `Message.ofJson_stable`: messages can be read, written and read again; all else is refused.
-/
namespace Pairwise

open Json Json.Record

/-! ## Types of messages -/

namespace MessageKind

/-- The type of a kind, in some version. -/
def uriOf (k : MessageKind) (version : String) : String := k.family ++ "/" ++ version ++ "/" ++ k.name

theorem ofParts?_eq_some {family name : String} {k : MessageKind} :
    ofParts? family name = some k ↔ family = k.family ∧ name = k.name := by
  constructor
  · intro h
    have found := List.find?_some h
    rw [Bool.and_eq_true, decide_eq_true_eq, decide_eq_true_eq] at found
    exact ⟨found.2.symm, found.1.symm⟩
  · rintro ⟨rfl, rfl⟩
    cases k <;> decide

/-- A type is known if it is that of a kind, in whatever version. -/
theorem ofUri?_eq_some {uri : String} {k : MessageKind} :
    ofUri? uri = some k ↔ ∃ version : String, '/' ∉ version.toList ∧ uri = k.uriOf version := by
  constructor
  · intro h
    obtain ⟨⟨front, name⟩, cut, h⟩ := Option.bind_eq_some_iff.mp h
    obtain ⟨family, rfl⟩ := ofParts?_eq_some.mp h
    obtain ⟨text, -⟩ := Text.splitLast?_eq_some.mp cut
    rcases split : Text.splitLast? '/' front with _ | ⟨first, version⟩
    · -- a family has more than one part
      have parted : (Text.splitLast? '/' k.family).isSome = true := by cases k <;> decide
      rw [split] at family
      rw [← family, split] at parted
      cases parted
    · rw [split] at family
      subst family
      obtain ⟨front, plain⟩ := Text.splitLast?_eq_some.mp split
      refine ⟨version, plain, String.toList_inj.mp ?_⟩
      rw [text, front, uriOf]
      simp
  · rintro ⟨version, plain, rfl⟩
    have bare : '/' ∉ k.name.toList := by cases k <;> decide
    have cut : Text.splitLast? '/' (k.uriOf version) = some (k.family ++ "/" ++ version, k.name) :=
      Text.splitLast?_eq_some.mpr ⟨by simp [uriOf], bare⟩
    have cut' : Text.splitLast? '/' (k.family ++ "/" ++ version) = some (k.family, version) :=
      Text.splitLast?_eq_some.mpr ⟨by simp, plain⟩
    rw [ofUri?, cut]
    dsimp only [Option.bind_eq_bind, Option.bind_some]
    rw [cut']
    exact ofParts?_eq_some.mpr ⟨rfl, rfl⟩

end MessageKind

/-! ## What can be read of the parts of a message -/

namespace Json

mutual

/-- Any value that is read has its members in order. -/
theorem Source.sorted_of_json : (s : Source) → (v : Json) → s.json = .ok v → v.sorted = v
  | .null, _, h | .bool _, _, h | .int _, _, h | .real _, _, h | .str _, _, h => by cases h; rfl
  | .arr items stop, v, h => by
    obtain ⟨vs, hvs, h⟩ := Outcome.bind_eq_ok.mp h
    have each := Source.sorted_of_jsonItems items vs hvs
    cases stop with
    | some b => cases h
    | none =>
      cases h
      rw [sorted, sortedItems_eq, List.map_congr_left each, List.map_id']
  | .obj members stop, v, h => by
    obtain ⟨ms, hms, h⟩ := Outcome.bind_eq_ok.mp h
    have each := Source.sorted_of_jsonMembers members ms hms
    cases stop with
    | some b => cases h
    | none =>
      cases h
      have same : sortedMembers (sortMembers ms) = sortMembers ms := by
        rw [sortedMembers_eq]
        refine (List.map_congr_left fun m mem => ?_).trans (List.map_id _)
        exact Prod.ext rfl (each m (mem_sortMembers mem))
      rw [sorted, same, sortMembers_of_ascending (ascending_sortMembers ms)]
  | .flawed, _, h | .broken _, _, h => nomatch h

theorem Source.sorted_of_jsonItems : (items : List Source) → (vs : List Json) →
    Source.jsonItems items = .ok vs → ∀ v ∈ vs, v.sorted = v
  | [], _, h => by
    cases h
    exact List.forall_mem_nil _
  | s :: rest, vs, h => by
    obtain ⟨v, hv, h⟩ := Outcome.bind_eq_ok.mp h
    obtain ⟨others, hothers, h⟩ := Outcome.bind_eq_ok.mp h
    cases h
    exact List.forall_mem_cons.mpr
      ⟨Source.sorted_of_json s v hv, Source.sorted_of_jsonItems rest others hothers⟩

theorem Source.sorted_of_jsonMembers : (members : List (Except Fault String × Source)) →
    (ms : List (String × Json)) → Source.jsonMembers members = .ok ms → ∀ m ∈ ms, m.2.sorted = m.2
  | [], _, h => by
    cases h
    exact List.forall_mem_nil _
  | (name, s) :: rest, ms, h => by
    obtain ⟨name, -, h⟩ := Outcome.bind_eq_ok.mp h
    obtain ⟨v, hv, h⟩ := Outcome.bind_eq_ok.mp h
    obtain ⟨others, hothers, h⟩ := Outcome.bind_eq_ok.mp h
    cases h
    exact List.forall_mem_cons.mpr
      ⟨Source.sorted_of_json s v hv, Source.sorted_of_jsonMembers rest others hothers⟩

end

/-- Only `null` is read as `null`. -/
theorem Source.eq_null_of_json {s : Source} (h : s.json = .ok .null) : s = .null := by
  cases s with
  | null => rfl
  | arr items stop =>
    obtain ⟨vs, -, h⟩ := Outcome.bind_eq_ok.mp h
    cases stop <;> cases h
  | obj members stop =>
    obtain ⟨ms, -, h⟩ := Outcome.bind_eq_ok.mp h
    cases stop <;> cases h
  | _ => cases h

namespace Reader.Gives

variable {α : Type} {read : Reader α} {P : α → Prop}

/-- A value that may be `null` is there if it is not, and in order. -/
theorem json_nullable :
    Gives (Reader.nullable Reader.json) fun o => ∀ v ∈ o, v ≠ .null ∧ v.sorted = v := by
  intro s o h
  unfold Reader.nullable at h
  split at h
  · cases h
    exact fun _ mem => nomatch mem
  · next notNull =>
    obtain ⟨v, hv, e⟩ := Outcome.bind_eq_ok.mp h
    cases e
    intro v' mem
    obtain rfl := Option.mem_some.mp mem
    refine ⟨?_, Source.sorted_of_json _ _ hv⟩
    rintro rfl
    exact notNull (Source.eq_null_of_json hv)

theorem members (h : Gives read P) {ms : List (Except Fault String × Source)}
    {entries : List (String × α)} (hread : Reader.members read ms = .ok entries) :
    ∀ e ∈ entries, P e.2 := by
  induction ms generalizing entries with
  | nil =>
    cases hread
    exact List.forall_mem_nil _
  | cons m ms ih =>
    obtain ⟨name, -, hread⟩ := Outcome.bind_eq_ok.mp hread
    obtain ⟨a, ha, hread⟩ := Outcome.bind_eq_ok.mp hread
    obtain ⟨rest, hrest, e⟩ := Outcome.bind_eq_ok.mp hread
    cases e
    exact List.forall_mem_cons.mpr ⟨h _ a ha, ih hrest⟩

/-- The entries of a table are in the order of their names. -/
theorem table (h : Gives read P) :
    Gives (Reader.table read) fun entries => Ascending entries ∧ ∀ e ∈ entries, P e.2 := by
  intro s entries hread
  unfold Reader.table at hread
  split at hread
  · next ms stop =>
    obtain ⟨all, hall, hread⟩ := Outcome.bind_eq_ok.mp hread
    cases stop with
    | some b => cases hread
    | none =>
      cases hread
      exact ⟨ascending_sortMembers all, fun e mem => h.members hall e (mem_sortMembers mem)⟩
  · cases hread

end Reader.Gives

end Json

/-! The parts that a message may have. -/

theorem AttachmentData.gives_sound : Reader.Gives AttachmentData.reader.read AttachmentData.Sound := by
  refine Record.Gives.read (.of_given fun _ => .seq (.seq (.seq (.seq (.map (.any _) ?_) (.any _))
    (.any _)) (.any _)) (.optional .json_nullable fun _ mem => nomatch mem))
  exact fun _ _ _ _ _ _ _ _ _ sound => sound

theorem Attachment.gives_sound : Reader.Gives Attachment.reader.read Attachment.Sound := by
  refine Record.Gives.read (.of_given fun _ => .seq (.seq (.seq (.seq (.seq (.seq (.map (.any _) ?_)
    (.any _)) (.any _)) (.any _)) (.any _))
    (.optional (Reader.Gives.natUpTo _).nullable fun _ mem => nomatch mem))
    (.field AttachmentData.gives_sound))
  exact fun _ _ _ _ _ _ _ _ _ _ _ counted _ sound => ⟨sound, counted⟩

theorem Thread.gives_sound : Reader.Gives Thread.reader.read Thread.Sound := by
  refine Record.Gives.read (.of_given fun _ => .seq (.seq (.seq (.map (.any _) ?_) (.any _))
    (.nullable (.natUpTo _))) (.nullable (Reader.Gives.natUpTo _).table))
  exact fun _ _ _ _ _ counted _ ordered => ⟨counted, ordered⟩

/-! ## Messages from values -/

/-- The values of the members of an object, by name. -/
def Json.given (v : Json) : Given := ⟨fun name => (v.get? name).map Source.ofJson, false⟩

/-- A record that is read from an object is built from the values of its members. -/
theorem Json.Record.build_of_ofJson {α : Type} {r : Json.Record α} {members : List (String × Json)}
    {a : α} (h : Reader.ofJson r.read (.obj members) = .ok a) :
    r.build (Json.obj members).given = .ok a := by
  have found : (Json.obj members).given = ⟨fun name => lookup? name (Source.ofMembers members), false⟩ :=
    congrArg (Given.mk · false) (funext fun name => (lookup?_ofMembers members name).symm)
  rw [found]
  unfold Reader.ofJson Record.read at h
  rw [Source.ofJson] at h
  dsimp only at h
  split at h
  · next a' read =>
    split at read
    · next built _ _ =>
      cases h
      cases read
      exact built
    · cases read
  · cases h

namespace Message

/-- What the message is, whatever type it names. -/
def variant : Message → MessageKind
  | request _ => .exchangeRequest
  | response _ => .exchangeResponse
  | complete _ => .exchangeComplete
  | exchangeProblem _ => .exchangeProblem
  | rotate _ => .rotate
  | rotateAck _ => .rotateAck
  | hangup _ => .hangup
  | rotateProblem _ => .rotateProblem
  | forward _ => .forward

/-- The document that comes with the message. -/
def attachment : Message → Option Attachment
  | request m => m.attachment
  | response m => m.attachment
  | _ => none

/-- The parts of the message are sound. -/
structure Sound (m : Message) : Prop where
  attachment : ∀ a ∈ m.attachment, a.Sound
  thread : ∀ t ∈ m.thread, t.Sound

theorem Sound.of_thread {m : Message} (none : m.attachment = none) (thread : ∀ t ∈ m.thread, t.Sound) :
    m.Sound where
  attachment a mem := absurd mem (none ▸ Option.not_mem_none a)
  thread := thread

/-- A sound message that names its own type is read back as it was written. -/
theorem Sound.readBack {m : Message} (h : m.Sound) (kind : m.kind = m.variant) : m.ReadBack := by
  cases m with
  | request m => exact Request.readBack kind h.attachment h.thread
  | response m => exact Response.readBack kind h.attachment h.thread
  | complete m => exact Complete.readBack kind h.thread
  | exchangeProblem m => exact ProblemReport.readBack kind h.thread
  | rotate m => exact Rotate.readBack kind h.thread
  | rotateAck m => exact RotateAck.readBack kind h.thread
  | hangup m => exact Hangup.readBack kind h.thread
  | rotateProblem m => exact ProblemReport.readBack_rotation kind h.thread
  | forward m => exact Forward.readBack kind

/-- The message can have been read from the values. -/
structure ReadFrom (given : Given) (m : Message) : Prop where
  kind : ∃ s, given.find? "@type" = some s ∧ MessageKind.reader s = .ok m.kind
  id : ∃ s, given.find? "@id" = some s ∧ Reader.string s = .ok m.id
  sound : m.Sound

end Message

section Gives

variable (given : Given)

theorem Request.gives : GivesFrom given Request.reader fun m => (Message.request m).ReadFrom given := by
  refine .seq (.seq (.seq (.seq (.seq (.seq (.seq (.map .found ?_) .found) (.any _)) (.any _))
    (.any _)) (.any _)) (.nullable Attachment.gives_sound)) (.nullable Thread.gives_sound)
  exact fun _ kind _ id _ _ _ _ _ _ _ _ _ attachment _ thread => ⟨kind, id, attachment, thread⟩

theorem Response.gives : GivesFrom given Response.reader fun m => (Message.response m).ReadFrom given := by
  refine .seq (.seq (.seq (.seq (.map .found ?_) .found) (.any _)) (.nullable Attachment.gives_sound))
    (.nullable Thread.gives_sound)
  exact fun _ kind _ id _ _ _ attachment _ thread => ⟨kind, id, attachment, thread⟩

theorem Complete.gives : GivesFrom given Complete.reader fun m => (Message.complete m).ReadFrom given := by
  refine .seq (.seq (.map .found ?_) .found) (.nullable Thread.gives_sound)
  exact fun _ kind _ id _ thread => ⟨kind, id, .of_thread rfl thread⟩

theorem ProblemReport.gives : GivesFrom given ProblemReport.reader fun m =>
    (Message.exchangeProblem m).ReadFrom given ∧ (Message.rotateProblem m).ReadFrom given := by
  refine .seq (.seq (.seq (.map .found ?_) .found) (.any _)) (.nullable Thread.gives_sound)
  exact fun _ kind _ id _ _ _ thread => ⟨⟨kind, id, .of_thread rfl thread⟩, kind, id, .of_thread rfl thread⟩

theorem Rotate.gives : GivesFrom given Rotate.reader fun m => (Message.rotate m).ReadFrom given := by
  refine .seq (.seq (.seq (.map .found ?_) .found) (.any _)) (.nullable Thread.gives_sound)
  exact fun _ kind _ id _ _ _ thread => ⟨kind, id, .of_thread rfl thread⟩

theorem RotateAck.gives : GivesFrom given RotateAck.reader fun m =>
    (Message.rotateAck m).ReadFrom given := by
  refine .seq (.seq (.seq (.map .found ?_) .found) (.any _)) (.nullable Thread.gives_sound)
  exact fun _ kind _ id _ _ _ thread => ⟨kind, id, .of_thread rfl thread⟩

theorem Hangup.gives : GivesFrom given Hangup.reader fun m => (Message.hangup m).ReadFrom given := by
  refine .seq (.seq (.map .found ?_) .found) (.nullable Thread.gives_sound)
  exact fun _ kind _ id _ thread => ⟨kind, id, .of_thread rfl thread⟩

theorem Forward.gives : GivesFrom given Forward.reader fun m => (Message.forward m).ReadFrom given := by
  refine .seq (.seq (.seq (.map .found ?_) .found) (.any _)) (.any _)
  exact fun _ kind _ id _ _ _ _ =>
    ⟨kind, id, .of_thread rfl fun t mem => absurd mem (Option.not_mem_none t)⟩

end Gives

namespace Message

variable {v : Json} {m : Message} {k : MessageKind}

theorem readFrom_of_read {α : Type} {record : Json.Record α} {make : α → Message}
    {members : List (String × Json)}
    (gives : GivesFrom (Json.obj members).given record fun a => (make a).ReadFrom (Json.obj members).given)
    (h : Error.ofJson (make <$> Reader.ofJson record.read (.obj members)) = .ok m) :
    m.ReadFrom (Json.obj members).given ∧ ∃ a, m = make a := by
  rw [Error.ofJson, Outcome.mapError_eq_ok] at h
  cases read : Reader.ofJson record.read (.obj members) with
  | error f =>
    rw [read] at h
    cases h
  | ok a =>
    rw [read] at h
    cases h
    exact ⟨gives a (build_of_ofJson read), a, rfl⟩

/-- What is read as a message of a kind is one. -/
theorem ofKind_ok {members : List (String × Json)} (h : ofKind k (.obj members) = .ok m) :
    m.variant = k ∧ m.ReadFrom (Json.obj members).given := by
  have report := ProblemReport.gives (Json.obj members).given
  cases k with
  | invitation => cases h
  | exchangeRequest =>
    obtain ⟨reads, _, rfl⟩ := readFrom_of_read (Request.gives _) h
    exact ⟨rfl, reads⟩
  | exchangeResponse =>
    obtain ⟨reads, _, rfl⟩ := readFrom_of_read (Response.gives _) h
    exact ⟨rfl, reads⟩
  | exchangeComplete =>
    obtain ⟨reads, _, rfl⟩ := readFrom_of_read (Complete.gives _) h
    exact ⟨rfl, reads⟩
  | exchangeProblem =>
    obtain ⟨reads, _, rfl⟩ := readFrom_of_read (fun a ha => (report a ha).1) h
    exact ⟨rfl, reads⟩
  | rotate =>
    obtain ⟨reads, _, rfl⟩ := readFrom_of_read (Rotate.gives _) h
    exact ⟨rfl, reads⟩
  | rotateAck =>
    obtain ⟨reads, _, rfl⟩ := readFrom_of_read (RotateAck.gives _) h
    exact ⟨rfl, reads⟩
  | hangup =>
    obtain ⟨reads, _, rfl⟩ := readFrom_of_read (Hangup.gives _) h
    exact ⟨rfl, reads⟩
  | rotateProblem =>
    obtain ⟨reads, _, rfl⟩ := readFrom_of_read (fun a ha => (report a ha).2) h
    exact ⟨rfl, reads⟩
  | forward =>
    obtain ⟨reads, _, rfl⟩ := readFrom_of_read (Forward.gives _) h
    exact ⟨rfl, reads⟩

end Message

/-- The type of the value is that of the kind, in some version. -/
def Json.Names (v : Json) (k : MessageKind) : Prop :=
  ∃ version : String, '/' ∉ version.toList ∧ v.get? "@type" = some (.str (k.uriOf version))

namespace Message

variable {v : Json} {m : Message} {k : MessageKind}

/-- A value names a kind by a type that is known. -/
theorem names_iff :
    v.Names k ↔ ∃ uri, v.get? "@type" = some (.str uri) ∧ MessageKind.ofUri? uri = some k := by
  constructor
  · rintro ⟨version, plain, type⟩
    exact ⟨_, type, MessageKind.ofUri?_eq_some.mpr ⟨version, plain, rfl⟩⟩
  · rintro ⟨uri, type, known⟩
    obtain ⟨version, plain, rfl⟩ := MessageKind.ofUri?_eq_some.mp known
    exact ⟨version, plain, type⟩

/-- A value that names a kind is read as a message of the kind. -/
theorem ofJson_of_names (h : v.Names k) : ofJson v = ofKind k v := by
  obtain ⟨uri, type, known⟩ := names_iff.mp h
  rw [ofJson, type]
  dsimp only [Option.bind, str?]
  rw [known]

/-- A value that names no kind is refused. -/
theorem ofJson_of_unnamed (h : ∀ k, ¬ v.Names k) :
    ∃ text, ofJson v = .error (.unsupportedMessage text) := by
  rw [ofJson]
  split
  · exact ⟨_, rfl⟩
  · next uri found =>
    obtain ⟨type, htype, text⟩ := Option.bind_eq_some_iff.mp found
    cases type with
    | str s =>
      cases text
      split
      · exact ⟨_, rfl⟩
      · next k known => exact absurd (names_iff.mpr ⟨_, htype, known⟩) (h k)
    | _ => cases text

/-- A message was read from a value that names what the message is, and has the id of the message. -/
theorem ofJson_ok (h : ofJson v = .ok m) :
    v.Names m.variant ∧ m.kind = m.variant ∧ v.get? "@id" = some (.str m.id) ∧ m.Sound := by
  by_cases named : ∃ k, v.Names k
  · obtain ⟨k, named⟩ := named
    obtain ⟨uri, type, known⟩ := names_iff.mp named
    obtain ⟨members, rfl⟩ : ∃ members, v = .obj members := by
      cases v with
      | obj members => exact ⟨members, rfl⟩
      | _ => cases type
    rw [ofJson_of_names named] at h
    obtain ⟨rfl, ⟨s, foundKind, readKind⟩, ⟨s', foundId, readId⟩, sound⟩ := ofKind_ok h
    refine ⟨named, ?_, ?_, sound⟩
    · -- the type that the kind was read from is the one that told what to read
      have found : (Json.obj members).given.find? "@type" = some (.str uri) :=
        congrArg (Option.map Source.ofJson) type
      obtain rfl := Option.some.inj (found.symm.trans foundKind)
      have read : MessageKind.reader (.str uri) = .ok m.variant := by
        rw [MessageKind.reader, Reader.refine, Reader.string, Outcome.ok_bind, known]
        rfl
      exact Except.ok.inj (readKind.symm.trans read)
    · obtain ⟨value, there, rfl⟩ := Option.map_eq_some_iff.mp foundId
      rw [there]
      cases value with
      | str text =>
        cases readId
        rfl
      | _ => cases readId
  · obtain ⟨text, refused⟩ := ofJson_of_unnamed (not_exists.mp named)
    cases h.symm.trans refused

end Message

end Pairwise
