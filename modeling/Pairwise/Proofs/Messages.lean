import Pairwise.Message
import Pairwise.Proofs.Documents
/-!
# Messages that were written are read

The messages of an exchange and of a rotation, and the envelopes that carry them, are read back as they
were written.

Results:
* `Envelope.reads`, `Forward.reads`: envelopes, alone and on their way to a mediator.
* `Signature.reads`, `ProtectedHeader.reads`, `Jws.reads`: signatures.
* `Attachment.Sound`, `Attachment.reads`, `Thread.Sound`, `Thread.reads`: what a message may bring along.
* `Message.ReadBack`: a message that is read back from the value that it is written as;
  `Request.readBack` and the others.
* `Message.Readable`: a message that is read back from its text; `Request.readable` and the others.
-/
namespace Pairwise

open Json Json.Record

/-! ## Envelopes -/

namespace EnvelopeHeader

theorem reads (h : EnvelopeHeader) : Reader.Reads reader.read h.toJson h := by
  refine Builds.reads ?_ rfl (.given _) (by simp)
  refine .seq (.seq (.map _ (.text ?_)) (.text ?_)) (.text ?_) <;> simp

theorem fits (h : EnvelopeHeader) (room : Nat) : h.toJson.fits (room + 1) = true := by
  simp [toJson]

end EnvelopeHeader

namespace RecipientHeader

theorem reads (h : RecipientHeader) : Reader.Reads reader.read h.toJson h := by
  refine Builds.reads ?_ rfl (.append (.append (.given _) (.optional _ _)) (.given _)) (by simp)
  refine .seq (.seq (.seq (.seq (.seq (.map _ (.text ?_)) (.nullableText ?_)) (.text ?_))
    (.text ?_)) (.text ?_)) (.text ?_) <;> simp

theorem fits (h : RecipientHeader) (room : Nat) : h.toJson.fits (room + 1) = true := by
  simp [toJson]

end RecipientHeader

namespace Recipient

theorem reads (r : Recipient) : Reader.Reads reader.read r.toJson r := by
  refine Builds.reads ?_ rfl (.given _) (by simp)
  refine .seq (.map _ (.text ?_)) (.field r.header.reads ?_) <;> simp

theorem fits (r : Recipient) (room : Nat) : r.toJson.fits (room + 2) = true := by
  simp [toJson, RecipientHeader.fits]

end Recipient

namespace Envelope

theorem reads (e : Envelope) : Reader.Reads reader.read e.toJson e := by
  refine Builds.reads ?_ rfl (.given _) (by simp)
  refine .seq (.seq (.seq (.seq (.map _ (.text ?_)) (.field (.list fun r _ => r.reads) ?_))
    (.text ?_)) (.text ?_)) (.text ?_) <;> simp

theorem fits (e : Envelope) (room : Nat) : e.toJson.fits (room + 4) = true := by
  simp [toJson, Recipient.fits]

end Envelope

/-! ## Signatures -/

namespace Jwk

theorem reads (j : Jwk) : Reader.Reads reader.read j.toJson j := by
  refine Builds.reads ?_ rfl (.append (.given _) (.optional _ _)) (by simp)
  refine .seq (.seq (.seq (.map _ (.text ?_)) (.text ?_)) (.text ?_)) (.optionalText ?_) <;> simp

theorem fits (j : Jwk) (room : Nat) : j.toJson.fits (room + 1) = true := by
  simp [toJson]

end Jwk

namespace ProtectedHeader

theorem reads (h : ProtectedHeader) : Reader.Reads reader.read h.toJson h := by
  refine Builds.reads ?_ rfl (.append (.append (.given _) (.optional _ _)) (.given _)) (by simp)
  refine .seq (.seq (.map _ (.text ?_)) (.optionalText ?_)) (.field h.jwk.reads ?_) <;> simp

theorem fits (h : ProtectedHeader) (room : Nat) : h.toJson.fits (room + 2) = true := by
  simp [toJson, Jwk.fits]

end ProtectedHeader

namespace Signature

theorem reads (s : Signature) : Reader.Reads reader.read s.toJson s := by
  have kid : Reader.Reads kidReader.read (.obj [("kid", .str s.kid)]) s.kid :=
    Builds.reads (Builds.map id (.text (s := s.kid) (by simp))) rfl (.given _) (by simp)
  refine Builds.reads ?_ rfl (.given _) (by simp)
  refine .seq (.seq (.map _ (.field kid ?_)) (.text ?_)) (.text ?_) <;> simp

theorem fits (s : Signature) (room : Nat) : s.toJson.fits (room + 2) = true := by
  simp [toJson]

end Signature

namespace Jws

theorem reads (j : Jws) : Reader.Reads reader j.toJson j := by
  cases j with
  | general signatures =>
    refine .orElse_first (Builds.reads ?_ rfl (.given _) (by simp))
    exact .map _ (.field (.list fun s _ => s.reads) (by simp))
  | flattened s =>
    refine .orElse_second (Record.refuses ?_ (.given _) (by simp)) fun inOrder => ?_
    · exact fun inOrder => ⟨_, rfl⟩
    · rw [toJson, s.reads inOrder]
      rfl

theorem fits (j : Jws) (room : Nat) : j.toJson.fits (room + 4) = true := by
  cases j with
  | general signatures => simp [toJson, Signature.fits]
  | flattened s => exact s.fits (room + 2)

end Jws

/-! ## Attachments -/

namespace AttachmentData

/-- Content in JSON is there and in order. -/
def Sound (d : AttachmentData) : Prop := ∀ v ∈ d.json, v ≠ .null ∧ v.sorted = v

theorem sound_of_none {d : AttachmentData} (h : d.json = none) : d.Sound :=
  fun _ mem => nomatch h.symm.trans mem

theorem reads {d : AttachmentData} (h : d.Sound) : Reader.Reads reader.read d.toJson d := by
  refine Builds.reads ?_ rfl (.append (.append (.append (.append (.optional _ _) (.optional _ _))
    (.unlessEmpty _ _)) (.optional _ _)) (.optional _ _)) (by simp)
  have notNull (j : Jws) : j.toJson ≠ .null := by cases j <;> exact nofun
  have content (v : Json) (mem : v ∈ d.json) : Reader.Reads Reader.json (id v) v ∧ id v ≠ .null :=
    ⟨.json (h v mem).2, (h v mem).1⟩
  refine .seq (.seq (.seq (.seq (.map _ (.optional (fun j _ => ⟨j.reads, notNull j⟩) ?_))
    (.optionalText ?_)) (.listedTexts ?_)) (.optionalText ?_))
    (.optional content ?_) <;> simp

theorem fits {d : AttachmentData} (h : d.json = none) (room : Nat) :
    d.toJson.fits (room + 5) = true := by
  simp [toJson, Jws.fits, h]

end AttachmentData

namespace Attachment

/-- An attachment of bytes that are not counted. -/
structure Plain (a : Attachment) : Prop where
  json : a.data.json = none
  byteCount : a.byteCount = none

/-- The content is sound, and so is the number of its bytes. -/
structure Sound (a : Attachment) : Prop where
  data : a.data.Sound
  byteCount : ∀ n ∈ a.byteCount, n ≤ UInt64.size - 1

theorem Plain.sound {a : Attachment} (h : a.Plain) : a.Sound where
  data := AttachmentData.sound_of_none h.json
  byteCount _ mem := nomatch h.byteCount.symm.trans mem

theorem reads {a : Attachment} (h : a.Sound) : Reader.Reads reader.read a.toJson a := by
  refine Builds.reads ?_ rfl (.append (.append (.append (.append (.append (.append (.optional _ _)
    (.optional _ _)) (.optional _ _)) (.optional _ _)) (.optional _ _)) (.optional _ _)) (.given _))
    (by simp)
  refine .seq (.seq (.seq (.seq (.seq (.seq (.map _ (.optionalText ?_)) (.optionalText ?_))
    (.optionalText ?_)) (.optionalText ?_)) (.optionalText ?_))
    (.optional (fun n mem => ⟨.natUpTo (h.byteCount n mem), nofun⟩) ?_))
    (.field (AttachmentData.reads h.data) ?_) <;> simp
  cases a.byteCount <;> rfl

theorem fits {a : Attachment} (h : a.Plain) (room : Nat) : a.toJson.fits (room + 6) = true := by
  simp [toJson, AttachmentData.fits h.json, h.byteCount]

/-! The member of a message that carries an attachment. -/

section Member

variable {o : Option Attachment}

theorem builds (h : ∀ a ∈ o, a.Sound) {members : List (String × Json)}
    (hv : members.lookup "did_doc~attach" = o.map (·.toJson)) :
    Builds (.nullable "did_doc~attach" reader.read) members o :=
  .nullable (fun a ha => ⟨reads (h a ha), nofun⟩) hv

theorem all_fits (h : ∀ a ∈ o, a.Plain) (room : Nat) : o.all (·.toJson.fits (room + 6)) = true := by
  cases o with
  | none => rfl
  | some a => exact fits (h a rfl) room

end Member

end Attachment

/-! ## Threads -/

namespace Thread

/-- A thread without counters. -/
structure Plain (t : Thread) : Prop where
  senderOrder : t.senderOrder = none
  receivedOrders : t.receivedOrders = none

theorem plain_replyUnder (thid : String) (parent : Option String) : (replyUnder thid parent).Plain :=
  ⟨rfl, rfl⟩

/-- The counters have their size, and stand in the order of the names. -/
structure Sound (t : Thread) : Prop where
  senderOrder : ∀ n ∈ t.senderOrder, n ≤ countLimit
  receivedOrders : ∀ orders ∈ t.receivedOrders, Ascending orders ∧ ∀ o ∈ orders, o.2 ≤ countLimit

theorem Plain.sound {t : Thread} (h : t.Plain) : t.Sound where
  senderOrder _ mem := nomatch h.senderOrder.symm.trans mem
  receivedOrders _ mem := nomatch h.receivedOrders.symm.trans mem

theorem reads {t : Thread} (h : t.Sound) : Reader.Reads reader.read t.toJson t := by
  have counts (n : Nat) (mem : n ∈ t.senderOrder) : Reader.Reads (Reader.natUpTo countLimit) (.int n) n :=
    .natUpTo (h.senderOrder n mem)
  have table (orders : List (String × Nat)) (mem : orders ∈ t.receivedOrders) :
      Reader.Reads (Reader.table (Reader.natUpTo countLimit))
        (.obj (orders.map fun o => (o.1, .int o.2))) orders := by
    obtain ⟨ordered, sized⟩ := h.receivedOrders orders mem
    exact .table (fun n : Nat => .int n) ordered fun o there => .natUpTo (sized o there)
  refine Builds.reads ?_ rfl (.append (.append (.append (.optional _ _) (.optional _ _))
    (.optional _ _)) (.optional _ _)) (by simp)
  refine .seq (.seq (.seq (.map _ (.nullableText ?_)) (.nullableText ?_))
    (.nullable (fun n mem => ⟨counts n mem, Json.noConfusion⟩) ?_))
    (.nullable (fun orders mem => ⟨table orders mem, Json.noConfusion⟩) ?_) <;> simp
  cases t.senderOrder <;> rfl

theorem fits {t : Thread} (h : t.Plain) (room : Nat) : t.toJson.fits (room + 1) = true := by
  simp [toJson, h.senderOrder, h.receivedOrders]

/-! The member of a message that writes its thread. -/

section Member

variable {t : Option Thread}

@[simp] theorem lookup_write (n : String) :
    (write t).lookup n = if n = "~thread" then t.map (·.toJson) else none :=
  lookup_optional _ _ _

theorem named_write (t : Option Thread) : Named ["~thread"] (write t) := .optional _ _

theorem builds (h : ∀ t' ∈ t, t'.Sound) {members : List (String × Json)}
    (hv : members.lookup "~thread" = t.map (·.toJson)) : Builds member members t :=
  .nullable (fun t' ht => ⟨reads (h t' ht), nofun⟩) hv

theorem all_write (h : ∀ t' ∈ t, t'.Plain) (room : Nat) :
    ((write t).all fun m => m.2.fits (room + 1)) = true := by
  cases t with
  | none => rfl
  | some t => simp [write, fits (h t rfl)]

end Member

end Thread

/-! ## Messages -/

namespace MessageKind

theorem reads (k : MessageKind) : Reader.Reads reader k.toJson k :=
  .refine (.string _) (ofUri?_uri k)

theorem fits (k : MessageKind) (room : Nat) : k.toJson.fits room = true := rfl

end MessageKind

namespace Problem

theorem reads (p : Problem) : Reader.Reads reader.read p.toJson p := by
  refine Builds.reads ?_ rfl (.append (.given _) (.optional _ _)) (by simp)
  refine .seq (.map _ (.text ?_)) (.optionalText ?_) <;> simp

theorem fits (p : Problem) (room : Nat) : p.toJson.fits (room + 1) = true := by
  simp [toJson]

end Problem

/-- The message is read back from the value that it is written as, in both orders of its members. -/
def Message.ReadBack (m : Message) : Prop :=
  ∀ inOrder, Message.ofJson (m.toJson.arranged inOrder) = .ok m

/-- The message is read back from its text. -/
structure Message.Readable (m : Message) : Prop where
  fits : m.toJson.fits Source.depthLimit = true
  read : Message.ofJson m.toJson.sorted = .ok m

namespace Message

theorem ReadBack.readable {m : Message} (h : m.ReadBack)
    (fits : m.toJson.fits Source.depthLimit = true) : m.Readable := ⟨fits, h true⟩

/-- What names its kind is read as a message of the kind. -/
theorem ofJson_eq {members : List (String × Json)} (different : (members.map Prod.fst).Nodup)
    {kind : MessageKind} (h : members.lookup "@type" = some kind.toJson) (inOrder : Bool) :
    ofJson ((Json.obj members).arranged inOrder) = ofKind kind ((Json.obj members).arranged inOrder) := by
  obtain ⟨members', e, -, lookup⟩ := arranged_obj inOrder different
  have name : ((Json.obj members).arranged inOrder).get? "@type" = some (.str kind.uri) := by
    rw [e, get?, lookup, h, Option.map_some, MessageKind.toJson, arranged_str]
  rw [ofJson, name]
  dsimp only [Option.bind, str?]
  simp only [MessageKind.ofUri?_uri]

/-- A message is read back if it can be built from the members that it is written as, one of which
names its kind, and no field of it goes by two of their names. -/
theorem readBack_apart {α : Type} (kind : MessageKind) (record : Json.Record α) (make : α → Message)
    {a : α} {members : List (String × Json)} (json : (make a).toJson = .obj members)
    (read : ∀ v, ofKind kind v = Error.ofJson (make <$> Reader.ofJson record.read v))
    {names : List String} (apart : record.Apart names) (named : Named names members)
    (different : names.Nodup) (builds : Builds record members a)
    (name : members.lookup "@type" = some kind.toJson) : (make a).ReadBack := by
  intro inOrder
  rw [json, ofJson_eq (different.sublist named) name, read, Reader.ofJson,
    builds.reads_apart apart named different inOrder]
  rfl

/-- A message is read back if it can be built from the members that it is written as, one of which
names its kind. -/
theorem readBack {α : Type} (kind : MessageKind) (record : Json.Record α) (make : α → Message)
    {a : α} {members : List (String × Json)} (json : (make a).toJson = .obj members)
    (read : ∀ v, ofKind kind v = Error.ofJson (make <$> Reader.ofJson record.read v))
    (one : record.fields.all (·.names.length == 1) = true) {names : List String}
    (named : Named names members) (different : names.Nodup) (builds : Builds record members a)
    (name : members.lookup "@type" = some kind.toJson) : (make a).ReadBack :=
  readBack_apart kind record make json read (apart_of_one one names) named different builds name

end Message

/-! ## The messages of an exchange -/

section Exchange

variable {m : Request} {n : Response} {o : Complete} {p : ProblemReport} {f : Forward}

theorem Request.readBack (kind : m.kind = .exchangeRequest)
    (attachment : ∀ a ∈ m.attachment, a.Sound) (thread : ∀ t ∈ m.thread, t.Sound) :
    (Message.request m).ReadBack := by
  refine Message.readBack .exchangeRequest Request.reader .request rfl (fun v => rfl) rfl
    (.append (.append (.append (.append (.append (.given _) (.optional _ _)) (.optional _ _))
      (.given _)) (.optional _ _)) (Thread.named_write _)) (by simp) ?_ (by simp [kind])
  refine .seq (.seq (.seq (.seq (.seq (.seq (.seq (.map _ (.field m.kind.reads ?_)) (.text ?_))
    (.text ?_)) (.nullableText ?_)) (.nullableText ?_)) (.text ?_))
    (Attachment.builds attachment ?_)) (Thread.builds thread ?_) <;> simp

theorem Request.readable (kind : m.kind = .exchangeRequest)
    (attachment : ∀ a ∈ m.attachment, a.Plain) (thread : ∀ t ∈ m.thread, t.Plain) :
    (Message.request m).Readable := by
  refine (Request.readBack kind (fun a mem => (attachment a mem).sound)
    fun t mem => (thread t mem).sound).readable ?_
  simp [Message.toJson, Request.toJson, Source.depthLimit, MessageKind.fits, Thread.all_write thread,
    Attachment.all_fits attachment]

theorem Response.readBack (kind : n.kind = .exchangeResponse)
    (attachment : ∀ a ∈ n.attachment, a.Sound) (thread : ∀ t ∈ n.thread, t.Sound) :
    (Message.response n).ReadBack := by
  refine Message.readBack .exchangeResponse Response.reader .response rfl (fun v => rfl) rfl
    (.append (.append (.given _) (.optional _ _)) (Thread.named_write _)) (by simp) ?_
    (by simp [kind])
  refine .seq (.seq (.seq (.seq (.map _ (.field n.kind.reads ?_)) (.text ?_)) (.text ?_))
    (Attachment.builds attachment ?_)) (Thread.builds thread ?_) <;> simp

theorem Response.readable (kind : n.kind = .exchangeResponse)
    (attachment : ∀ a ∈ n.attachment, a.Plain) (thread : ∀ t ∈ n.thread, t.Plain) :
    (Message.response n).Readable := by
  refine (Response.readBack kind (fun a mem => (attachment a mem).sound)
    fun t mem => (thread t mem).sound).readable ?_
  simp [Message.toJson, Response.toJson, Source.depthLimit, MessageKind.fits, Thread.all_write thread,
    Attachment.all_fits attachment]

theorem Complete.readBack (kind : o.kind = .exchangeComplete)
    (thread : ∀ t ∈ o.thread, t.Sound) : (Message.complete o).ReadBack := by
  refine Message.readBack .exchangeComplete Complete.reader .complete rfl (fun v => rfl) rfl
    (.append (.given _) (Thread.named_write _)) (by simp) ?_ (by simp [kind])
  refine .seq (.seq (.map _ (.field o.kind.reads ?_)) (.text ?_)) (Thread.builds thread ?_)
    <;> simp

theorem Complete.readable (kind : o.kind = .exchangeComplete)
    (thread : ∀ t ∈ o.thread, t.Plain) : (Message.complete o).Readable := by
  refine (Complete.readBack kind fun t mem => (thread t mem).sound).readable ?_
  simp [Message.toJson, Complete.toJson, Source.depthLimit, MessageKind.fits, Thread.all_write thread]

/-- A report can be built from the members that it is written as. -/
theorem ProblemReport.builds (thread : ∀ t ∈ p.thread, t.Sound) :
    Builds ProblemReport.reader ([("@type", p.kind.toJson), ("@id", .str p.id),
      ("description", p.description.toJson)] ++ Thread.write p.thread) p := by
  refine .seq (.seq (.seq (.map _ (.field p.kind.reads ?_)) (.text ?_))
    (.field p.description.reads ?_)) (Thread.builds thread ?_) <;> simp

theorem ProblemReport.fits (thread : ∀ t ∈ p.thread, t.Plain) :
    p.toJson.fits Source.depthLimit = true := by
  simp [ProblemReport.toJson, Source.depthLimit, MessageKind.fits, Problem.fits,
    Thread.all_write thread]

theorem ProblemReport.readBack (kind : p.kind = .exchangeProblem)
    (thread : ∀ t ∈ p.thread, t.Sound) : (Message.exchangeProblem p).ReadBack :=
  Message.readBack .exchangeProblem ProblemReport.reader .exchangeProblem rfl (fun v => rfl)
    rfl (.append (.given _) (Thread.named_write _)) (by simp) (builds thread) (by simp [kind])

theorem ProblemReport.readable (kind : p.kind = .exchangeProblem)
    (thread : ∀ t ∈ p.thread, t.Plain) : (Message.exchangeProblem p).Readable :=
  (readBack kind fun t mem => (thread t mem).sound).readable (fits thread)

theorem Forward.readBack (kind : f.kind = .forward) : (Message.forward f).ReadBack := by
  refine Message.readBack .forward Forward.reader .forward rfl (fun v => rfl) rfl (.given _)
    (by simp) ?_ (by simp [kind])
  refine .seq (.seq (.seq (.map _ (.field f.kind.reads ?_)) (.text ?_)) (.text ?_))
    (.field f.msg.reads ?_) <;> simp

theorem Forward.readable (kind : f.kind = .forward) : (Message.forward f).Readable := by
  refine (Forward.readBack kind).readable ?_
  simp [Message.toJson, Forward.toJson, Source.depthLimit, MessageKind.fits, Envelope.fits]

end Exchange

/-! ## The messages of a rotation -/

namespace AckStatus

theorem reads (s : AckStatus) : Reader.Reads reader s.toJson s := by
  intro inOrder
  rw [toJson, arranged_str]
  cases s <;> rfl

theorem fits (s : AckStatus) (room : Nat) : s.toJson.fits room = true := rfl

end AckStatus

section Rotation

variable {m : Rotate} {n : RotateAck} {o : Hangup} {p : ProblemReport}

/-- The announcement is written under one of the names that its DID may go by. -/
theorem Rotate.readBack (kind : m.kind = .rotate) (thread : ∀ t ∈ m.thread, t.Sound) :
    (Message.rotate m).ReadBack := by
  have apart : Rotate.reader.Apart ["@type", "@id", "to_did", "~thread"] := by decide
  refine Message.readBack_apart .rotate Rotate.reader .rotate rfl (fun v => rfl) apart
    (.append (.given _) (Thread.named_write _)) (by simp) ?_ (by simp [kind])
  refine .seq (.seq (.seq (.map _ (.field m.kind.reads ?_)) (.text ?_))
    (.fieldAlso ?_ (.string m.did))) (Thread.builds thread ?_) <;> simp

theorem Rotate.readable (kind : m.kind = .rotate) (thread : ∀ t ∈ m.thread, t.Plain) :
    (Message.rotate m).Readable := by
  refine (Rotate.readBack kind fun t mem => (thread t mem).sound).readable ?_
  simp [Message.toJson, Rotate.toJson, Source.depthLimit, MessageKind.fits, Thread.all_write thread]

theorem RotateAck.readBack (kind : n.kind = .rotateAck) (thread : ∀ t ∈ n.thread, t.Sound) :
    (Message.rotateAck n).ReadBack := by
  refine Message.readBack .rotateAck RotateAck.reader .rotateAck rfl (fun v => rfl) rfl
    (.append (.given _) (Thread.named_write _)) (by simp) ?_ (by simp [kind])
  refine .seq (.seq (.seq (.map _ (.field n.kind.reads ?_)) (.text ?_))
    (.field n.status.reads ?_)) (Thread.builds thread ?_) <;> simp

theorem RotateAck.readable (kind : n.kind = .rotateAck) (thread : ∀ t ∈ n.thread, t.Plain) :
    (Message.rotateAck n).Readable := by
  refine (RotateAck.readBack kind fun t mem => (thread t mem).sound).readable ?_
  simp [Message.toJson, RotateAck.toJson, Source.depthLimit, MessageKind.fits, AckStatus.fits,
    Thread.all_write thread]

theorem Hangup.readBack (kind : o.kind = .hangup) (thread : ∀ t ∈ o.thread, t.Sound) :
    (Message.hangup o).ReadBack := by
  refine Message.readBack .hangup Hangup.reader .hangup rfl (fun v => rfl) rfl
    (.append (.given _) (Thread.named_write _)) (by simp) ?_ (by simp [kind])
  refine .seq (.seq (.map _ (.field o.kind.reads ?_)) (.text ?_)) (Thread.builds thread ?_)
    <;> simp

theorem ProblemReport.readBack_rotation (kind : p.kind = .rotateProblem)
    (thread : ∀ t ∈ p.thread, t.Sound) : (Message.rotateProblem p).ReadBack :=
  Message.readBack .rotateProblem ProblemReport.reader .rotateProblem rfl (fun v => rfl)
    rfl (.append (.given _) (Thread.named_write _)) (by simp) (builds thread) (by simp [kind])

theorem ProblemReport.readable_rotation (kind : p.kind = .rotateProblem)
    (thread : ∀ t ∈ p.thread, t.Plain) : (Message.rotateProblem p).Readable :=
  (readBack_rotation kind fun t mem => (thread t mem).sound).readable (fits thread)

end Rotation

end Pairwise
