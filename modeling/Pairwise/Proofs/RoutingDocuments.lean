import Pairwise.Connection.Routing
import Pairwise.Did.Peer
import Pairwise.Proofs.Documents
import Pairwise.Proofs.Keys
/-!
# What a document tells of a routing

A document that is made for a routing tells whoever reads it where messages go, and which keys they
are sealed for; the names of the document play no part in that.

Results:
* `Routing.document_tells`: the document of a routing tells the routing, under whatever names.
* `Document.Tells.recipientKeys`: its only recipient key is that of the routing.
-/
namespace Pairwise

/-- The document names the routing's key for messages and signatures, and every service of it the
routing's keys. -/
structure Document.Tells (d : Document) (r : Routing) : Prop where
  ordered : d.Ordered
  authentication : d.authenticationKeys = .ok [r.recipientKey]
  services : d.didcommServices ≠ []
  recipients : ∀ s ∈ d.didcommServices, d.serviceRecipientKeys s = .ok [r.recipientKey]
  routing : ∀ s ∈ d.didcommServices, d.serviceRoutingKeys s = .ok r.routingKeys

/-! ## References in documents -/

namespace Document

/-- A bare key is no DID and no reference. -/
theorem dereference_bare (d : Document) (k : Key) :
    d.dereference k.base58 = Key.ofBase58 k.base58 .ed25519 := by
  have digits : ∀ c, c ∉ Base58.alphabet → c ∉ k.base58.toList := fun c hc hmem =>
    hc (List.contains_iff_mem.mp (List.all_eq_true.mp (Base58.all_encode k.bytes) c hmem))
  have scheme : Text.startsWith Did.keyScheme k.base58 = false :=
    Text.startsWith_eq_false (c := ':') (by decide) (digits ':' (by decide))
  have reference : k.base58.toList.contains '#' = false := by
    rw [Bool.eq_false_iff]
    exact fun h => digits '#' (by decide) (List.contains_iff_mem.mp h)
  rw [dereference, scheme, reference]
  rfl

theorem dereference_base58 (d : Document) {k : Key} (signs : k.kind = .ed25519) (sized : k.Sized) :
    d.dereference k.base58 = .ok k := by
  rw [dereference_bare, ← signs, Key.ofBase58_base58 sized]

theorem dereference_fragment (d : Document) {k : Key} (sized : k.Sized) (fragment : String) :
    d.dereference (k.did ++ "#" ++ fragment) = .ok k := by
  have scheme : Text.startsWith Did.keyScheme (k.did ++ "#" ++ fragment) = true := by
    rw [Key.did, String.append_assoc, String.append_assoc, Text.startsWith_append]
  rw [dereference, if_pos scheme, Did.key_fragment sized]

theorem toKey_ofKey (id controller : String) {k : Key} (sized : k.Sized) :
    (VerificationMethod.ofKey id controller k).toKey = .ok k := by
  have read := Key.ofBase58_base58 sized
  cases h : k.kind with
  | ed25519 => rw [VerificationMethod.ofKey, h]; rw [h] at read; exact read
  | x25519 => rw [VerificationMethod.ofKey, h]; rw [h] at read; exact read

/-! ## What the document says -/

theorem addNew_of_mem {α : Type} [BEq α] [LawfulBEq α] {seen items : List α}
    (h : ∀ a ∈ items, a ∈ seen) : addNew seen items = seen := by
  induction items with
  | nil => rfl
  | cons a items ih =>
    obtain ⟨ha, hitems⟩ := List.forall_mem_cons.mp h
    change addNew (if seen.contains a then seen else seen ++ [a]) items = seen
    rw [if_pos (List.contains_iff_mem.mpr ha), ih hitems]

/-- The recipient key of a document all services of which name the same one. -/
theorem recipientKeys_eq {d : Document} {k : Key} (services : d.didcommServices ≠ [])
    (recipients : ∀ s ∈ d.didcommServices, d.serviceRecipientKeys s = .ok [k]) :
    d.recipientKeys = .ok [k] := by
  obtain ⟨s, rest, e⟩ := List.exists_cons_of_ne_nil services
  rw [Document.recipientKeys]
  rw [e] at recipients ⊢
  obtain ⟨first, others⟩ := List.forall_mem_cons.mp recipients
  have all : ∃ keys, rest.mapM d.serviceRecipientKeys = .ok keys ∧ ∀ k' ∈ keys.flatten, k' ∈ [k] := by
    clear e first recipients
    induction rest with
    | nil => exact ⟨[], rfl, fun k hk => absurd hk List.not_mem_nil⟩
    | cons s rest ih =>
      obtain ⟨hs, hrest⟩ := List.forall_mem_cons.mp others
      obtain ⟨keys, hkeys, mem⟩ := ih hrest
      refine ⟨[k] :: keys, by rw [List.mapM_cons, hs, hkeys]; rfl, fun k' hk' => ?_⟩
      rw [List.flatten_cons, List.mem_append] at hk'
      exact hk'.elim (fun h => h) (mem k')
  obtain ⟨keys, hkeys, mem⟩ := all
  rw [List.mapM_cons, first, hkeys]
  change Except.ok (addNew [k] keys.flatten) = _
  rw [addNew_of_mem mem]

namespace Tells

variable {d : Document} {r : Routing}

theorem recipientKeys (h : d.Tells r) : d.recipientKeys = .ok [r.recipientKey] :=
  recipientKeys_eq h.services h.recipients

theorem recipientFingerprints (h : d.Tells r) :
    d.recipientFingerprints = .ok [r.recipientKey.fingerprint] := by
  rw [Document.recipientFingerprints, h.recipientKeys]
  rfl

end Tells

end Document

/-! ## The document of a routing -/

variable [Suite]

/-- A routing with an endpoint, all keys of which are usable. -/
structure Routing.Sound (r : Routing) : Prop where
  endpoints : r.endpoints ≠ []
  recipient : r.recipientKey.Usable
  mediators : ∀ k ∈ r.routingKeys, k.Usable

namespace Routing

/-- The references to the mediators' keys lead to these keys, in every document. -/
theorem references {keys : List Key} (h : ∀ k ∈ keys, k.Usable) :
    ∃ texts, keys.mapM (·.routingReference) = .ok texts ∧
      ∀ d : Document, texts.mapM d.dereference = .ok keys := by
  induction keys with
  | nil => exact ⟨[], rfl, fun _ => rfl⟩
  | cons k keys ih =>
    obtain ⟨hk, hkeys⟩ := List.forall_mem_cons.mp h
    obtain ⟨texts, written, read⟩ := ih hkeys
    obtain ⟨agreement, hagreement, -⟩ := hk.toX25519
    refine ⟨(k.did ++ "#" ++ agreement.fingerprint) :: texts, ?_, fun d => ?_⟩
    · rw [List.mapM_cons, Key.routingReference, hagreement, written]
      rfl
    · rw [List.mapM_cons, d.dereference_fragment hk.sized, read d]
      rfl

/-- The services of a routing are for messages, and name its key. -/
theorem services_shape {r : Routing} {services : List Service} (h : r.services = .ok services) :
    (r.endpoints ≠ [] → services ≠ []) ∧ ∀ s ∈ services, s.isDidcomm = true ∧
      s.priority ≤ Service.priorityLimit ∧ s.recipientKeys = [r.recipientKey.base58] := by
  obtain ⟨texts, -, h⟩ := Outcome.bind_eq_ok.mp h
  cases h
  refine ⟨fun endpoints => ?_, fun s hs => ?_⟩
  · rwa [ne_eq, List.map_eq_nil_iff, List.zipIdx_eq_nil_iff]
  · obtain ⟨⟨endpoint, i⟩, -, rfl⟩ := List.mem_map.mp hs
    exact ⟨rfl, Nat.le_of_lt_succ (Nat.mod_lt _ (Nat.succ_pos _)), rfl⟩

/-- All services of a routing tell its keys, whatever document they stand in. -/
theorem services_tell {r : Routing} (h : r.Sound) :
    ∃ services, r.services = .ok services ∧ services ≠ [] ∧ ∀ s ∈ services,
      s.isDidcomm = true ∧ s.priority ≤ Service.priorityLimit ∧
      s.recipientKeys = [r.recipientKey.base58] ∧
      ∀ d : Document, s.routingKeys.mapM d.dereference = .ok r.routingKeys := by
  obtain ⟨texts, written, read⟩ := references h.mediators
  obtain ⟨services, made⟩ : ∃ services, r.services = .ok services :=
    ⟨_, by rw [Routing.services, written]; rfl⟩
  obtain ⟨some, shape⟩ := services_shape made
  refine ⟨services, made, some h.endpoints, fun s hs => ?_⟩
  obtain ⟨didcomm, priority, keys⟩ := shape s hs
  refine ⟨didcomm, priority, keys, ?_⟩
  rw [Routing.services, written] at made
  cases made
  obtain ⟨_, -, rfl⟩ := List.mem_map.mp hs
  exact read

omit [Suite] in
/-- A document with services that are all for messages has these, in the order of priority. -/
theorem mem_didcommServices {services : List Service} (all : ∀ s ∈ services, s.isDidcomm = true)
    {d : Document} (same : d.service = services) (s : Service) :
    s ∈ d.didcommServices ↔ s ∈ services := by
  rw [Document.didcommServices, List.mem_mergeSort, List.mem_filter, same]
  exact ⟨And.left, fun hs => ⟨hs, all s hs⟩⟩

/-- Every document with the services of a routing has the key of the routing. -/
theorem recipientKeys_of_services {r : Routing} (h : r.Sound) {services : List Service}
    (told : r.services = .ok services) {d : Document} (same : d.service = services) :
    d.recipientKeys = .ok [r.recipientKey] := by
  obtain ⟨services', told', some, tell⟩ := services_tell h
  obtain rfl : services' = services := Except.ok.inj (told'.symm.trans told)
  have sorted := mem_didcommServices (fun s hs => (tell s hs).1) same
  obtain ⟨s, hs⟩ := List.exists_mem_of_ne_nil services' some
  refine Document.recipientKeys_eq (List.ne_nil_of_mem ((sorted s).mpr hs)) fun s hs => ?_
  obtain ⟨-, -, keys, -⟩ := tell s ((sorted s).mp hs)
  rw [Document.serviceRecipientKeys, keys, List.mapM_cons,
    Document.dereference_base58 _ h.recipient.signs h.recipient.sized]
  rfl

/-- The key of a routing as it is read in a document, which tells signing keys. -/
def toldKey (r : Routing) : Key := { r.recipientKey with kind := .ed25519 }

omit [Suite] in
theorem toldKey_of_signs {r : Routing} (signs : r.recipientKey.kind = .ed25519) :
    r.toldKey = r.recipientKey := by
  rw [toldKey, ← signs]

/-- A document with the services of a routing has one key, if its keys can be read: that of the
routing. -/
theorem recipientKeys_eq_told {r : Routing} {services : List Service}
    (told : r.services = .ok services) (endpoints : r.endpoints ≠ []) {d : Document}
    (same : d.service = services) {keys : List Key} (read : d.recipientKeys = .ok keys) :
    keys = [r.toldKey] := by
  obtain ⟨some, shape⟩ := services_shape told
  have sorted := mem_didcommServices (fun s hs => (shape s hs).1) same
  obtain ⟨s, hs⟩ := List.exists_mem_of_ne_nil services (some endpoints)
  have there : s ∈ d.didcommServices := (sorted s).mpr hs
  -- the key of one service can be read, and all name the same one
  obtain ⟨k, hk⟩ : ∃ k, d.dereference r.recipientKey.base58 = .ok k := by
    obtain ⟨lists, hlists, -⟩ := Outcome.bind_eq_ok.mp read
    obtain ⟨list, hlist⟩ := Outcome.eq_ok_of_mapM hlists there
    rw [Document.serviceRecipientKeys, (shape s hs).2.2] at hlist
    exact Outcome.eq_ok_of_mapM hlist List.mem_cons_self
  have recipients : ∀ s ∈ d.didcommServices, d.serviceRecipientKeys s = .ok [k] := by
    intro s hs
    rw [Document.serviceRecipientKeys, (shape s ((sorted s).mp hs)).2.2, List.mapM_cons, hk]
    rfl
  cases (Document.recipientKeys_eq (List.ne_nil_of_mem there) recipients).symm.trans read
  rw [Document.dereference_bare] at hk
  rw [Key.eq_of_ofBase58 hk]
  rfl

/-- The document of a routing tells the routing, and its names do not matter. -/
theorem document_tells {r : Routing} (h : r.Sound) (agreement : Key)
    (authenticationId agreementId : String) :
    ∃ d, r.document agreement authenticationId agreementId = .ok d ∧
      ∀ id alsoKnownAs, ({ d with id, alsoKnownAs } : Document).Tells r := by
  obtain ⟨services, hservices, some, tell⟩ := services_tell h
  refine ⟨_, by rw [document, hservices]; rfl, fun id alsoKnownAs => ?_⟩
  have sorted (d : Document) (hd : d.service = services) :=
    mem_didcommServices (fun s hs => (tell s hs).1) hd
  constructor
  case ordered => exact fun s hs => (tell s hs).2.1
  case authentication =>
    have read := Document.toKey_ofKey authenticationId selfName h.recipient.sized
    change ([MethodRef.embedded (.ofKey authenticationId selfName r.recipientKey)].mapM _) = _
    rw [List.mapM_cons, Document.entryKey, read]
    rfl
  case services =>
    obtain ⟨s, hs⟩ := List.exists_mem_of_ne_nil services some
    exact List.ne_nil_of_mem ((sorted _ rfl s).mpr hs)
  case recipients =>
    intro s hs
    obtain ⟨-, -, keys, -⟩ := tell s ((sorted _ rfl s).mp hs)
    rw [Document.serviceRecipientKeys, keys, List.mapM_cons,
      Document.dereference_base58 _ h.recipient.signs h.recipient.sized]
    rfl
  case routing =>
    intro s hs
    obtain ⟨-, -, -, keys⟩ := tell s ((sorted _ rfl s).mp hs)
    exact keys _

end Routing

end Pairwise
