import Pairwise.Proofs.AttachedDocuments
import Pairwise.Proofs.Texts
/-!
# How a document names its own parts

A document refers to a part of its own by a fragment, `#fragment`, or with one of its names in front of
that. Names do not have a `#` in them, so that no more than one of them can stand in front of a fragment,
also if one is the beginning of another; and the keys of the document do not depend on how its parts are
referred to.

Results:
* `Document.relative_cases`, `Document.relative_of_spells`: what is left of a reference.
* `Document.Respells`: the documents differ in how they refer to their own parts, at most.
* `Document.dereference_agree`, `Document.Respells.didcommServices`: what references name then.
* `Document.respelled_keys`: such documents have the same keys.
-/
namespace Pairwise

/-! ## Results that agree -/

namespace Outcome

variable {ε α β γ : Type}

/-- Both give the same result, or both give none. -/
def Agree (x y : Except ε α) : Prop := ∀ a, x = .ok a ↔ y = .ok a

namespace Agree

theorem refl (x : Except ε α) : Agree x x := fun _ => Iff.rfl

theorem bind {x y : Except ε α} {f g : α → Except ε β} (first : Agree x y)
    (next : ∀ a, Agree (f a) (g a)) : Agree (x >>= f) (y >>= g) := by
  intro b
  rw [bind_eq_ok, bind_eq_ok]
  exact exists_congr fun a => and_congr (first a) (next a b)

theorem mapM {f : α → Except ε γ} {g : β → Except ε γ} {as : List α} {bs : List β}
    (items : List.Forall₂ (fun a b => Agree (f a) (g b)) as bs) :
    Agree (as.mapM f) (bs.mapM g) := by
  induction items with
  | nil => exact refl _
  | cons first _ ih =>
    rw [List.mapM_cons, List.mapM_cons]
    exact first.bind fun c => ih.bind fun _ => refl _

end Agree

end Outcome

/-! ## Lists of related items -/

section Related

variable {α β : Type} {R : α → β → Prop} {as : List α} {bs : List β}

theorem rel_find? {p : α → Bool} {q : β → Bool} (items : List.Forall₂ R as bs)
    (same : ∀ a b, R a b → p a = q b) :
    Option.Rel R (as.find? p) (bs.find? q) := by
  induction items with
  | nil => exact .none
  | @cons a b as bs related _ ih =>
    rw [List.find?_cons, List.find?_cons, same a b related]
    cases q b with
    | true => exact .some related
    | false => exact ih

/-- Related lists are put in the same order by what is the same in related items. -/
theorem rel_mergeSort {le : α → α → Bool} {le' : β → β → Bool} (items : List.Forall₂ R as bs)
    (same : ∀ a b a' b', R a b → R a' b' → le a a' = le' b b') :
    List.Forall₂ R (as.mergeSort le) (bs.mergeSort le') := by
  obtain ⟨length, related⟩ := List.forall₂_iff_zip.mp items
  -- both are what is left and right in the pairs, sorted by what is left
  let pairs := (as.zip bs).mergeSort fun p q => le p.1 q.1
  have left : pairs.map Prod.fst = as.mergeSort le := by
    rw [List.map_mergeSort (s := le) fun _ _ _ _ => rfl, List.map_fst_zip length.le]
  have right : pairs.map Prod.snd = bs.mergeSort le' := by
    rw [List.map_mergeSort (s := le') fun p hp q hq => same _ _ _ _ (related hp) (related hq),
      List.map_snd_zip length.ge]
  rw [← left, ← right, List.forall₂_map_left_iff, List.forall₂_map_right_iff, List.forall₂_same]
  exact fun p mem => related (List.mem_mergeSort.mp mem)

end Related

/-! ## Fragments -/

namespace Text

/-- A text has one part before its first separator. -/
theorem part_inj {sep : Char} {a a' b b' : List Char} (h : sep ∉ a) (h' : sep ∉ a')
    (same : a ++ sep :: b = a' ++ sep :: b') : a = a' ∧ b = b' := by
  have cut := cutFirst?_append h b
  rw [same, cutFirst?_append h' b'] at cut
  exact Prod.mk.inj (Option.some.inj cut.symm)

end Text

namespace Document

variable {d : Document}

/-- What follows a name in a reference, from the `#` on. -/
def fragmentAfter (reference name : String) : Option String :=
  match Text.after? name reference with
  | some rest => if Text.startsWith "#" rest then some rest else none
  | none => none

theorem fragmentAfter_eq_some {reference name fragment : String} :
    fragmentAfter reference name = some fragment ↔
      reference = name ++ fragment ∧ ∃ rest, fragment = "#" ++ rest := by
  rw [fragmentAfter]
  split
  · next rest after =>
    rw [Text.after?_eq_some] at after
    rw [ite_eq_iff, ← Text.startsWith_iff]
    constructor
    · rintro (⟨starts, ⟨⟩⟩ | ⟨-, ⟨⟩⟩)
      exact ⟨after, starts⟩
    · rintro ⟨same, starts⟩
      obtain rfl := (String.append_right_inj name).mp (after.symm.trans same)
      exact .inl ⟨starts, rfl⟩
  · next none =>
    refine iff_of_false nofun fun ⟨same, _⟩ => ?_
    rw [Text.after?_eq_some.mpr same] at none
    cases none

/-- A name is taken off a reference to a fragment; any other reference stays as it is. -/
theorem relative_cases (d : Document) (reference : String) :
    (∃ name ∈ d.names, ∃ rest, reference = name ++ ("#" ++ rest) ∧
      d.relative reference = "#" ++ rest) ∨
    (∀ name ∈ d.names, ∀ rest, reference ≠ name ++ ("#" ++ rest)) ∧
      d.relative reference = reference := by
  have taken : d.relative reference =
      (d.names.findSome? (fragmentAfter reference)).getD reference := rfl
  rw [taken]
  cases found : d.names.findSome? (fragmentAfter reference) with
  | some fragment =>
    obtain ⟨name, mem, after⟩ := List.exists_of_findSome?_eq_some found
    obtain ⟨same, rest, rfl⟩ := fragmentAfter_eq_some.mp after
    exact .inl ⟨name, mem, rest, same, rfl⟩
  | none =>
    refine .inr ⟨fun name mem rest same => ?_, rfl⟩
    have after := fragmentAfter_eq_some.mpr ⟨same, rest, rfl⟩
    rw [List.findSome?_eq_none_iff.mp found name mem] at after
    cases after

/-- No name has a `#` in it, and none looks like a key. -/
def PlainlyNamed (d : Document) : Prop :=
  ∀ name ∈ d.id :: d.alsoKnownAs, '#' ∉ name.toList ∧ Text.startsWith Did.keyScheme name = false

instance (d : Document) : Decidable d.PlainlyNamed :=
  inferInstanceAs (Decidable (∀ name ∈ d.id :: d.alsoKnownAs, _))

/-- The text refers to the part of the document with the fragment. -/
def Spells (d : Document) (text fragment : String) : Prop :=
  text = "#" ++ fragment ∨ ∃ name ∈ d.id :: d.alsoKnownAs, text = name ++ ("#" ++ fragment)

/-- A name stands in front of the fragment; a fragment alone has the empty name in front. -/
theorem Spells.named (plain : d.PlainlyNamed) {text fragment : String} (h : d.Spells text fragment) :
    ∃ own : String, '#' ∉ own.toList ∧ Text.startsWith Did.keyScheme own = false ∧
      (own = "" ∨ own ∈ d.names) ∧ text = own ++ ("#" ++ fragment) := by
  rcases h with rfl | ⟨own, mem, rfl⟩
  · exact ⟨"", List.not_mem_nil, rfl, .inl rfl, rfl⟩
  · refine ⟨own, (plain own mem).1, (plain own mem).2, ?_, rfl⟩
    exact or_iff_not_imp_left.mpr fun named => List.mem_filter.mpr ⟨mem, decide_eq_true named⟩

/-- A reference of a document to itself is not read as a key. -/
theorem Spells.no_key (plain : d.PlainlyNamed) {text fragment : String} (h : d.Spells text fragment) :
    Text.startsWith Did.keyScheme text = false ∧ text.toList.contains '#' = true := by
  obtain ⟨own, -, noKey, -, rfl⟩ := h.named plain
  refine ⟨?_, by simp⟩
  rw [Bool.eq_false_iff, ne_eq, Text.startsWith_iff] at noKey ⊢
  rintro ⟨rest, same⟩
  have chars := congrArg String.toList same
  simp only [String.toList_append] at chars
  rw [List.append_eq_append_iff] at chars
  rcases chars with ⟨more, scheme, tail⟩ | ⟨more, front, -⟩
  · cases more with
    | nil =>
      rw [List.append_nil, String.toList_inj] at scheme
      exact noKey ⟨"", by rw [← scheme, String.append_empty]⟩
    | cons c more =>
      -- the scheme would have the `#` in it
      obtain rfl : '#' = c := (List.cons.inj tail).1
      have mem : '#' ∈ Did.keyScheme.toList := scheme ▸ List.mem_append_right _ List.mem_cons_self
      exact absurd mem (by decide)
  · refine noKey ⟨String.ofList more, ?_⟩
    rw [← String.toList_inj, String.toList_append, String.toList_ofList, front]

/-- Only the one name can stand in front of a fragment, whatever other names begin with it. -/
theorem relative_of_spells (plain : d.PlainlyNamed) {text fragment : String}
    (h : d.Spells text fragment) : d.relative text = "#" ++ fragment := by
  obtain ⟨own, hash, -, known, rfl⟩ := h.named plain
  have only (name : String) (mem : name ∈ d.names) (rest : String)
      (same : own ++ ("#" ++ fragment) = name ++ ("#" ++ rest)) : own = name ∧ fragment = rest := by
    have chars := congrArg String.toList same
    simp only [String.toList_append] at chars
    have apart := (plain name (List.mem_filter.mp mem).1).1
    obtain ⟨name, rest⟩ := Text.part_inj hash apart chars
    exact ⟨String.toList_inj.mp name, String.toList_inj.mp rest⟩
  rcases d.relative_cases (own ++ ("#" ++ fragment)) with ⟨name, mem, rest, same, taken⟩ | ⟨none, kept⟩
  · rw [taken, (only name mem rest same).2]
  · rcases known with rfl | mem
    · exact kept
    · exact absurd rfl (none own mem fragment)

/-! ## Documents that differ in their references to themselves -/

/-- The texts are the same, or refer to the same part of the document. -/
def Alike (d : Document) (text text' : String) : Prop :=
  text = text' ∨ ∃ fragment, d.Spells text fragment ∧ d.Spells text' fragment

/-- The methods differ in the reference that is their id, at most. -/
def RespellsMethod (d : Document) (m m' : VerificationMethod) : Prop :=
  ∃ id, d.Alike m.id id ∧ m' = { m with id }

/-- The entries refer to the same part of the document, or have the same method. -/
inductive RespellsEntry (d : Document) : MethodRef → MethodRef → Prop
  | reference {id id' : String} (alike : d.Alike id id') : RespellsEntry d (.reference id) (.reference id')
  | embedded {m m' : VerificationMethod} (same : d.RespellsMethod m m') :
      RespellsEntry d (.embedded m) (.embedded m')

/-- The services differ in how they refer to their keys, at most. -/
def RespellsService (d : Document) (s s' : Service) : Prop :=
  ∃ recipientKeys routingKeys, List.Forall₂ d.Alike s.recipientKeys recipientKeys ∧
    List.Forall₂ d.Alike s.routingKeys routingKeys ∧ s' = { s with recipientKeys, routingKeys }

/-- The documents differ in how they refer to their own parts, at most. -/
structure Respells (d d' : Document) : Prop where
  context : d'.context = d.context
  id : d'.id = d.id
  alsoKnownAs : d'.alsoKnownAs = d.alsoKnownAs
  verificationMethod : List.Forall₂ d.RespellsMethod d.verificationMethod d'.verificationMethod
  authentication : List.Forall₂ d.RespellsEntry d.authentication d'.authentication
  assertionMethod : List.Forall₂ d.RespellsEntry d.assertionMethod d'.assertionMethod
  keyAgreement : List.Forall₂ d.RespellsEntry d.keyAgreement d'.keyAgreement
  service : List.Forall₂ d.RespellsService d.service d'.service

section Respelled

variable {d' : Document} (plain : d.PlainlyNamed) (h : d.Respells d')

include plain in
theorem relative_alike {text text' : String} (alike : d.Alike text text') :
    d.relative text = d.relative text' := by
  rcases alike with rfl | ⟨fragment, spells, spells'⟩
  · rfl
  · rw [relative_of_spells plain spells, relative_of_spells plain spells']

include h in
theorem Respells.relative_eq (reference : String) : d'.relative reference = d.relative reference := by
  unfold relative names
  rw [h.id, h.alsoKnownAs]

theorem RespellsMethod.toKey_agree {m m' : VerificationMethod} (same : d.RespellsMethod m m') :
    Outcome.Agree m.toKey m'.toKey := by
  obtain ⟨id, -, rfl⟩ := same
  intro k
  unfold VerificationMethod.toKey
  dsimp only
  split_ifs
  · cases m.base58 with
    | none => exact iff_of_false nofun nofun
    | some text => exact Iff.rfl
  · cases m.base58 with
    | none => exact iff_of_false nofun nofun
    | some text => exact Iff.rfl
  · cases m.multibase with
    | none => exact iff_of_false nofun nofun
    | some text => exact Iff.rfl
  · exact iff_of_false nofun nofun

include plain h in
/-- References to the same part of a document name the same key. -/
theorem method_key_agree {id id' : String} (alike : d.Alike id id') :
    Outcome.Agree (d.method id >>= (·.toKey)) (d'.method id' >>= (·.toKey)) := by
  have wanted : d'.relative id' = d.relative id :=
    (h.relative_eq id').trans (relative_alike plain alike).symm
  have named : Option.Rel d.RespellsMethod
      (d.verificationMethod.find? fun m => d.relative m.id = d.relative id)
      (d'.verificationMethod.find? fun m => d'.relative m.id = d'.relative id') := by
    refine rel_find? h.verificationMethod fun m m' same => ?_
    obtain ⟨mid, malike, rfl⟩ := same
    rw [wanted, h.relative_eq, relative_alike plain malike]
  unfold method
  generalize d.verificationMethod.find? _ = found, d'.verificationMethod.find? _ = found' at named
  cases named with
  | none => exact fun _ => iff_of_false nofun nofun
  | some same => exact same.toKey_agree

include plain h in
/-- Entries that refer to the same part of a document have the same key. -/
theorem entryKey_agree {entry entry' : MethodRef} (same : d.RespellsEntry entry entry') :
    Outcome.Agree (d.entryKey entry) (d'.entryKey entry') := by
  cases same with
  | reference alike => exact method_key_agree plain h alike
  | embedded same => exact same.toKey_agree

include plain h in
theorem dereference_agree {text text' : String} (alike : d.Alike text text') :
    Outcome.Agree (d.dereference text) (d'.dereference text') := by
  unfold dereference
  rcases alike with rfl | ⟨fragment, spells, spells'⟩
  · split_ifs
    · exact .refl _
    · exact method_key_agree plain h (.inl rfl)
    · exact .refl _
  · obtain ⟨noKey, hash⟩ := spells.no_key plain
    obtain ⟨noKey', hash'⟩ := spells'.no_key plain
    rw [noKey, hash, noKey', hash']
    exact method_key_agree plain h (.inr ⟨fragment, spells, spells'⟩)

include h in
/-- The services for messages are the same, in the same order, but for how they refer to their keys. -/
theorem Respells.didcommServices :
    List.Forall₂ d.RespellsService d.didcommServices d'.didcommServices := by
  refine rel_mergeSort (List.rel_filter ?_ h.service) ?_
  · rintro s s' ⟨_, _, -, -, rfl⟩
    exact Iff.rfl
  · rintro s s' t t' ⟨_, _, -, -, rfl⟩ ⟨_, _, -, -, rfl⟩
    rfl

include plain h in
theorem serviceRecipientKeys_agree {s s' : Service} (same : d.RespellsService s s') :
    Outcome.Agree (d.serviceRecipientKeys s) (d'.serviceRecipientKeys s') := by
  obtain ⟨_, _, alike, -, rfl⟩ := same
  exact .mapM (alike.imp fun _ _ => dereference_agree plain h)

include plain h in
theorem serviceRoutingKeys_agree {s s' : Service} (same : d.RespellsService s s') :
    Outcome.Agree (d.serviceRoutingKeys s) (d'.serviceRoutingKeys s') := by
  obtain ⟨_, _, -, alike, rfl⟩ := same
  exact .mapM (alike.imp fun _ _ => dereference_agree plain h)

/-- The keys of a document do not depend on how it refers to its own parts: for every purpose and for
every service, two such documents have the same keys, or neither has any. -/
theorem respelled_keys (plain : d.PlainlyNamed) (h : d.Respells d') :
    Outcome.Agree d.authenticationKeys d'.authenticationKeys ∧
    Outcome.Agree d.keyAgreementKeys d'.keyAgreementKeys ∧
    Outcome.Agree d.recipientKeys d'.recipientKeys ∧
    List.Forall₂ d.RespellsService d.didcommServices d'.didcommServices ∧
    ∀ s s', d.RespellsService s s' →
      Outcome.Agree (d.serviceRecipientKeys s) (d'.serviceRecipientKeys s') ∧
      Outcome.Agree (d.serviceRoutingKeys s) (d'.serviceRoutingKeys s') := by
  refine ⟨?_, ?_, ?_, h.didcommServices, fun s s' same => ?_⟩
  · exact .mapM (h.authentication.imp fun _ _ => entryKey_agree plain h)
  · exact .mapM (h.keyAgreement.imp fun _ _ => entryKey_agree plain h)
  · have services := h.didcommServices.imp fun _ _ => serviceRecipientKeys_agree plain h
    exact (Outcome.Agree.mapM services).bind fun _ => .refl _
  · exact ⟨serviceRecipientKeys_agree plain h same, serviceRoutingKeys_agree plain h same⟩

end Respelled

section Plain

attribute [local instance] Suite.plain

/-- A document with two names, of which one is the beginning of the other, that refers to its key and to
its method in three ways. -/
def selfReferring (method entry recipient : String) : Document where
  id := "did:peer:4zQm:z1"
  alsoKnownAs := ["did:peer:4zQm"]
  verificationMethod := [.ofKey method "#id" (Wallet.keyOf [1])]
  authentication := [.reference entry]
  service := [.didcomm "#2" "https://bob.example" [recipient] []]

/-- The document has its key, whichever of its names stand in front. -/
theorem respelled_keys_plain :
    let d := selfReferring "#1" "did:peer:4zQm:z1#1" "#1"
    let d' := selfReferring "did:peer:4zQm#1" "#1" "did:peer:4zQm:z1#1"
    d.PlainlyNamed ∧ d.Respells d' ∧ d'.authenticationKeys = .ok [Wallet.keyOf [1]] := by
  intro d d'
  have plain : d.PlainlyNamed := by decide
  have bare : d.Spells "#1" "1" := .inl rfl
  have long : d.Spells "did:peer:4zQm:z1#1" "1" := .inr ⟨_, List.mem_cons_self, rfl⟩
  have short : d.Spells "did:peer:4zQm#1" "1" :=
    .inr ⟨_, List.mem_cons_of_mem _ List.mem_cons_self, rfl⟩
  have respells : d.Respells d' := {
    context := rfl
    id := rfl
    alsoKnownAs := rfl
    verificationMethod := .cons ⟨"did:peer:4zQm#1", .inr ⟨"1", bare, short⟩, rfl⟩ .nil
    authentication := .cons (.reference (.inr ⟨"1", long, bare⟩)) .nil
    assertionMethod := .nil
    keyAgreement := .nil
    service := .cons ⟨_, _, .cons (.inr ⟨"1", bare, long⟩) .nil, .nil, rfl⟩ .nil }
  have sized : (Wallet.keyOf [1]).Sized := (Key.usable_keyOf Suite.plain_lawful [1]).sized
  have named : d.method "did:peer:4zQm:z1#1" = .ok (.ofKey "#1" "#id" (Wallet.keyOf [1])) :=
    (method_eq_ok_of_single rfl).mpr ⟨by decide, rfl⟩
  have keys : d.authenticationKeys = .ok [Wallet.keyOf [1]] :=
    Outcome.mapM_eq_ok.mpr (.cons (Outcome.bind_eq_ok.mpr ⟨_, named, toKey_ofKey _ _ sized⟩) .nil)
  exact ⟨plain, respells, ((respelled_keys plain respells).1 _).mp keys⟩

end Plain

end Document

end Pairwise
