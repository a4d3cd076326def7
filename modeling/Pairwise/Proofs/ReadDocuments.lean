import Pairwise.Proofs.Documents
import Pairwise.Proofs.SignedDocument
/-!
# What was read

A reader gives only what its type can hold: the numbers that it reads have a limit, and so have those of
everything that is put together from them. So every document that comes as a text can be written again,
whoever wrote it.

Results:
* `Reader.Gives`, `Record.Gives`, `Record.GivesFrom`: what is true of everything that a reader gives, and
  that a record is built into from what is given for it.
* `Document.gives_ordered`: a document that was read has services of priorities within the limit.
-/
namespace Pairwise

namespace Json

variable {α β : Type}

/-- The property holds of whatever is read. -/
def Reader.Gives (read : Reader α) (P : α → Prop) : Prop := ∀ s a, read s = .ok a → P a

/-- The property holds of whatever is built. -/
def Record.Gives (r : Record α) (P : α → Prop) : Prop := ∀ given a, r.build given = .ok a → P a

/-- The property holds of what is built from the values given. -/
def Record.GivesFrom (given : Given) (r : Record α) (P : α → Prop) : Prop :=
  ∀ a, r.build given = .ok a → P a

namespace Reader.Gives

variable {read : Reader α} {P : α → Prop}

theorem natUpTo (limit : Nat) : Gives (Reader.natUpTo limit) fun n => n ≤ limit := by
  intro s n h
  unfold Reader.natUpTo at h
  split at h
  · next z =>
    split at h
    · next within =>
      cases h
      have := within.2
      omega
    · cases h
  · cases h

theorem items (h : Gives read P) {vs : List Source} {as : List α}
    (hread : Reader.items read vs = .ok as) : ∀ a ∈ as, P a := by
  induction vs generalizing as with
  | nil =>
    cases hread
    exact List.forall_mem_nil _
  | cons v vs ih =>
    obtain ⟨a, ha, hread⟩ := Outcome.bind_eq_ok.mp hread
    obtain ⟨rest, hrest, e⟩ := Outcome.bind_eq_ok.mp hread
    cases e
    exact List.forall_mem_cons.mpr ⟨h v a ha, ih hrest⟩

theorem list (h : Gives read P) : Gives (Reader.list read) fun as => ∀ a ∈ as, P a := by
  intro s as hread
  unfold Reader.list at hread
  split at hread
  · next vs stop =>
    obtain ⟨as', hitems, hread⟩ := Outcome.bind_eq_ok.mp hread
    split at hread
    · cases hread
    · cases hread
      exact h.items hitems
  · cases hread

theorem nullable (h : Gives read P) : Gives (Reader.nullable read) fun o => ∀ a ∈ o, P a := by
  intro s o hread
  unfold Reader.nullable at hread
  split at hread
  · cases hread
    exact fun a mem => nomatch mem
  · obtain ⟨a, ha, e⟩ := Outcome.bind_eq_ok.mp hread
    cases e
    exact fun _ mem => Option.mem_some.mp mem ▸ h _ a ha

/-- What is read from a whole text. -/
theorem ofUnits (h : Gives read P) {units : Source.Units} {a : α}
    (hread : Reader.ofUnits read units = .ok a) : P a := by
  obtain ⟨a', ha, hread⟩ := Outcome.bind_eq_ok.mp hread
  have same : pure a' = Except.ok a := (ite_eq_iff.mp hread).elim (fun e => nomatch e.2) And.right
  exact Except.ok.inj same ▸ h _ _ ha

end Reader.Gives

namespace Record.GivesFrom

variable {given : Given} {P : α → Prop} {Q : β → Prop}

theorem any (r : Record α) : GivesFrom given r fun _ => True := fun _ _ => trivial

theorem map {x : Record β} {f : β → α} (hx : GivesFrom given x Q) (h : ∀ b, Q b → P (f b)) :
    GivesFrom given (f <$> x) P := by
  intro a hbuild
  obtain ⟨g, hg, hbuild⟩ := Outcome.bind_eq_ok.mp hbuild
  cases hg
  obtain ⟨b, hb, e⟩ := Outcome.bind_eq_ok.mp hbuild
  cases e
  exact h b (hx b hb)

theorem seq {f : Record (β → α)} {x : Record β} (hf : GivesFrom given f fun g => ∀ b, Q b → P (g b))
    (hx : GivesFrom given x Q) : GivesFrom given (f <*> x) P := by
  intro a hbuild
  obtain ⟨g, hg, hbuild⟩ := Outcome.bind_eq_ok.mp hbuild
  obtain ⟨b, hb, e⟩ := Outcome.bind_eq_ok.mp hbuild
  cases e
  exact hf g hg b (hx b hb)

variable {name : String} {read : Reader α}

/-- A field is read from the value under its name, or stands for its absence. -/
theorem general {absent unlisted : Option α}
    (found : ∀ s, given.find? name = some s → ∀ a, read s = .ok a → P a)
    (habsent : ∀ a ∈ absent, P a) (hunlisted : ∀ a ∈ unlisted, P a) :
    GivesFrom given (.general [name] read absent unlisted) P := by
  intro a hbuild
  have one : Given.findAny? given [name] = given.find? name := by
    rw [Given.findAny?, List.findSome?_cons, List.findSome?_nil]
    cases given.find? name <;> rfl
  dsimp only [Record.general] at hbuild
  rw [one] at hbuild
  split at hbuild
  · next s hs => exact found s hs a hbuild
  · split at hbuild
    · next a' default =>
      cases hbuild
      split_ifs at default with listed
      · exact hunlisted a default
      · exact habsent a default
    · cases hbuild

theorem field (h : Reader.Gives read P) : GivesFrom given (.field name read) P :=
  general (fun s _ => h s) (fun _ mem => nomatch mem) (fun _ mem => nomatch mem)

/-- The value that a field was read from. -/
theorem found : GivesFrom given (.field name read)
    fun a => ∃ s, given.find? name = some s ∧ read s = .ok a :=
  general (fun s hs _ ha => ⟨s, hs, ha⟩) (fun _ mem => nomatch mem) (fun _ mem => nomatch mem)

theorem withDefault {default : α} (h : Reader.Gives read P) (hdefault : P default) :
    GivesFrom given (.withDefault name read default) P :=
  general (fun s _ => h s) (fun _ mem => Option.mem_some.mp mem ▸ hdefault)
    (fun _ mem => Option.mem_some.mp mem ▸ hdefault)

theorem nullable (h : Reader.Gives read P) :
    GivesFrom given (.nullable name read) fun o => ∀ a ∈ o, P a :=
  withDefault h.nullable fun _ mem => nomatch mem

theorem optional {Q : Option α → Prop} (h : Reader.Gives (Reader.nullable read) Q) (none : Q none) :
    GivesFrom given (.optional name read) Q :=
  general (fun s _ => h s) (fun _ mem => Option.mem_some.mp mem ▸ none) (fun _ mem => nomatch mem)

end Record.GivesFrom

namespace Record.Gives

variable {P : α → Prop}

theorem of_given {r : Record α} (h : ∀ given, GivesFrom given r P) : Gives r P := h

theorem read {r : Record α} (h : Gives r P) : Reader.Gives r.read P := by
  intro s a hread
  unfold Record.read at hread
  split at hread
  · dsimp only at hread
    split at hread
    · next built _ => exact Except.ok.inj hread ▸ h _ _ built
    · cases hread
  · dsimp only at hread
    split at hread
    · next built _ => exact Except.ok.inj hread ▸ h _ _ built
    · cases hread
  · cases hread

end Record.Gives

end Json

open Json

/-- The priority of a service that was read is within the limit. -/
theorem Service.gives_priority : Reader.Gives Service.reader.read
    fun s => s.priority ≤ Service.priorityLimit := by
  refine Record.Gives.read (.of_given fun _ => .seq (.seq (.seq (.seq (.seq (.seq (.map (.any _) ?_)
    (.any _)) (.withDefault (.natUpTo _) (Nat.zero_le _))) (.any _)) (.any _)) (.any _)) (.any _))
  exact fun _ _ _ _ _ within _ _ _ _ _ _ _ _ => within

namespace Document

/-- A document that was read has services of priorities within the limit. -/
theorem gives_ordered : Reader.Gives Document.reader.read Ordered := by
  refine Record.Gives.read (.of_given fun _ => .seq (.seq (.seq (.seq (.seq (.seq (.seq
    (.map (.any _) ?_) (.any _)) (.any _)) (.any _)) (.any _)) (.any _)) (.any _))
    (.withDefault Service.gives_priority.list (List.forall_mem_nil _)))
  exact fun _ _ _ _ _ _ _ _ _ _ _ _ _ _ _ ordered => ordered

end Document

/-- A document that comes with signatures was read. -/
theorem SignedDocument.ordered_of_verify [Suite] {a : Attachment} {allowed : List Key} {d : Document}
    (h : verify a allowed = .ok d) : d.Ordered := by
  obtain ⟨jws, payload, keys, -, -, decoded, -⟩ := verify_eq_ok.mp h
  obtain ⟨bytes, -, read⟩ := Outcome.bind_eq_ok.mp decoded
  exact Document.gives_ordered.ofUnits (Outcome.mapError_eq_ok.mp read)

end Pairwise
