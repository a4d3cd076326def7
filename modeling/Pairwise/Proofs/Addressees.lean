import Pairwise.Proofs.Completion
/-!
# Whom an envelope opens for

An envelope is sealed once for all keys of a list. It opens with every wallet that has the seed of one of
them, whatever cipher that wallet seals with itself: to the message, in the name of whoever sealed it,
and as the first key of the list whose seed the wallet has. With every other wallet it stays closed.

Results:
* `Wallet.holds_iff`: a wallet holds the keys of its seeds.
* `Agent.sealFor_opens`: every message that can be written is sealed for all usable keys, and opens for
  whoever holds one of them.
-/
namespace Pairwise

section Sealed

variable [suite : Suite]

/-- The signing keys that a wallet holds are those of its seeds. -/
theorem Wallet.holds_iff {w : Wallet} {k : Key} (signs : k.kind = .ed25519) :
    w.holds k = true ↔ ∃ entry ∈ w.seeds, keyOf entry.2 = k := by
  rw [holds, Option.isSome_iff_exists]
  constructor
  · rintro ⟨seed, found⟩
    obtain ⟨front, back, entries, -⟩ := List.lookup_eq_some_iff.mp found
    refine ⟨(k.base58, seed), ?_, (eq_keyOf signs found).symm⟩
    rw [entries]
    exact List.mem_append_right _ List.mem_cons_self
  · rintro ⟨entry, mem, rfl⟩
    refine Option.isSome_iff_exists.mp (List.lookup_isSome_iff.mpr ⟨entry, mem, ?_⟩)
    exact beq_iff_eq.mpr (w.genuine entry mem).symm

namespace Envelope

variable {e : Envelope} {message : Json} {keys : List Key} {sender : Option Key}

/-- An envelope opens as the first of its keys that is held. -/
theorem Holds.opened (holds : e.Holds message keys sender) {w : Wallet}
    (one : ∃ k ∈ keys, w.holds k = true) :
    ∃ first, keys.find? w.holds = some first ∧
      w.unpack e = .ok ⟨message.sorted, sender, first⟩ := by
  obtain ⟨first, found⟩ := Option.isSome_iff_exists.mp (List.find?_isSome.mpr one)
  have opened := holds w
  rw [found] at opened
  exact ⟨first, found, opened⟩

/-- An envelope stays closed for those who hold none of its keys. -/
theorem Holds.unopened (holds : e.Holds message keys sender) {w : Wallet}
    (none : ∀ k ∈ keys, w.holds k = false) :
    w.unpack e = .error (.decryptionFailed "no recipient key present in this wallet") := by
  have unfound : keys.find? w.holds = .none :=
    List.find?_eq_none.mpr fun k mem => Bool.eq_false_iff.mp (none k mem)
  have closed := holds w
  rwa [unfound] at closed

end Envelope

namespace Agent

variable [chance : Chance]

/-- Every message with whole numbers of 64 bits that is not nested too deeply is sealed for any list of
usable keys, with either cipher, in the name of any key of the wallet or of nobody. Every wallet that
holds one of the keys opens it to the message, with the members of its objects in order, and to the
sender, as the first key of the list that it holds. Every wallet that holds none of them cannot open
it. -/
theorem sealFor_opens (lawful : suite.Lawful) (drawn : chance.Lawful) {message : Json}
    (fits : message.fits Json.Source.depthLimit = true) {keys : List Key} (some : keys ≠ [])
    (usable : ∀ k ∈ keys, k.Usable) {sender : Option Key} {a : Agent}
    (held : ∀ k ∈ sender, k.kind = .ed25519 ∧ a.wallet.holds k = true) :
    ∃ e a', (sealFor message keys sender).run a = (.ok e, a') ∧
      ∀ w : Wallet,
        ((∃ k ∈ keys, w.holds k = true) → ∃ first, keys.find? w.holds = .some first ∧
          w.unpack e = .ok ⟨message.sorted, sender, first⟩) ∧
        ((∀ k ∈ keys, w.holds k = false) → w.unpack e
          = .error (.decryptionFailed "no recipient key present in this wallet")) := by
  obtain ⟨e, a', run, -, holds⟩ := sealFor_run lawful drawn fits usable some sender held
  exact ⟨e, a', run, fun w => ⟨holds.opened, holds.unopened⟩⟩

end Agent

end Sealed

/-! ## One of several keys, one of them twice -/

section Plain

attribute [local instance] Suite.plain Chance.counting

namespace Agent

/-- A message is sealed with the second cipher for three keys, the first of them twice. Whoever holds the
last two, and seals with the first cipher, opens it as the one that comes first; whoever holds another
key does not open it. -/
theorem sealFor_opens_plain : ∃ e a',
    (sealFor (.obj [("n", .int 1)])
        [Wallet.keyOf [2], Wallet.keyOf [2], Wallet.keyOf [3], Wallet.keyOf [4]]
        (some (Wallet.keyOf [1]))).run
      { wallet := { ({} : Wallet).add [1] with cipher := .aesGcm } } = (.ok e, a') ∧
    ((({} : Wallet).add [3]).add [4]).unpack e
      = .ok ⟨.obj [("n", .int 1)], some (Wallet.keyOf [1]), Wallet.keyOf [3]⟩ ∧
    (({} : Wallet).add [5]).unpack e
      = .error (.decryptionFailed "no recipient key present in this wallet") := by
  have usable (seeds : List Bytes) : ∀ k ∈ seeds.map Wallet.keyOf, k.Usable :=
    List.forall_mem_map.mpr fun seed _ => Key.usable_keyOf Suite.plain_lawful seed
  have held : ∀ k ∈ some (Wallet.keyOf [1]), k.kind = .ed25519 ∧
      ({ ({} : Wallet).add [1] with cipher := .aesGcm } : Wallet).holds k = true := by
    rintro k ⟨⟩
    exact ⟨rfl, Wallet.holds_add_self {} [1]⟩
  have fits : (Json.obj [("n", .int 1)]).fits Json.Source.depthLimit = true := by decide
  obtain ⟨e, a', run, opens⟩ := sealFor_opens Suite.plain_lawful Chance.counting_lawful fits
    (List.cons_ne_nil _ _)
    (usable [[2], [2], [3], [4]]) (a := { wallet := { ({} : Wallet).add [1] with cipher := .aesGcm } })
    held
  -- the wallet of the seeds 3 and 4 lacks the first key of the list
  have third : ((({} : Wallet).add [3]).add [4]).holds (Wallet.keyOf [3]) = true :=
    Wallet.holds_add (Wallet.holds_add_self _ _) _
  have second : ((({} : Wallet).add [3]).add [4]).holds (Wallet.keyOf [2]) = false := by
    rw [Bool.eq_false_iff, ne_eq, Wallet.holds_iff rfl]
    decide
  obtain ⟨first, found, opened⟩ := (opens ((({} : Wallet).add [3]).add [4])).1
    ⟨Wallet.keyOf [3], by simp, third⟩
  refine ⟨e, a', run, ?_, (opens (({} : Wallet).add [5])).2 ?_⟩
  · have same : Wallet.keyOf [3] = first := by
      simpa [second, third] using found
    rw [opened, ← same]
    rfl
  · intro k mem
    rw [Bool.eq_false_iff, ne_eq, Wallet.holds_iff ((usable [[2], [2], [3], [4]] k mem).signs)]
    revert k
    decide

end Agent

end Plain

end Pairwise
