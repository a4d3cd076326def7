import Pairwise.Wallet.Sealing
/-!
# Wallets

A wallet keeps the seeds of an agent's keys, found by the public key in base 58. It signs with them
and opens envelopes that are sealed for them.

Results:
* `Wallet.seed?_add`: a key that was added is found.
-/
namespace Pairwise

/-- The signing key of a seed. -/
def Wallet.keyOf [Suite] (seed : Bytes) : Key := ⟨Suite.publicKey seed, .ed25519⟩

/-- The seeds of an agent's keys, each under the key that is its own, and the cipher of the envelopes
that it seals. -/
structure Wallet [Suite] where
  seeds : List (String × Bytes) := []
  cipher : Cipher := .xchacha
  genuine : ∀ entry ∈ seeds, entry.1 = (Wallet.keyOf entry.2).base58 := by simp

namespace Wallet

variable [Suite]

/-- The bytes of a seed. -/
def seedLength : Nat := 32

/-- The seed of a public key in base 58. -/
def seed? (w : Wallet) (verkey : String) : Option Bytes := w.seeds.lookup verkey

/-- The seed of a key, which must be at hand. -/
def seedOf (w : Wallet) (key : Key) : Except Error Bytes :=
  match w.seed? key.base58 with
  | some seed => .ok seed
  | none => .error (.keyNotFound key.base58)

/-- Adds the key of a seed. -/
def add (w : Wallet) (seed : Bytes) : Wallet where
  seeds := ((keyOf seed).base58, seed) :: w.seeds
  cipher := w.cipher
  genuine := List.forall_mem_cons.mpr ⟨rfl, w.genuine⟩

/-- Checks what a key is to be made of. Only signing keys are made, the others follow from them. -/
def checkSeed (kind : KeyKind) (seed : Bytes) : Except Error Unit :=
  if kind ≠ .ed25519 then .error (.underivableKind kind)
  else if seed.length ≠ seedLength then .error .seedLength
  else .ok ()

/-- Signs with a key of the wallet. -/
def sign (w : Wallet) (key : Key) (text : Bytes) : Except Error Bytes := do
  return Suite.sign (← w.seedOf key) text

/-- The sender that a key of the wallet is. -/
def sender (w : Wallet) (key : Key) : Except Error Sender := do
  return ⟨key, Suite.agreementSecret (← w.seedOf key)⟩

/-- Opens an envelope. -/
def unpack (w : Wallet) (e : Envelope) : Except Error Opened := e.openWith w.seed?

theorem seed?_add (w : Wallet) (seed : Bytes) :
    (w.add seed).seed? (keyOf seed).base58 = some seed := by
  simp [add, seed?]

end Wallet

end Pairwise
