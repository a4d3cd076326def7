/-!
# Binary floating point numbers

A double is kept as its 64 bits: a sign, eleven bits of exponent and 52 of significand. This module
holds its exact value as a whole number times a power of two, the double nearest to a quotient, the
two operations that reading a decimal needs, and the shortest decimal that reads back as it.

Everything is exact arithmetic on natural numbers.
-/
namespace Pairwise

/-- A double, by its bits. -/
structure Double where
  bits : UInt64
  deriving DecidableEq, Repr

namespace Double

/-- Positive zero. -/
def zero : Double := ⟨0⟩

/-- The bits of positive infinity. -/
def infinityBits : Nat := 2047 * Nat.pow 2 52

/-- The sign bit. -/
def signBit : Nat := Nat.pow 2 63

def isNegative (x : Double) : Bool := signBit ≤ x.bits.toNat

/-- The bits without the sign. -/
def magnitude (x : Double) : Nat := x.bits.toNat % signBit

def isZero (x : Double) : Bool := x.magnitude = 0

def negate (x : Double) : Double := ⟨UInt64.ofNat ((x.bits.toNat + signBit) % UInt64.size)⟩

/-- The size of a finite double is `significand * 2 ^ exponent`. -/
def significand (x : Double) : Nat :=
  let fraction := x.magnitude % Nat.pow 2 52
  if x.magnitude < Nat.pow 2 52 then fraction else Nat.pow 2 52 + fraction

/-- The power of two that the significand counts. -/
def exponent (x : Double) : Int :=
  let field : Nat := x.magnitude / Nat.pow 2 52
  if field = 0 then -1074 else (field : Int) - 1075

/-- `2 ^ e` as a quotient: the factor above and the factor below. -/
def powerOfTwo (e : Int) : Nat × Nat :=
  if 0 ≤ e then (Nat.pow 2 e.toNat, 1) else (1, Nat.pow 2 (-e).toNat)

/-- The size of a double as a quotient. -/
def ratio (x : Double) : Nat × Nat :=
  let (up, down) := powerOfTwo x.exponent
  (x.significand * up, down)

/-- A quotient rounded to a whole number; a half goes to the even neighbour. -/
def roundHalfEven (num den : Nat) : Nat :=
  let q := num / den
  let r := num % den
  if 2 * r < den then q
  else if den < 2 * r then q + 1
  else if q % 2 = 0 then q else q + 1

/-- The positive double nearest to a quotient, a tie going to the even significand; `none` when
that is infinite. -/
def nearest? (num den : Nat) : Option Double :=
  if num = 0 then some zero
  else
    let guess : Int := (num.log2 : Int) - (den.log2 : Int)
    -- the quotient lies in `[2 ^ (guess - 1), 2 ^ (guess + 1))`
    let (up, down) := powerOfTwo guess
    let top := if num * down < den * up then guess - 1 else guess
    let scale := max (top - 52) (-1074)
    let (up, down) := powerOfTwo scale
    let significand := roundHalfEven (num * down) (den * up)
    let bits := (scale + 1074).toNat * Nat.pow 2 52 + significand
    if bits < infinityBits then some ⟨UInt64.ofNat bits⟩ else none

/-- The double nearest to a whole number. -/
def ofNat? (n : Nat) : Option Double := nearest? n 1

/-- The double nearest to a product of sizes. -/
def times? (x y : Double) : Option Double :=
  let (a, b) := x.ratio
  let (c, d) := y.ratio
  nearest? (a * c) (b * d)

/-- The double nearest to a quotient of sizes. -/
def over? (x y : Double) : Option Double :=
  let (a, b) := x.ratio
  let (c, d) := y.ratio
  nearest? (a * d) (b * c)

/-- The double nearest to a power of ten up to `10 ^ 308`. -/
def powerOfTen (k : Nat) : Double := (nearest? (Nat.pow 10 k) 1).getD zero

/-! ## Shortest decimals -/

/-- Decimal digits and the power of ten that the last of them counts. -/
structure Digits where
  digits : Nat
  scale : Int
  deriving DecidableEq, Repr

/-- `10 ^ e` as a quotient. -/
def tenTo (e : Int) : Nat × Nat :=
  if 0 ≤ e then (Nat.pow 10 e.toNat, 1) else (1, Nat.pow 10 (-e).toNat)

/-- The numbers that round to a double lie between these two quotients over one denominator, with
the double's own size in the middle: `(low, value, high, denominator)`. -/
def interval (x : Double) : Nat × Nat × Nat × Nat :=
  let m := x.significand
  let (up, down) := powerOfTwo (x.exponent - 2)
  -- below a power of two the neighbour is half as far away
  let below := if m = Nat.pow 2 52 ∧ -1074 < x.exponent then 1 else 2
  ((4 * m - below) * up, 4 * m * up, (4 * m + 2) * up, down)

/-- Whether a decimal reads back as the double: the ends of the interval do when the significand is
even. -/
def readsBack (x : Double) (d : Digits) : Bool :=
  let (low, _, high, den) := x.interval
  let (up, down) := tenTo d.scale
  -- `d.digits * up / down` against `low / den` and `high / den`
  let value := d.digits * up * den
  if x.significand % 2 = 0 then low * down ≤ value && value ≤ high * down
  else low * down < value && value < high * down

/-- The two decimals next to the double on the grid of `10 ^ scale`, those that read back only, the
nearer first and of two equally near the even one. -/
def onGrid? (x : Double) (scale : Int) : Option Digits :=
  let (num, den) := x.ratio
  let (up, down) := tenTo scale
  let above := num * down
  let below := den * up
  let floor := above / below
  let rest := above % below
  let low : Digits := ⟨floor, scale⟩
  let high : Digits := ⟨floor + 1, scale⟩
  let lowFirst := 2 * rest < below || (2 * rest == below && floor % 2 == 0)
  let lowFits := floor ≠ 0 && x.readsBack low
  let highFits := x.readsBack high
  if lowFits && (lowFirst || !highFits) then some low
  else if highFits then some high
  else none

/-- The number of decimal digits of a positive whole number. -/
def decimalLength (n : Nat) : Nat := (Nat.toDigits 10 n).length

/-- The exponent `e` with `10 ^ e ≤ x < 10 ^ (e + 1)`. -/
def decimalExponent (x : Double) : Int :=
  let (num, den) := x.ratio
  if den ≤ num then (decimalLength (num / den) : Int) - 1
  else
    -- `num / den < 1`: count how many tens bring it to one or more
    let k := decimalLength (den / num)
    if den ≤ num * Nat.pow 10 (k - 1) then -((k : Int) - 1) else -(k : Int)

/-- Takes zeros off the end of the digits. -/
def trimZeros : (fuel : Nat) → Digits → Digits
  | 0, d => d
  | fuel + 1, d =>
    if d.digits ≠ 0 ∧ d.digits % 10 = 0 then trimZeros fuel ⟨d.digits / 10, d.scale + 1⟩ else d

/-- The decimal with the fewest digits that reads back as a finite double other than zero: the
first grid with a hit wins, seventeen digits always suffice. -/
def shortest (x : Double) : Digits :=
  let e := x.decimalExponent
  let hit := (List.range 17).findSome? fun (n : Nat) => x.onGrid? (e - n)
  trimZeros 20 (hit.getD ⟨0, 0⟩)

/-- How numbers are written: a point is placed among the digits from `10 ^ -5` on and below
`10 ^ 16`, everything else has an exponent with a sign; a whole number keeps `.0`. -/
def text (x : Double) : List Char :=
  let sign := if x.isNegative then ['-'] else []
  if x.isZero then sign ++ ['0', '.', '0']
  else
    let d := x.shortest
    let ds := Nat.toDigits 10 d.digits
    let len : Int := ds.length
    let point := len + d.scale
    if 0 ≤ d.scale ∧ point ≤ 16 then
      sign ++ ds ++ List.replicate d.scale.toNat '0' ++ ['.', '0']
    else if 0 < point ∧ point ≤ 16 then
      sign ++ ds.take point.toNat ++ '.' :: ds.drop point.toNat
    else if -5 < point ∧ point ≤ 0 then
      sign ++ '0' :: '.' :: (List.replicate (-point).toNat '0' ++ ds)
    else
      let e := point - 1
      let exponent := (if e < 0 then '-' else '+') :: Nat.toDigits 10 e.natAbs
      let rest := ds.drop 1
      let fraction := if rest.isEmpty then [] else '.' :: rest
      sign ++ ds.take 1 ++ fraction ++ 'e' :: exponent

end Double

end Pairwise
