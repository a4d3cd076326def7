import Pairwise.Crypto.Field25519
/-!
# The twisted Edwards curve

Points of `-x² + y² = 1 + d x² y²` over the field of `2 ^ 255 - 19` elements, in extended
coordinates: a point `(x, y)` is `(X : Y : Z : T)` with `x = X / Z`, `y = Y / Z` and `T = X Y / Z`.

A point is written as its `y` with the lowest bit of `x` on top. `Point.ofBytes?` takes every text
whose `y` belongs to a point: `y` may be written beyond the prime, and the sign of `x = 0` does not
matter.
-/
namespace Pairwise

namespace Edwards25519

open Field25519

/-- The constant `d` of the curve. -/
def d : Nat := 0x52036cee2b6ffe738cc740797779e89800700a4d4141d8ab75eb4dca135978a3

/-- The order of the base point. -/
def order : Nat := Nat.pow 2 252 + 27742317777372353535851937790883648493

/-- A point in extended coordinates. -/
structure Point where
  x : Nat
  y : Nat
  z : Nat
  t : Nat
  deriving DecidableEq, Repr

namespace Point

/-- The neutral point. -/
def zero : Point := ⟨0, 1, 1, 0⟩

/-- The base point. -/
def base : Point :=
  let x := 0x216936d3cd6e53fec0a4e231fdd6dc5c692cc7609525a7b2c9562d608f25d51a
  let y := 0x6666666666666666666666666666666666666666666666666666666666666658
  ⟨x, y, 1, mul x y⟩

/-- The sum of two points; the formula holds for all points. -/
def add (a b : Point) : Point :=
  let m := mul (sub a.y a.x) (sub b.y b.x)
  let n := mul (Field25519.add a.y a.x) (Field25519.add b.y b.x)
  let c := mul (mul a.t (mul 2 d)) b.t
  let e := mul (mul a.z 2) b.z
  let f := sub n m
  let g := sub e c
  let h := Field25519.add e c
  let k := Field25519.add n m
  ⟨mul f g, mul h k, mul g h, mul f k⟩

def neg (a : Point) : Point := ⟨Field25519.neg a.x, a.y, a.z, Field25519.neg a.t⟩

/-- A multiple of a point. -/
def smul (n : Nat) (a : Point) : Point :=
  if h : n = 0 then zero
  else
    let half := smul (n / 2) (add a a)
    if n % 2 = 0 then half else add a half
termination_by n
decreasing_by omega

/-- The 32 bytes of a point. -/
def toBytes (a : Point) : Bytes :=
  let r := inv a.z
  let x := mul a.x r
  let y := mul a.y r
  Bytes.ofNatLE 32 (y + x % 2 * Nat.pow 2 255)

/-- The point that 32 bytes write. -/
def ofBytes? (bytes : Bytes) : Option Point :=
  let n := bytes.toNatLE
  let y := Field25519.ofBytes bytes
  let yy := mul y y
  match sqrtRatio? (sub yy 1) (Field25519.add (mul d yy) 1) with
  | none => none
  | some root =>
    let x := if n / Nat.pow 2 255 % 2 = 1 then Field25519.neg root else root
    some ⟨x, y, 1, mul x y⟩

/-- The coordinate of the point on the Montgomery form of the curve: `(1 + y) / (1 - y)`, and zero
for the neutral point. -/
def toMontgomery (a : Point) : Bytes :=
  Field25519.toBytes (mul (Field25519.add a.z a.y) (inv (sub a.z a.y)))

end Point

end Edwards25519

end Pairwise
