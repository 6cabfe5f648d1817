import TopologyHooks.Decimal.Double
import TopologyHooks.Text.Padded

/-!
# The shortest decimal text of a double

* `Decimal` — digits `d` and an exponent `e`, for the number `d · 10^e`.
* `Double.shortest` — among the decimals that round to a given double, one with the fewest digits,
  and among those the nearest to the double's exact value. Each grid of `1, 2, … 17` digits is
  searched only at the two neighbours of the exact value, since a grid that meets the interval
  meets it in one of these.
* `Layout` — how such a decimal is written: up to which exponents positionally, and with how many
  digits an exponent. `Double.render` applies the layout of this library's texts.
-/

set_option autoImplicit false

namespace TopologyHooks

/-- The number `digits · 10^exponent`. -/
structure Decimal where
  digits : Nat
  exponent : Int
  deriving DecidableEq

namespace Decimal

/-- The decimal without the zeros at the end of its digits. -/
def trim : Nat → Decimal → Decimal
  | 0, d => d
  | fuel + 1, d =>
    if d.digits ≠ 0 ∧ d.digits % 10 = 0 then trim fuel ⟨d.digits / 10, d.exponent + 1⟩ else d

/-- The number of digits of a natural number. -/
def width (n : Nat) : Nat := (Nat.toDigits 10 n).length

end Decimal

namespace Double

/-- The interval of reals that round to a positive double, in units of `2^(q-2)`: the lower end,
the exact value and the upper end. The interval is half as wide below a power of two. -/
def interval (d : Double) : Nat × Nat × Nat × Int :=
  let (m, q) := d.parts
  let below := if m = binade ∧ -1074 < q then 1 else 2
  (4 * m - below, 4 * m, 4 * m + 2, q - 2)

/-- Whether `num / den` rounds to the double of significand `m`, given the ends of its interval
with the same denominator: the ends belong to it when `m` is even. -/
def inside (m low high num : Nat) : Bool :=
  if m % 2 = 0 then decide (low ≤ num ∧ num ≤ high) else decide (low < num ∧ num < high)

/-- The decimals `digits · 10^exponent` next to the exact value on the grid of that exponent which
round to `d`; the nearer one comes first. -/
def onGrid (d : Double) (exponent : Int) : Option Decimal :=
  let (m, _) := d.parts
  let (low, mid, high, unit) := d.interval
  -- Everything is scaled by `up / down`, so that `10^exponent` becomes the natural `step`.
  let up := Nat.pow 2 unit.toNat * Nat.pow 10 (-exponent).toNat
  let step := Nat.pow 2 (-unit).toNat * Nat.pow 10 exponent.toNat
  let floor := mid * up / step
  let below := inside m (low * up) (high * up) (floor * step)
  let above := inside m (low * up) (high * up) ((floor + 1) * step)
  let toFloor := mid * up - floor * step
  let toCeil := (floor + 1) * step - mid * up
  if below ∧ (¬ above ∨ toFloor < toCeil ∨ (toFloor = toCeil ∧ floor % 2 = 0)) then
    some ⟨floor, exponent⟩
  else if above then some ⟨floor + 1, exponent⟩
  else none

/-- The exponent of the first digit of a positive double, by trial from a guess at or above it. -/
def leading (num den : Nat) : Nat → Int → Int
  | 0, e => e
  | fuel + 1, e =>
    if num * Nat.pow 10 (-e).toNat < den * Nat.pow 10 e.toNat then leading num den fuel (e - 1)
    else e

/-- The first grid, from the coarsest down, that holds a decimal rounding to `d`. -/
def search (d : Double) (top : Int) : Nat → Nat → Decimal
  | 0, _ => ⟨0, 0⟩
  | fuel + 1, places =>
    match d.onGrid (top - places) with
    | some found => found
    | none => search d top fuel (places + 1)

/-- The shortest decimal that rounds to the size of `d`, without zeros at its end. -/
def shortest (d : Double) : Decimal :=
  if d.magnitude = 0 then ⟨0, 0⟩
  else
    let (n, e) := d.ratio
    let guess : Int := (((Nat.log2 n : Int) - (Nat.log2 e : Int) + 1) * 30103) / 100000 + 1
    let top := leading n e 4 guess
    (search d top 18 0).trim 20

end Double

/-! ## Layout -/

/-- How a decimal is written. -/
structure Layout where
  /-- The smallest exponent of a leading digit that is still written positionally. -/
  lowest : Int
  /-- The largest one. -/
  highest : Int
  /-- The least number of digits of an exponent. -/
  exponentWidth : Nat

namespace Layout

/-- Numbers are written positionally from `10^-5` up to, but not including, `10^16`, with at
least one digit on each side of the point; others with a signed exponent of two digits or more. -/
def plain : Layout := ⟨-5, 15, 2⟩

/-- An exponent with its sign. -/
def exponentText (layout : Layout) (e : Int) : List Char :=
  'e' :: (if e < 0 then '-' else '+') :: Text.padded layout.exponentWidth e.natAbs

/-- The text of a decimal without a sign. -/
def write (layout : Layout) (d : Decimal) : List Char :=
  let digits := Nat.toDigits 10 d.digits
  let first : Int := d.exponent + digits.length - 1
  if d.digits = 0 then ['0', '.', '0']
  else if layout.lowest ≤ first ∧ first ≤ layout.highest then
    if 0 ≤ d.exponent then digits ++ List.replicate d.exponent.toNat '0' ++ ['.', '0']
    else if 0 ≤ first then
      digits.take (first.toNat + 1) ++ '.' :: digits.drop (first.toNat + 1)
    else '0' :: '.' :: List.replicate ((-first).toNat - 1) '0' ++ digits
  else
    match digits with
    | [] => []
    | [c] => c :: layout.exponentText first
    | c :: more => c :: '.' :: more ++ layout.exponentText first

end Layout

namespace Double

/-- The text of a double: the shortest decimal that reads back, in the plain layout. -/
def render (d : Double) : List Char :=
  let size := Layout.plain.write d.shortest
  if d.negative then '-' :: size else size

end Double

end TopologyHooks
