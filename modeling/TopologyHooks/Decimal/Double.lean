/-!
# Binary floating-point numbers, by exact integer arithmetic

* `Double` — a finite IEEE 754 double, kept as its sign and the 63 remaining bits read as a
  natural number. Those bits grow with the size of the number, and that they stay below the
  pattern of infinity is a field, so no infinity and no NaN exists here.
* `Double.parts` — the size as `m · 2^q`, the exact value behind the bits.
* `roundRatio` — the pattern nearest to a quotient of naturals, a tie going to the even pattern;
  `Double.ofRatio?`, `Double.times?` and `Double.divide` are rounded this way, once.
* `Double.sameValue` — equality of numbers, for which the two zeros are one.
* `Double.truncate?` — the integer a double is, when it is one.
-/

set_option autoImplicit false

namespace TopologyHooks

/-- A finite double: `magnitude` is its bit pattern without the sign bit. -/
structure Double where
  negative : Bool
  magnitude : Nat
  finite : magnitude < 0x7FF0000000000000
  deriving DecidableEq

namespace Double

/-- `2^52`, the number of patterns that share one exponent. -/
def binade : Nat := 0x10000000000000

/-- The pattern just above the largest finite number. -/
def infinity : Nat := 0x7FF0000000000000

/-- The positive zero. -/
def zero : Double := ⟨false, 0, by decide⟩

/-- The size of a number as `m · 2^q`. -/
def parts (d : Double) : Nat × Int :=
  if d.magnitude < binade then (d.magnitude, -1074)
  else (d.magnitude % binade + binade, (d.magnitude / binade : Nat) - 1075)

/-- The size of a number as a quotient of naturals. -/
def ratio (d : Double) : Nat × Nat :=
  let (m, q) := d.parts
  (m * Nat.pow 2 q.toNat, Nat.pow 2 (-q).toNat)

/-! ## Rounding -/

/-- The quotient `num / den`, rounded to the nearest natural, a tie going to the even one. -/
def nearestEven (num den : Nat) : Nat :=
  let q := num / den
  let r := num % den
  if 2 * r < den then q
  else if den < 2 * r then q + 1
  else q + q % 2

/-- The exponent of the last place that a double close to `num / den` has. -/
def lastPlace (num den : Nat) : Int :=
  let guess : Int := (Nat.log2 num : Int) - (Nat.log2 den : Int)
  let exact :=
    if num * Nat.pow 2 (-guess).toNat < den * Nat.pow 2 guess.toNat then guess - 1 else guess
  max (exact - 52) (-1074)

/-- The bit pattern nearest to `num / den`; a quotient too large reaches `infinity`. -/
def roundRatio (num den : Nat) : Nat :=
  if num = 0 then 0
  else
    let q := lastPlace num den
    let m := nearestEven (num * Nat.pow 2 (-q).toNat) (den * Nat.pow 2 q.toNat)
    (q + 1074).toNat * binade + m

/-- The double nearest to a quotient, if one is finite. -/
def ofRatio? (negative : Bool) (num den : Nat) : Option Double :=
  let m := roundRatio num den
  if h : m < 0x7FF0000000000000 then some ⟨negative, m, h⟩ else none

/-- The double nearest to a natural number below `2^1023`; larger ones give the largest double. -/
def ofNat (n : Nat) : Double :=
  (ofRatio? false n 1).getD ⟨false, infinity - 1, by decide⟩

/-- The double nearest to an integer. -/
def ofInt (n : Int) : Double :=
  { ofNat n.natAbs with negative := decide (n < 0) }

/-- The rounded product of two doubles, if it is finite. -/
def times? (a b : Double) : Option Double :=
  let (n, d) := a.ratio
  let (m, e) := b.ratio
  ofRatio? (a.negative != b.negative) (n * m) (d * e)

/-- The rounded quotient by a double that is not below one. -/
def divide (a b : Double) : Double :=
  let (n, d) := a.ratio
  let (m, e) := b.ratio
  (ofRatio? (a.negative != b.negative) (n * e) (d * m)).getD a

/-- The double nearest to `10^k`, for `k ≤ 308`. -/
def powerOfTen (k : Nat) : Double := ofNat (Nat.pow 10 k)

/-! ## Comparing and reading -/

/-- Whether two doubles are the same number; both zeros are. -/
def sameValue (a b : Double) : Bool :=
  a.magnitude == b.magnitude && (a.negative == b.negative || a.magnitude == 0)

/-- The integer equal to a double, if there is one. -/
def truncate? (d : Double) : Option Int :=
  let (n, e) := d.ratio
  if n % e = 0 then
    some (if d.negative then -(n / e : Nat) else (n / e : Nat))
  else none

end Double

end TopologyHooks
