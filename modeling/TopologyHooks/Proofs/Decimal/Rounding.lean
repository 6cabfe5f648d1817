import Mathlib.Algebra.Order.Ring.Nat
import Mathlib.Tactic.Ring
import TopologyHooks.Decimal.Double

/-!
# Integers as doubles

* `Double.Exact` — the natural numbers that are doubles: 53 binary digits, and zeros behind them.
* `Double.nearestWhole` — the multiple of the last place that is nearest to a natural number. A
  number has a last place above one only if it has more than 53 binary digits.
* `Double.truncate?_ofInt` — the double nearest to an integer stands for that multiple, so it stands
  for the integer itself exactly if this is a double (`Double.nearestWhole_eq_iff`).
-/

set_option autoImplicit false

namespace TopologyHooks

namespace Double

variable {n num den m k : Nat} {d : Double}

/-! ## Rounding quotients -/

/-- A quotient without a remainder is not rounded. -/
theorem nearestEven_mul (q : Nat) (hden : 0 < den) : nearestEven (q * den) den = q := by
  unfold nearestEven
  rw [Nat.mul_div_cancel q hden, Nat.mul_mod_left]
  exact if_pos hden

/-- A natural number is not rounded. -/
theorem nearestEven_one (q : Nat) : nearestEven q 1 = q := by
  have h := nearestEven_mul q Nat.one_pos
  rwa [Nat.mul_one] at h

/-- Rounding a quotient gives back what was divided exactly if it leaves no remainder. -/
theorem nearestEven_mul_eq_iff (hden : 0 < den) : nearestEven num den * den = num ↔ den ∣ num := by
  constructor
  · exact fun h => ⟨nearestEven num den, by rw [Nat.mul_comm, h]⟩
  · rintro ⟨q, rfl⟩
    rw [Nat.mul_comm den q, nearestEven_mul q hden]

/-- Rounding goes no lower than the next natural number below. -/
theorem le_nearestEven (num den : Nat) : num / den ≤ nearestEven num den := by
  unfold nearestEven
  dsimp only
  split_ifs <;> omega

/-- Rounding goes no higher than the next natural number above. -/
theorem nearestEven_le (num den : Nat) : nearestEven num den ≤ num / den + 1 := by
  unfold nearestEven
  dsimp only
  split_ifs <;> omega

/-! ## Patterns -/

/-- What a pattern stands for whose digits fill the places that there are. -/
theorem parts_of_magnitude {e : Nat} (h : d.magnitude = e * binade + m) (hlow : binade ≤ m)
    (hhigh : m < 2 * binade) : d.parts = (m, (e : Int) - 1074) := by
  unfold binade at *
  unfold parts binade
  have hdiv : d.magnitude / 0x10000000000000 = e + 1 := by omega
  have hmod : d.magnitude % 0x10000000000000 = m - 0x10000000000000 := by omega
  have hle : ¬ d.magnitude < 0x10000000000000 := by omega
  rw [if_neg hle, hdiv, hmod, Prod.mk.injEq]
  constructor <;> omega

/-- The natural number behind a double, without its sign. -/
theorem truncate?_of_ratio {n e : Nat} (he : 0 < e) (h : d.ratio = (n * e, e)) :
    d.truncate? = some (if d.negative then -(n : Int) else n) := by
  unfold truncate?
  rw [h]
  dsimp only
  rw [if_pos (Nat.mul_mod_left n e), Nat.mul_div_cancel n he]

/-- The quotient that the digits and the exponent of a double stand for. -/
theorem ratio_of_parts {q : Int} (h : d.parts = (m, q)) :
    d.ratio = (m * 2 ^ q.toNat, 2 ^ (-q).toNat) := by
  unfold ratio
  rw [h]
  rfl

/-- A double whose last place is one or above. If rounding carried over, its digits are those of the
next power of two. -/
theorem truncate?_of_whole (h : d.magnitude = (k + 1074) * binade + m) (hlow : binade ≤ m)
    (hhigh : m ≤ 2 * binade) :
    d.truncate? = some (if d.negative then -((m * 2 ^ k : Nat) : Int) else (m * 2 ^ k : Nat)) := by
  apply truncate?_of_ratio Nat.one_pos
  rcases Nat.lt_or_eq_of_le hhigh with hlt | rfl
  · have hparts : d.parts = (m, (k : Int)) := by
      rw [parts_of_magnitude h hlow hlt, Prod.mk.injEq]
      omega
    rw [ratio_of_parts hparts, Int.toNat_natCast, Int.toNat_neg_natCast, Nat.pow_zero, Nat.mul_one]
  · have hparts : d.parts = (binade, ((k + 1 : Nat) : Int)) := by
      rw [parts_of_magnitude (e := k + 1 + 1074) (by rw [h]; ring) (Nat.le_refl _) (by decide),
        Prod.mk.injEq]
      omega
    rw [ratio_of_parts hparts, Int.toNat_natCast, Int.toNat_neg_natCast, Nat.pow_zero, Nat.mul_one,
      Nat.pow_succ]
    ring_nf

/-- A double whose last place is below one, and that stands for a natural number all the same. -/
theorem truncate?_of_fraction (hk : k ≤ 1074) (h : d.magnitude = (1074 - k) * binade + n * 2 ^ k)
    (hlow : binade ≤ n * 2 ^ k) (hhigh : n * 2 ^ k < 2 * binade) :
    d.truncate? = some (if d.negative then -(n : Int) else n) := by
  apply truncate?_of_ratio (Nat.two_pow_pos k)
  have hparts : d.parts = (n * 2 ^ k, -(k : Int)) := by
    rw [parts_of_magnitude h hlow hhigh, Prod.mk.injEq]
    omega
  rw [ratio_of_parts hparts, Int.toNat_neg_natCast, Int.neg_neg, Int.toNat_natCast, Nat.pow_zero,
    Nat.mul_one]

/-! ## Whole numbers -/

/-- The number of binary digits of a natural number that a double has no place for. -/
def spill (n : Nat) : Nat := n.log2 - 52

/-- The multiple of the last place that is nearest to a natural number, a tie going to the even
one. -/
def nearestWhole (n : Nat) : Nat := nearestEven n (2 ^ spill n) * 2 ^ spill n

/-- Whether a natural number is a double: 53 binary digits, and zeros behind them. -/
def Exact (n : Nat) : Prop := ∃ m e, m < 2 ^ 53 ∧ n = m * 2 ^ e

/-- The digits that spill over are all but the first 53. -/
theorem lt_two_pow_spill (n : Nat) : n < 2 ^ 53 * 2 ^ spill n := by
  rw [← Nat.pow_add]
  refine Nat.lt_of_lt_of_le Nat.lt_log2_self (Nat.pow_le_pow_right Nat.two_pos ?_)
  unfold spill
  omega

/-- A number with 53 digits in front of its zeros has no more digits to spill than zeros. -/
theorem spill_le {e : Nat} (hm : m < 2 ^ 53) : spill (m * 2 ^ e) ≤ e := by
  by_cases hzero : m * 2 ^ e = 0
  · rw [hzero]
    exact Nat.zero_le e
  have hlt : m * 2 ^ e < 2 ^ (53 + e) := by
    rw [Nat.pow_add]
    exact Nat.mul_lt_mul_of_pos_right hm (Nat.two_pow_pos e)
  have hlog := (Nat.log2_lt hzero).2 hlt
  unfold spill
  omega

/-- A natural number is a double exactly if the digits that spill over are zeros. -/
theorem exact_iff : Exact n ↔ 2 ^ spill n ∣ n := by
  constructor
  · rintro ⟨m, e, hm, rfl⟩
    exact Dvd.dvd.mul_left (Nat.pow_dvd_pow 2 (spill_le hm)) m
  · rintro ⟨m, hm⟩
    refine ⟨m, spill n, ?_, by rw [Nat.mul_comm, ← hm]⟩
    have hlt : m * 2 ^ spill n < 2 ^ 53 * 2 ^ spill n := by
      rw [Nat.mul_comm, ← hm]
      exact lt_two_pow_spill n
    exact Nat.lt_of_mul_lt_mul_right hlt

/-- A natural number of at most 53 digits is a double. -/
theorem exact_of_spill_eq_zero (h : spill n = 0) : Exact n := by
  rw [exact_iff, h]
  exact Nat.one_dvd n

/-- A natural number is its own nearest multiple exactly if it is a double. -/
theorem nearestWhole_eq_iff : nearestWhole n = n ↔ Exact n := by
  rw [exact_iff]
  exact nearestEven_mul_eq_iff (Nat.two_pow_pos _)

/-- The last place of a natural number, by its number of digits. -/
theorem lastPlace_one (hn : n ≠ 0) : lastPlace n 1 = (n.log2 : Int) - 52 := by
  have hone : Nat.log2 1 = 0 := by decide
  have hle : ¬ n < 2 ^ n.log2 := Nat.not_lt.2 (Nat.log2_self_le hn)
  unfold lastPlace
  simp only [hone, Nat.pow_eq, Int.natCast_zero, Int.sub_zero, Int.toNat_neg_natCast, Nat.pow_zero,
    Int.toNat_natCast, Nat.mul_one, Nat.one_mul, if_neg hle]
  omega

/-- The digits of a natural number that has a last place of one or above. -/
theorem roundRatio_of_whole (hn : n ≠ 0) (hlog : 52 ≤ n.log2) :
    roundRatio n 1 = (spill n + 1074) * binade + nearestEven n (2 ^ spill n) := by
  have hplace : lastPlace n 1 = (spill n : Nat) := by
    rw [lastPlace_one hn]
    unfold spill
    omega
  unfold roundRatio
  rw [if_neg hn, hplace]
  simp only [Nat.pow_eq, Int.toNat_neg_natCast, Int.toNat_natCast, Nat.pow_zero, Nat.mul_one,
    Nat.one_mul]
  rfl

/-- The digits of a natural number that has a last place below one: they are all there. -/
theorem roundRatio_of_fraction (hn : n ≠ 0) (hlog : n.log2 < 52) :
    roundRatio n 1 = (1074 - (52 - n.log2)) * binade + n * 2 ^ (52 - n.log2) := by
  have hplace : lastPlace n 1 = -((52 - n.log2 : Nat) : Int) := by
    rw [lastPlace_one hn]
    omega
  have hexp : (-((52 - n.log2 : Nat) : Int) + 1074).toNat = 1074 - (52 - n.log2) := by omega
  unfold roundRatio
  rw [if_neg hn, hplace]
  simp only [Nat.pow_eq, Int.toNat_neg_natCast, Int.neg_neg, Int.toNat_natCast, Nat.pow_zero,
    Nat.mul_one, nearestEven_one, hexp]

/-- The double nearest to a natural number has the pattern to which that is rounded. -/
theorem ofNat_of_roundRatio (h : roundRatio n 1 < 0x7FF0000000000000) :
    (ofNat n).negative = false ∧ (ofNat n).magnitude = roundRatio n 1 := by
  unfold ofNat ofRatio?
  rw [dif_pos h]
  exact ⟨rfl, rfl⟩

/-- As many digits as there are places, where the last place is below one. -/
theorem digits_of_fraction (hn : n ≠ 0) (hlog : n.log2 < 52) :
    binade ≤ n * 2 ^ (52 - n.log2) ∧ n * 2 ^ (52 - n.log2) < 2 * binade := by
  have hpow : 2 ^ n.log2 * 2 ^ (52 - n.log2) = binade := by
    rw [← Nat.pow_add, Nat.add_sub_of_le (Nat.le_of_lt hlog)]
    rfl
  constructor
  · calc binade = 2 ^ n.log2 * 2 ^ (52 - n.log2) := hpow.symm
      _ ≤ n * 2 ^ (52 - n.log2) := Nat.mul_le_mul_right _ (Nat.log2_self_le hn)
  · calc n * 2 ^ (52 - n.log2) < 2 ^ (n.log2 + 1) * 2 ^ (52 - n.log2) :=
          Nat.mul_lt_mul_of_pos_right Nat.lt_log2_self (Nat.two_pow_pos _)
      _ = 2 * binade := by rw [Nat.pow_succ', Nat.mul_assoc, hpow]

/-- As many digits as there are places, where the last place is one or above; rounding may carry
over. -/
theorem digits_of_whole (hn : n ≠ 0) (hlog : 52 ≤ n.log2) :
    binade ≤ nearestEven n (2 ^ spill n) ∧ nearestEven n (2 ^ spill n) ≤ 2 * binade := by
  have hpow : 2 ^ n.log2 = binade * 2 ^ spill n := by
    rw [show binade = 2 ^ 52 from rfl, ← Nat.pow_add]
    unfold spill
    rw [Nat.add_sub_of_le hlog]
  have hlow : binade ≤ n / 2 ^ spill n := by
    rw [Nat.le_div_iff_mul_le (Nat.two_pow_pos _), ← hpow]
    exact Nat.log2_self_le hn
  have hhigh : n / 2 ^ spill n < 2 * binade := by
    rw [Nat.div_lt_iff_lt_mul (Nat.two_pow_pos _)]
    exact lt_two_pow_spill n
  exact ⟨Nat.le_trans hlow (le_nearestEven _ _), Nat.le_trans (nearestEven_le _ _) hhigh⟩

/-- What the double nearest to a natural number stands for, if its last place is a fraction. -/
theorem truncate?_ofNat_of_fraction (hn : n ≠ 0) (hlog : n.log2 < 52) :
    (ofNat n).negative = false ∧ (ofNat n).truncate? = some (nearestWhole n : Int) := by
  obtain ⟨hlow, hhigh⟩ := digits_of_fraction hn hlog
  have hround := roundRatio_of_fraction hn hlog
  have hfinite : roundRatio n 1 < 0x7FF0000000000000 := by
    rw [hround]
    unfold binade at *
    omega
  obtain ⟨hnegative, hmagnitude⟩ := ofNat_of_roundRatio hfinite
  have hexact : nearestWhole n = n :=
    nearestWhole_eq_iff.2 (exact_of_spill_eq_zero (Nat.sub_eq_zero_of_le (Nat.le_of_lt hlog)))
  refine ⟨hnegative, ?_⟩
  rw [truncate?_of_fraction (by omega) (hmagnitude.trans hround) hlow hhigh, hnegative, hexact]
  rfl

/-- What the double nearest to a natural number stands for, if its last place is one or above. -/
theorem truncate?_ofNat_of_whole (hn : n ≠ 0) (hlog : 52 ≤ n.log2) (hhuge : n.log2 < 1023) :
    (ofNat n).negative = false ∧ (ofNat n).truncate? = some (nearestWhole n : Int) := by
  obtain ⟨hlow, hhigh⟩ := digits_of_whole hn hlog
  have hround := roundRatio_of_whole hn hlog
  have hfinite : roundRatio n 1 < 0x7FF0000000000000 := by
    rw [hround]
    unfold spill binade at *
    omega
  obtain ⟨hnegative, hmagnitude⟩ := ofNat_of_roundRatio hfinite
  refine ⟨hnegative, ?_⟩
  rw [truncate?_of_whole (hmagnitude.trans hround) hlow hhigh, hnegative]
  rfl

/-- The double nearest to a natural number stands for its nearest multiple. -/
theorem truncate?_ofNat (hhuge : n.log2 < 1023) :
    (ofNat n).negative = false ∧ (ofNat n).truncate? = some (nearestWhole n : Int) := by
  rcases Nat.eq_zero_or_pos n with rfl | hpos
  · decide +kernel
  have hne : n ≠ 0 := Nat.ne_of_gt hpos
  rcases Nat.lt_or_ge n.log2 52 with hsmall | hlarge
  · exact truncate?_ofNat_of_fraction hne hsmall
  · exact truncate?_ofNat_of_whole hne hlarge hhuge

/-- Rounding stays below every power of two that a number is below. -/
theorem nearestWhole_le {e : Nat} (h : n ≤ 2 ^ e) : nearestWhole n ≤ 2 ^ e := by
  by_cases hexact : Exact n
  · exact (nearestWhole_eq_iff.2 hexact).trans_le h
  have hspill : spill n ≠ 0 := fun hzero => hexact (exact_of_spill_eq_zero hzero)
  have hne : n ≠ 0 := by
    rintro rfl
    exact hexact ⟨0, 0, Nat.two_pow_pos 53, rfl⟩
  have hlog : 52 + spill n < e := by
    have hlt : n < 2 ^ e := by
      refine Nat.lt_of_le_of_ne h fun heq => hexact ⟨1, e, Nat.one_lt_two_pow (by decide), ?_⟩
      rw [heq, Nat.one_mul]
    have hlog := (Nat.log2_lt hne).2 hlt
    unfold spill at *
    omega
  have hlarge : 52 ≤ n.log2 := by
    unfold spill at hspill
    omega
  calc nearestWhole n ≤ 2 ^ 53 * 2 ^ spill n :=
        Nat.mul_le_mul_right _ (digits_of_whole hne hlarge).2
    _ = 2 ^ (53 + spill n) := (Nat.pow_add 2 53 (spill n)).symm
    _ ≤ 2 ^ e := Nat.pow_le_pow_right Nat.two_pos (by omega)

/-- The integer behind a double with a sign, from the one without. -/
theorem truncate?_withSign {v : Nat} (hsign : d.negative = false)
    (h : d.truncate? = some (v : Int)) (negative : Bool) :
    { d with negative := negative }.truncate? = some (if negative then -(v : Int) else v) := by
  unfold truncate? at *
  rw [show Double.ratio { d with negative := negative } = d.ratio from rfl]
  dsimp only at *
  split at h
  · rename_i hzero
    rw [hsign] at h
    have hv := Option.some.inj h
    rw [if_pos hzero]
    simp only [Bool.false_eq_true, if_false] at hv
    rw [hv]
  · cases h

/-- The double nearest to an integer stands for the nearest multiple of its last place. -/
theorem truncate?_ofInt {i : Int} (hhuge : i.natAbs.log2 < 1023) :
    (ofInt i).truncate? = some (if i < 0 then -(nearestWhole i.natAbs : Int)
      else nearestWhole i.natAbs) := by
  obtain ⟨hsign, htruncate⟩ := truncate?_ofNat hhuge
  unfold ofInt
  rw [truncate?_withSign hsign htruncate]
  simp only [decide_eq_true_eq]

/-- A double has at most 53 digits. -/
theorem parts_fst_lt (d : Double) : d.parts.1 < 2 ^ 53 := by
  unfold parts binade
  split
  · rename_i hlt
    exact Nat.lt_trans hlt (by decide)
  · show d.magnitude % 0x10000000000000 + 0x10000000000000 < 2 ^ 53
    omega

/-- Every integer that is a double is exact. -/
theorem exact_of_truncate? {i : Int} (h : d.truncate? = some i) : Exact i.natAbs := by
  have hlt := parts_fst_lt d
  rcases hparts : d.parts with ⟨m, q⟩
  rw [hparts] at hlt
  unfold truncate? at h
  rw [ratio_of_parts hparts] at h
  dsimp only at h hlt
  split at h
  · have habs : i.natAbs = m * 2 ^ q.toNat / 2 ^ (-q).toNat := by
      rw [← Option.some.inj h]
      split
      · rw [Int.natAbs_neg, Int.natAbs_natCast]
      · rw [Int.natAbs_natCast]
    rw [habs]
    rcases Int.le_total 0 q with hq | hq
    · rw [Int.toNat_eq_zero.2 (Int.neg_nonpos_of_nonneg hq), Nat.pow_zero, Nat.div_one]
      exact ⟨m, q.toNat, hlt, rfl⟩
    · rw [Int.toNat_eq_zero.2 hq, Nat.pow_zero, Nat.mul_one]
      refine ⟨m / 2 ^ (-q).toNat, 0, Nat.lt_of_le_of_lt (Nat.div_le_self _ _) hlt, ?_⟩
      rw [Nat.pow_zero, Nat.mul_one]
  · cases h

end Double

end TopologyHooks
