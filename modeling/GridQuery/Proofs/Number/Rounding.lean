import GridQuery.Number.Double
import Mathlib.Algebra.Order.Field.Power
import Mathlib.Data.Nat.Log
import Mathlib.Data.Rat.Cast.Order
import Mathlib.Tactic.FieldSimp
import Mathlib.Tactic.Linarith
import Mathlib.Tactic.NormNum
import Mathlib.Tactic.Positivity
import Mathlib.Tactic.Ring

/-!
# Rounding to the nearest double

Magnitudes grow strictly with their rank, and between two neighbouring powers of two they lie evenly
spaced. A fraction therefore lies between the magnitudes of two neighbouring ranks, and which of the
two is nearer, with the even one for an exact half, is what dividing and rounding the integers
decides. Infinity takes part with the magnitude that the rank behind the greatest finite one would
have, so that a fraction from halfway beyond the greatest finite double is rounded to infinity.

Main results: `Double.nearestRank_nearest` and `Double.IsNearest.unique`.
-/

namespace GridQuery

/-! ## Powers of two as fractions -/

/-- Multiplying the smaller or the greater side compares with a power of two. -/
theorem mul_two_zpow_le_iff (num den : Nat) (e : ℤ) :
    (if 0 ≤ e then den * Nat.pow 2 e.toNat ≤ num else den ≤ num * Nat.pow 2 (-e).toNat) ↔
      (den : ℚ) * 2 ^ e ≤ num := by
  split
  · rename_i he
    obtain ⟨k, rfl⟩ := Int.eq_ofNat_of_zero_le he
    rw [Int.toNat_natCast, zpow_natCast, Nat.pow_eq]
    exact_mod_cast Iff.rfl
  · rename_i he
    obtain ⟨k, hk⟩ := Int.eq_ofNat_of_zero_le (a := -e) (by omega)
    have hpow : (0 : ℚ) < 2 ^ k := by positivity
    obtain rfl : e = -(k : ℤ) := by omega
    rw [neg_neg, Int.toNat_natCast, zpow_neg, zpow_natCast, ← div_eq_mul_inv, div_le_iff₀ hpow,
      Nat.pow_eq]
    exact_mod_cast Iff.rfl

/-- The exponent lies between the neighbouring powers of two. -/
theorem floorLog2_spec {num den : Nat} (hnum : 0 < num) (hden : 0 < den) :
    (den : ℚ) * 2 ^ floorLog2 num den ≤ num ∧ (num : ℚ) < den * 2 ^ (floorLog2 num den + 1) := by
  obtain ⟨a, ha⟩ : ∃ a : ℤ, a = Nat.log2 num := ⟨_, rfl⟩
  obtain ⟨b, hb⟩ : ∃ b : ℤ, b = Nat.log2 den := ⟨_, rfl⟩
  have hnumLow : (2 : ℚ) ^ a ≤ num := by
    rw [ha, zpow_natCast]
    exact_mod_cast Nat.log2_self_le hnum.ne'
  have hnumHigh : (num : ℚ) < 2 ^ (a + 1) := by
    rw [ha]
    exact_mod_cast Nat.lt_log2_self
  have hdenLow : (2 : ℚ) ^ b ≤ den := by
    rw [hb, zpow_natCast]
    exact_mod_cast Nat.log2_self_le hden.ne'
  have hdenHigh : (den : ℚ) < 2 ^ (b + 1) := by
    rw [hb]
    exact_mod_cast Nat.lt_log2_self
  have hpos (e : ℤ) : (0 : ℚ) < 2 ^ e := zpow_pos (by norm_num) e
  have hadd (e f : ℤ) : (2 : ℚ) ^ (e + f) = 2 ^ e * 2 ^ f := zpow_add₀ (by norm_num) e f
  have hreaches := mul_two_zpow_le_iff num den (a - b)
  have hlog : floorLog2 num den = if (den : ℚ) * 2 ^ (a - b) ≤ num then a - b else a - b - 1 := by
    rw [ha, hb] at hreaches ⊢
    exact if_congr hreaches rfl rfl
  -- The estimate from the numbers of binary digits is right or one too large.
  rw [hlog]
  split
  · rename_i h
    refine ⟨h, hnumHigh.trans_le ?_⟩
    calc (2 : ℚ) ^ (a + 1) = 2 ^ b * 2 ^ (a - b + 1) := by
          rw [← hadd]
          congr 1
          omega
      _ ≤ den * 2 ^ (a - b + 1) := mul_le_mul_of_nonneg_right hdenLow (hpos _).le
  · rename_i h
    refine ⟨?_, by simpa using h⟩
    calc (den : ℚ) * 2 ^ (a - b - 1) ≤ 2 ^ (b + 1) * 2 ^ (a - b - 1) :=
          mul_le_mul_of_nonneg_right hdenHigh.le (hpos _).le
      _ = 2 ^ a := by
          rw [← hadd]
          congr 1
          omega
      _ ≤ num := hnumLow

/-! ## Quotients rounded to an integer -/

/-- The quotient lies between two integers, and the nearer one is found, the even one of two that
are as near. -/
theorem divNearest_spec (num : Nat) {den : Nat} (hden : 0 < den) :
    ∃ f : ℚ, (num : ℚ) / den = (num / den : Nat) + f ∧ (0 ≤ f ∧ f < 1) ∧
      (divNearest num den = num / den ∧ (2 * f < 1 ∨ 2 * f = 1 ∧ num / den % 2 = 0) ∨
        divNearest num den = num / den + 1 ∧
          (1 < 2 * f ∨ 2 * f = 1 ∧ (num / den + 1) % 2 = 0)) := by
  have hdenq : (0 : ℚ) < den := by exact_mod_cast hden
  have hnum : (num : ℚ) = (num / den : Nat) * den + (num % den : Nat) := by
    exact_mod_cast (Nat.div_add_mod' num den).symm
  have hbelow : 2 * (num % den) < den ↔ 2 * ((num % den : Nat) / (den : ℚ)) < 1 := by
    rw [← mul_div_assoc, div_lt_one hdenq]
    exact_mod_cast Iff.rfl
  have habove : den < 2 * (num % den) ↔ 1 < 2 * ((num % den : Nat) / (den : ℚ)) := by
    rw [← mul_div_assoc, one_lt_div hdenq]
    exact_mod_cast Iff.rfl
  -- The remainder is compared with half of the denominator, that is the fraction with a half.
  refine ⟨(num % den : Nat) / den, ?_, ⟨by positivity, ?_⟩, ?_⟩
  · rw [div_eq_iff hdenq.ne', add_mul, div_mul_cancel₀ _ hdenq.ne', ← hnum]
  · rw [div_lt_one hdenq]
    exact_mod_cast Nat.mod_lt num hden
  · unfold divNearest
    simp only
    split
    · rename_i h
      exact .inl ⟨rfl, .inl (hbelow.1 h)⟩
    · rename_i hnot
      split
      · rename_i h
        exact .inr ⟨rfl, .inl (habove.1 h)⟩
      · rename_i hnot'
        have hhalf : 2 * ((num % den : Nat) / (den : ℚ)) = 1 :=
          le_antisymm (not_lt.1 (mt habove.2 hnot')) (not_lt.1 (mt hbelow.2 hnot))
        split
        · rename_i heven
          exact .inl ⟨rfl, .inr ⟨hhalf, heven⟩⟩
        · rename_i hodd
          exact .inr ⟨rfl, .inr ⟨hhalf, by omega⟩⟩

namespace Double

/-! ## Magnitudes -/

/-- The magnitude with the rank. The rank of infinity has the power of two behind the greatest
finite double. -/
def magnitudeAt (rank : Nat) : ℚ :=
  if rank < 2 ^ 52 then rank * 2 ^ (-1074 : ℤ)
  else (2 ^ 52 + rank % 2 ^ 52 : Nat) * 2 ^ ((rank / 2 ^ 52 : Nat) - 1075 : ℤ)

/-- The magnitude of the double. -/
def magnitude (x : Double) : ℚ := x.mantissa * 2 ^ x.scale

theorem magnitude_eq (x : Double) : x.magnitude = magnitudeAt x.rank := by
  by_cases h : x.rank < 0x10000000000000 <;> simp [magnitude, mantissa, scale, magnitudeAt, h]

/-- Between two neighbouring powers of two, and below the least one, the magnitudes are evenly
spaced. -/
theorem magnitudeAt_binade {t m : Nat} (hm : m ≤ 2 ^ 53) (hlow : t = 0 ∨ 2 ^ 52 ≤ m) :
    magnitudeAt (t * 2 ^ 52 + m) = m * 2 ^ (t - 1074 : ℤ) := by
  unfold magnitudeAt
  split
  · obtain rfl : t = 0 := by omega
    simp
  · rename_i hrank
    by_cases htop : m = 2 ^ 53
    · have hmod : (t * 2 ^ 52 + m) % 2 ^ 52 = 0 := by omega
      have hdiv : (t * 2 ^ 52 + m) / 2 ^ 52 = t + 2 := by omega
      have hexp : ((t + 2 : Nat) : ℤ) - 1075 = 1 + (t - 1074 : ℤ) := by omega
      rw [hmod, hdiv, hexp, zpow_add₀ (by norm_num), htop]
      push_cast
      ring
    · have hmod : 2 ^ 52 + (t * 2 ^ 52 + m) % 2 ^ 52 = m := by omega
      have hdiv : (t * 2 ^ 52 + m) / 2 ^ 52 = t + 1 := by omega
      have hexp : ((t + 1 : Nat) : ℤ) - 1075 = t - 1074 := by omega
      rw [hmod, hdiv, hexp]

/-- Every rank is the place of a magnitude among evenly spaced ones. -/
theorem exists_binade (r : Nat) :
    ∃ t m, r = t * 2 ^ 52 + m ∧ m < 2 ^ 53 ∧ (t = 0 ∨ 2 ^ 52 ≤ m) := by
  by_cases hr : r < 2 ^ 52
  · exact ⟨0, r, by omega, by omega, .inl rfl⟩
  · exact ⟨r / 2 ^ 52 - 1, 2 ^ 52 + r % 2 ^ 52, by omega, by omega, .inr (by omega)⟩

/-- **Magnitudes grow strictly with their rank.** -/
theorem magnitudeAt_strictMono : StrictMono magnitudeAt := by
  refine strictMono_nat_of_lt_succ fun r => ?_
  obtain ⟨t, m, rfl, hm, hlow⟩ := exists_binade r
  rw [magnitudeAt_binade hm.le hlow, Nat.add_assoc, magnitudeAt_binade hm (by omega)]
  have hunit : (0 : ℚ) < 2 ^ (t - 1074 : ℤ) := zpow_pos (by norm_num) _
  push_cast
  linarith [hunit]

theorem magnitudeAt_zero : magnitudeAt 0 = 0 := by
  simp [magnitudeAt]

/-! ## Nearer ranks -/

/-- The first rank is nearer to the fraction than the second, or as near and even. -/
def Nearer (q : ℚ) (r s : Nat) : Prop :=
  |magnitudeAt r - q| < |magnitudeAt s - q| ∨
    |magnitudeAt r - q| = |magnitudeAt s - q| ∧ r % 2 = 0

variable {q : ℚ} {r s : Nat}

/-- The lower neighbour of a fraction, if it is nearer than the upper one. -/
theorem nearer_of_low (hlow : magnitudeAt r ≤ q)
    (h : q - magnitudeAt r < magnitudeAt (r + 1) - q ∨
      q - magnitudeAt r = magnitudeAt (r + 1) - q ∧ r % 2 = 0) (hs : s ≠ r) : Nearer q r s := by
  have hself : |magnitudeAt r - q| = q - magnitudeAt r := by
    rw [abs_of_nonpos (by linarith)]
    ring
  rcases Nat.lt_or_gt_of_ne hs with hlt | hgt
  · have hmono := magnitudeAt_strictMono hlt
    left
    rw [hself, abs_of_nonpos (by linarith)]
    linarith
  · have hmono : magnitudeAt (r + 1) ≤ magnitudeAt s := magnitudeAt_strictMono.monotone hgt
    have hle : magnitudeAt s - q ≤ |magnitudeAt s - q| := le_abs_self _
    rcases h with hnear | ⟨hhalf, heven⟩
    · left
      linarith
    · rcases lt_or_eq_of_le (show |magnitudeAt r - q| ≤ |magnitudeAt s - q| by linarith) with h | h
      · exact .inl h
      · exact .inr ⟨h, heven⟩

/-- The upper neighbour of a fraction, if it is nearer than the lower one. -/
theorem nearer_of_high (hhigh : q ≤ magnitudeAt (r + 1))
    (h : magnitudeAt (r + 1) - q < q - magnitudeAt r ∨
      magnitudeAt (r + 1) - q = q - magnitudeAt r ∧ (r + 1) % 2 = 0) (hs : s ≠ r + 1) :
    Nearer q (r + 1) s := by
  have hself : |magnitudeAt (r + 1) - q| = magnitudeAt (r + 1) - q := abs_of_nonneg (by linarith)
  rcases Nat.lt_or_gt_of_ne hs with hlt | hgt
  · have hmono : magnitudeAt s ≤ magnitudeAt r :=
      magnitudeAt_strictMono.monotone (Nat.le_of_lt_succ hlt)
    have hle : -(magnitudeAt s - q) ≤ |magnitudeAt s - q| := neg_le_abs _
    rcases h with hnear | ⟨hhalf, heven⟩
    · left
      linarith
    · rcases lt_or_eq_of_le
        (show |magnitudeAt (r + 1) - q| ≤ |magnitudeAt s - q| by linarith) with h | h
      · exact .inl h
      · exact .inr ⟨h, heven⟩
  · have hmono := magnitudeAt_strictMono hgt
    have hle : magnitudeAt s - q ≤ |magnitudeAt s - q| := le_abs_self _
    left
    linarith

/-- **Dividing and rounding finds the nearer neighbour** among evenly spaced magnitudes, counted
from an even rank. -/
theorem nearer_divNearest {base num den : Nat} {unit : ℚ} (hden : 0 < den) (hunit : 0 < unit)
    (hbase : base % 2 = 0) (hlow : magnitudeAt (base + num / den) = (num / den : Nat) * unit)
    (hhigh : magnitudeAt (base + num / den + 1) = ((num / den : Nat) + 1) * unit)
    (hs : s ≠ base + divNearest num den) :
    Nearer (num / den * unit) (base + divNearest num den) s := by
  obtain ⟨f, hfraction, ⟨hf0, hf1⟩, hround⟩ := divNearest_spec num hden
  generalize num / den = k at hlow hhigh hfraction hround
  have hdown : (k + f) * unit - k * unit = f * unit := by ring
  have hup : (k + 1) * unit - (k + f) * unit = (1 - f) * unit := by ring
  have hlt {a b : ℚ} (h : a < b) : a * unit < b * unit := mul_lt_mul_of_pos_right h hunit
  have hle {a b : ℚ} (h : a ≤ b) : a * unit ≤ b * unit := mul_le_mul_of_nonneg_right h hunit.le
  rw [hfraction]
  -- Rounded down the rank is the lower neighbour, rounded up the higher; a tie is even.
  rcases hround with ⟨hk, hnear⟩ | ⟨hk, hnear⟩
  · rw [hk] at hs ⊢
    refine nearer_of_low ?_ ?_ hs
    · rw [hlow]
      exact hle (by linarith)
    · rw [hlow, hhigh, hdown, hup]
      refine hnear.imp (fun h => hlt (by linarith)) fun ⟨h, heven⟩ => ⟨?_, by omega⟩
      congr 1
      linarith
  · rw [hk, ← Nat.add_assoc] at hs ⊢
    refine nearer_of_high ?_ ?_ hs
    · rw [hhigh]
      exact hle (by linarith)
    · rw [hlow, hhigh, hdown, hup]
      refine hnear.imp (fun h => hlt (by linarith)) fun ⟨h, heven⟩ => ⟨?_, by omega⟩
      congr 1
      linarith

/-! ## The nearest double -/

/-- The double is nearer to the fraction than all others with another magnitude, infinity among
them, a half going to the even rank. -/
def IsNearest (q : ℚ) (x : Double) : Prop :=
  x.isNaN = false ∧ ∀ y : Double, y.isNaN = false → y.rank ≠ x.rank →
    |x.magnitude - q| < |y.magnitude - q| ∨
      |x.magnitude - q| = |y.magnitude - q| ∧ x.rank % 2 = 0

theorem isNaN_eq_false_iff {x : Double} : x.isNaN = false ↔ x.rank ≤ infinityRank := by
  rw [isNaN, decide_eq_false_iff_not, Nat.not_lt]

/-- The same by ranks. -/
theorem isNearest_iff {x : Double} : IsNearest q x ↔
    x.rank ≤ infinityRank ∧ ∀ s ≤ infinityRank, s ≠ x.rank → Nearer q x.rank s := by
  simp only [IsNearest, isNaN_eq_false_iff, magnitude_eq]
  refine and_congr_right fun _ => ⟨fun h s hs => ?_, fun h y => h y.rank⟩
  have hlt : infinityRank < 0x8000000000000000 := by decide
  exact h ⟨false, s, Nat.lt_of_le_of_lt hs hlt⟩ hs

/-- From its magnitude on, infinity is nearest. -/
theorem nearer_infinity (h : magnitudeAt infinityRank ≤ q) (hs : s < infinityRank) :
    Nearer q infinityRank s := by
  have hmono := magnitudeAt_strictMono hs
  left
  rw [abs_of_nonpos (by linarith), abs_of_nonpos (by linarith)]
  linarith

/-- Ranks beyond infinity give way to it. -/
theorem nearer_min (h : ∀ s, s ≠ r → Nearer q r s) (hs : s ≤ infinityRank)
    (hne : s ≠ min r infinityRank) : Nearer q (min r infinityRank) s := by
  rcases le_or_gt r infinityRank with hr | hr
  · rw [Nat.min_eq_left hr] at hne ⊢
    exact h s hne
  · rw [Nat.min_eq_right hr.le] at hne ⊢
    refine nearer_infinity ?_ (by omega)
    by_contra hq
    have hmono := magnitudeAt_strictMono hr
    have hself : |magnitudeAt r - q| = magnitudeAt r - q := abs_of_nonneg (by linarith)
    have hinfinity : |magnitudeAt infinityRank - q| = magnitudeAt infinityRank - q :=
      abs_of_nonneg (by linarith)
    rcases h infinityRank (by omega) with h | ⟨h, -⟩
    · linarith
    · linarith

/-- Far below the least magnitude, zero is nearest. -/
theorem nearer_zero (hq : 0 ≤ q) (h : 2 * q < magnitudeAt 1) (hs : s ≠ 0) : Nearer q 0 s := by
  refine nearer_of_low ?_ (.inl ?_) hs
  · rwa [magnitudeAt_zero]
  · rw [magnitudeAt_zero, Nat.zero_add]
    linarith

theorem magnitudeAt_one_pos : 0 < magnitudeAt 1 := by
  have h := magnitudeAt_strictMono (show 0 < 1 by decide)
  rwa [magnitudeAt_zero] at h

/-- A fraction counted in a power of two is a fraction again. -/
theorem exists_scaled (num : Nat) {den : Nat} (hden : 0 < den) (e : ℤ) :
    ∃ n d : Nat, 0 < d ∧ (num : ℚ) / den = n / d * 2 ^ e ∧
      (if 0 ≤ e then divNearest num (den * Nat.pow 2 e.toNat)
        else divNearest (num * Nat.pow 2 (-e).toNat) den) = divNearest n d := by
  have hdenq : (den : ℚ) ≠ 0 := by exact_mod_cast hden.ne'
  split
  · rename_i he
    obtain ⟨k, rfl⟩ := Int.eq_ofNat_of_zero_le he
    refine ⟨num, den * 2 ^ k, Nat.mul_pos hden (Nat.two_pow_pos k), ?_, rfl⟩
    rw [zpow_natCast]
    push_cast
    field_simp
  · rename_i he
    obtain ⟨k, hk⟩ := Int.eq_ofNat_of_zero_le (a := -e) (by omega)
    obtain rfl : e = -(k : ℤ) := by omega
    refine ⟨num * 2 ^ k, den, hden, ?_, by rw [neg_neg, Int.toNat_natCast, Nat.pow_eq]⟩
    rw [zpow_neg, zpow_natCast]
    push_cast
    field_simp

/-- Counted in the power of two that is used for it, a fraction has at most fifty-three binary
digits, and exactly as many above the least power. -/
theorem quotient_bounds {num den n d t : Nat} {e : ℤ} (hden : 0 < den) (hd : 0 < d)
    (hlow : (den : ℚ) * 2 ^ e ≤ num) (hhigh : (num : ℚ) < den * 2 ^ (e + 1))
    (ht : max (e - 52) (-1074) = (t : ℤ) - 1074)
    (hfraction : (num : ℚ) / den = n / d * 2 ^ ((t : ℤ) - 1074)) :
    n / d < 2 ^ 53 ∧ (t = 0 ∨ 2 ^ 52 ≤ n / d) := by
  have hdenq : (0 : ℚ) < den := by exact_mod_cast hden
  have hdq : (0 : ℚ) < d := by exact_mod_cast hd
  have hunit : (0 : ℚ) < 2 ^ ((t : ℤ) - 1074) := zpow_pos (by norm_num) _
  have hadd (k : Nat) : (2 : ℚ) ^ k * 2 ^ ((t : ℤ) - 1074) = 2 ^ ((k : ℤ) + (t - 1074)) := by
    rw [zpow_add₀ (by norm_num), zpow_natCast]
  -- Both bounds are those of the exponent, divided by the unit.
  constructor
  · have hbound : (n : ℚ) / d * 2 ^ ((t : ℤ) - 1074) < 2 ^ 53 * 2 ^ ((t : ℤ) - 1074) := by
      rw [← hfraction, div_lt_iff₀ hdenq, mul_comm _ (den : ℚ), hadd]
      refine hhigh.trans_le (mul_le_mul_of_nonneg_left ?_ hdenq.le)
      exact zpow_le_zpow_right₀ (by norm_num) (by push_cast; omega)
    have hn := lt_of_mul_lt_mul_right hbound hunit.le
    rw [div_lt_iff₀ hdq] at hn
    have hnat : n < 2 ^ 53 * d := by exact_mod_cast hn
    exact Nat.div_lt_of_lt_mul (by rwa [Nat.mul_comm])
  · refine or_iff_not_imp_left.2 fun h0 => ?_
    have hbound : 2 ^ 52 * 2 ^ ((t : ℤ) - 1074) ≤ (n : ℚ) / d * 2 ^ ((t : ℤ) - 1074) := by
      have he : ((52 : Nat) : ℤ) + (t - 1074) = e := by
        push_cast
        omega
      rw [← hfraction, le_div_iff₀ hdenq, hadd, he, mul_comm]
      exact hlow
    have hn := le_of_mul_le_mul_right hbound hunit
    rw [le_div_iff₀ hdq] at hn
    exact (Nat.le_div_iff_mul_le hd).2 (by exact_mod_cast hn)

/-- **The rank that is found is the nearest.** -/
theorem nearestRank_nearest (num : Nat) {den : Nat} (hden : 0 < den) (hs : s ≤ infinityRank)
    (hne : s ≠ nearestRank num den) : Nearer (num / den) (nearestRank num den) s := by
  unfold nearestRank at hne ⊢
  split at hne
  · rename_i hzero
    rw [if_pos hzero, hzero, Nat.cast_zero, zero_div]
    exact nearer_zero le_rfl (by simpa using magnitudeAt_one_pos) hne
  · rename_i hnum
    rw [if_neg hnum]
    refine nearer_min (fun s hs => ?_) hs hne
    obtain ⟨hlow, hhigh⟩ := floorLog2_spec (Nat.pos_of_ne_zero hnum) hden
    generalize floorLog2 num den = e at hlow hhigh hs ⊢
    obtain ⟨n, d, hd, hfraction, hround⟩ := exists_scaled num hden (max (e - 52) (-1074))
    obtain ⟨t, ht⟩ : ∃ t : Nat, max (e - 52) (-1074) = (t : ℤ) - 1074 :=
      ⟨(max (e - 52) (-1074) + 1074).toNat, by omega⟩
    have hrank : ((t : ℤ) - 1074 + 1074).toNat * 0x10000000000000 = t * 2 ^ 52 := by omega
    simp only [hround] at hs ⊢
    rw [ht] at hfraction hs ⊢
    rw [hrank] at hs ⊢
    obtain ⟨hlt, hge⟩ := quotient_bounds hden hd hlow hhigh ht hfraction
    have hunit : (0 : ℚ) < 2 ^ ((t : ℤ) - 1074) := zpow_pos (by norm_num) _
    have hfloor := magnitudeAt_binade hlt.le hge
    have hnext : magnitudeAt (t * 2 ^ 52 + n / d + 1) =
        ((n / d : Nat) + 1) * 2 ^ ((t : ℤ) - 1074) := by
      rw [Nat.add_assoc, magnitudeAt_binade hlt (by omega), Nat.cast_succ]
    -- Ranks are counted from the start of a binade, whose rank is even.
    have heven : t * 2 ^ 52 % 2 = 0 := by omega
    generalize t * 2 ^ 52 = base at hs hfloor hnext heven ⊢
    rw [hfraction]
    exact nearer_divNearest hd hunit heven hfloor hnext hs

theorem nearestRank_le (num den : Nat) : nearestRank num den ≤ infinityRank := by
  unfold nearestRank
  split
  · exact Nat.zero_le _
  · exact Nat.min_le_right _ _

/-- **A fraction is rounded to the nearest double.** -/
theorem isNearest_ofRatio (negative : Bool) (num : Nat) {den : Nat} (hden : 0 < den) :
    IsNearest (num / den) (ofRatio negative num den) :=
  isNearest_iff.2 ⟨nearestRank_le num den, fun _ => nearestRank_nearest num hden⟩

/-- Of two even ranks that are as near the rank between them is nearer. -/
theorem abs_lt_of_between {r s m : Nat} (hr : r < m) (hs : m < s)
    (h : |magnitudeAt r - q| = |magnitudeAt s - q|) :
    |magnitudeAt m - q| < |magnitudeAt r - q| := by
  have hrm := magnitudeAt_strictMono hr
  have hms := magnitudeAt_strictMono hs
  rcases abs_eq_abs.1 h with heq | heq
  · linarith
  · rcases le_total (magnitudeAt m) q with hm | hm
    · rw [abs_of_nonpos (by linarith), abs_of_nonpos (by linarith)]
      linarith
    · rw [h, abs_of_nonneg (by linarith), abs_of_nonneg (by linarith)]
      linarith

/-- Nothing else is nearest, up to the sign. -/
theorem IsNearest.rank_unique {x y : Double} (hx : IsNearest q x) (hy : IsNearest q y) :
    x.rank = y.rank := by
  wlog hlt : x.rank < y.rank generalizing x y with hwlog
  · rcases Nat.lt_or_ge y.rank x.rank with h | h
    · exact (hwlog hy hx h).symm
    · exact Nat.le_antisymm h (Nat.le_of_not_lt hlt)
  · obtain ⟨hxtop, hx⟩ := isNearest_iff.1 hx
    obtain ⟨hytop, hy⟩ := isNearest_iff.1 hy
    have hxy := hx y.rank hytop hlt.ne'
    have hyx := hy x.rank hxtop hlt.ne
    rcases hxy with h | ⟨heq, hxeven⟩
    · rcases hyx with h' | ⟨h', -⟩
      · linarith
      · linarith
    · rcases hyx with h' | ⟨-, hyeven⟩
      · linarith
      · have hbetween := abs_lt_of_between (q := q) (m := x.rank + 1) (by omega) (by omega) heq
        rcases hx (x.rank + 1) (by omega) (by omega) with h | ⟨h, -⟩
        · linarith
        · linarith

end Double
end GridQuery
