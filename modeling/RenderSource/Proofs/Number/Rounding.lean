import Mathlib.Algebra.Order.Field.Power
import Mathlib.Data.Rat.Cast.Order
import Mathlib.Tactic.FieldSimp
import Mathlib.Tactic.Linarith
import Mathlib.Tactic.Ring
import RenderSource.Number.Shortest
/-!
Rounding to the nearest double. A quotient inside the rounding interval of a positive double rounds to
that double, however the quotient is written.
-/
namespace RenderSource

namespace Binary64

theorem roundHalfEven_eq {num den m : Nat} (positive : 0 < den)
    (lower : 2 * m * den ≤ 2 * num + den) (upper : 2 * num ≤ (2 * m + 1) * den)
    (lowerTie : 2 * m * den = 2 * num + den → m % 2 = 0)
    (upperTie : 2 * num = (2 * m + 1) * den → m % 2 = 0) : roundHalfEven num den = m := by
  have split := Nat.div_add_mod num den
  have rest := Nat.mod_lt num positive
  simp only [roundHalfEven]
  generalize num / den = q at *
  generalize num % den = s at *
  subst split
  have below : q ≤ m := by
    by_contra h
    have step : (2 * m + 2) * den ≤ 2 * q * den := Nat.mul_le_mul_right den (by omega)
    nlinarith
  have above : m ≤ q + 1 := by
    by_contra h
    have step : (2 * q + 4) * den ≤ 2 * m * den := Nat.mul_le_mul_right den (by omega)
    nlinarith
  rcases Nat.lt_or_eq_of_le above with low | high
  · have same : m = q := by omega
    subst m
    have half : 2 * s ≤ den := by nlinarith
    split_ifs with first second
    · rfl
    · omega
    · have tie : 2 * (den * q + s) = (2 * q + 1) * den := by
        have : 2 * s = den := by omega
        nlinarith
      have := upperTie tie
      omega
  · subst m
    have half : den ≤ 2 * s := by nlinarith
    split_ifs with first second
    · omega
    · rfl
    · have tie : 2 * (q + 1) * den = 2 * (den * q + s) + den := by
        have : 2 * s = den := by omega
        nlinarith
      have := lowerTie tie
      omega

theorem roundHalfEven_of_ratio {num den m : Nat} (positive : 0 < den)
    (low : (m : ℚ) - 1 / 2 ≤ num / den) (high : (num : ℚ) / den ≤ m + 1 / 2)
    (strict : m % 2 = 1 → (m : ℚ) - 1 / 2 < num / den ∧ (num : ℚ) / den < m + 1 / 2) :
    roundHalfEven num den = m := by
  have bottom : (0 : ℚ) < den := by exact_mod_cast positive
  rw [le_div_iff₀ bottom] at low
  rw [div_le_iff₀ bottom] at high
  rw [lt_div_iff₀ bottom, div_lt_iff₀ bottom] at strict
  apply roundHalfEven_eq positive
  · have : (2 * m * den : ℚ) ≤ 2 * num + den := by linarith
    exact_mod_cast this
  · have : (2 * num : ℚ) ≤ (2 * m + 1) * den := by linarith
    exact_mod_cast this
  · intro tie
    by_contra odd
    have tie' : (2 * m * den : ℚ) = 2 * num + den := by exact_mod_cast tie
    have := (strict (by omega)).1
    linarith
  · intro tie
    by_contra odd
    have tie' : (2 * num : ℚ) = (2 * m + 1) * den := by exact_mod_cast tie
    have := (strict (by omega)).2
    linarith

theorem two_zpow (e : Int) : (2 : ℚ) ^ e = 2 ^ e.toNat / 2 ^ (-e).toNat := by
  rcases Int.le_total 0 e with up | down
  · obtain ⟨n, rfl⟩ := Int.eq_ofNat_of_zero_le up
    simp
  · obtain ⟨n, same⟩ := Int.eq_ofNat_of_zero_le (Int.neg_nonneg_of_nonpos down)
    have : e = -(n : Int) := by omega
    subst this
    simp

theorem scaled_ratio (num den : Nat) (e : Int) :
    ((num * 2 ^ (-e).toNat : Nat) : ℚ) / ((den * 2 ^ e.toNat : Nat) : ℚ) =
      (num : ℚ) / den / 2 ^ e := by
  rw [two_zpow]
  push_cast
  rw [div_div_eq_mul_div, div_mul_eq_mul_div, div_div]

theorem scaled_positive {den : Nat} (positive : 0 < den) (e : Int) : 0 < den * 2 ^ e.toNat :=
  Nat.mul_pos positive (Nat.two_pow_pos _)

theorem scaled_lt_iff {num den : Nat} (positive : 0 < den) (e : Int) (k : Nat) :
    num * 2 ^ (-e).toNat < den * 2 ^ e.toNat * 2 ^ k ↔ (num : ℚ) / den < 2 ^ (e + k) := by
  have unit : (0 : ℚ) < 2 ^ e := by positivity
  have bottom : (0 : ℚ) < ((den * 2 ^ e.toNat : Nat) : ℚ) := by
    exact_mod_cast scaled_positive positive e
  have split : (2 : ℚ) ^ (e + k) = 2 ^ k * 2 ^ e := by
    rw [zpow_add₀ (by norm_num), zpow_natCast, mul_comm]
  rw [split, ← div_lt_iff₀ unit, ← scaled_ratio, div_lt_iff₀ bottom]
  rw [mul_comm ((2 : ℚ) ^ k)]
  exact_mod_cast Iff.rfl

theorem ratio_log_bounds {num den : Nat} (num_pos : num ≠ 0) (den_pos : den ≠ 0) :
    (2 : ℚ) ^ ((Nat.log2 num : Int) - Nat.log2 den - 1) < (num : ℚ) / den ∧
      (num : ℚ) / den < 2 ^ ((Nat.log2 num : Int) - Nat.log2 den + 1) := by
  have num_low : (2 : ℚ) ^ (Nat.log2 num) ≤ num := by exact_mod_cast Nat.log2_self_le num_pos
  have num_high : (num : ℚ) < 2 ^ (Nat.log2 num + 1) := by exact_mod_cast Nat.lt_log2_self
  have den_low : (2 : ℚ) ^ (Nat.log2 den) ≤ den := by exact_mod_cast Nat.log2_self_le den_pos
  have den_high : (den : ℚ) < 2 ^ (Nat.log2 den + 1) := by exact_mod_cast Nat.lt_log2_self
  have bottom : (0 : ℚ) < den := by exact_mod_cast Nat.pos_of_ne_zero den_pos
  generalize Nat.log2 num = a at *
  generalize Nat.log2 den = b at *
  constructor
  · rw [lt_div_iff₀ bottom]
    calc (2 : ℚ) ^ ((a : Int) - b - 1) * den < 2 ^ ((a : Int) - b - 1) * 2 ^ (b + 1) := by
          exact mul_lt_mul_of_pos_left den_high (by positivity)
      _ = 2 ^ a := by
          rw [← zpow_natCast, ← zpow_natCast, ← zpow_add₀ (by norm_num)]
          congr 1; push_cast; ring
      _ ≤ num := num_low
  · rw [div_lt_iff₀ bottom]
    calc (num : ℚ) < 2 ^ (a + 1) := num_high
      _ = 2 ^ ((a : Int) - b + 1) * 2 ^ b := by
          rw [← zpow_natCast, ← zpow_natCast, ← zpow_add₀ (by norm_num)]
          congr 1; push_cast; ring
      _ ≤ 2 ^ ((a : Int) - b + 1) * den := by
          exact mul_le_mul_of_nonneg_left den_low (by positivity)

/-- Where `nearest` takes the significand from: the unit that leaves 53 binary digits. -/
def unitOf (num den : Nat) : Int :=
  let guess : Int := (Nat.log2 num : Int) - Nat.log2 den - 53
  if decide (num * 2 ^ (-guess).toNat < den * 2 ^ guess.toNat * 2 ^ 53) then guess else guess + 1

theorem unitOf_bounds {num den : Nat} (num_pos : num ≠ 0) (den_pos : 0 < den) :
    (2 : ℚ) ^ (unitOf num den + 52) ≤ (num : ℚ) / den ∧
      (num : ℚ) / den < 2 ^ (unitOf num den + 53) := by
  obtain ⟨low, high⟩ := ratio_log_bounds num_pos (Nat.ne_of_gt den_pos)
  simp only [unitOf, decide_eq_true_eq]
  generalize (Nat.log2 num : Int) - Nat.log2 den = g at *
  split
  · rename_i fits
    rw [scaled_lt_iff den_pos] at fits
    refine ⟨le_of_lt ?_, by exact_mod_cast fits⟩
    rwa [show g - 53 + 52 = g - 1 by ring]
  · rename_i exceeds
    rw [scaled_lt_iff den_pos, not_lt] at exceeds
    refine ⟨?_, ?_⟩
    · rw [show g - 53 + 1 + 52 = g - 53 + 53 by ring]; exact_mod_cast exceeds
    · rwa [show g - 53 + 1 + 53 = g + 1 by ring]

theorem unitOf_unique {num den : Nat} (num_pos : num ≠ 0) (den_pos : 0 < den) {e : Int}
    (low : (2 : ℚ) ^ (e + 52) ≤ (num : ℚ) / den) (high : (num : ℚ) / den < 2 ^ (e + 53)) :
    unitOf num den = e := by
  obtain ⟨low', high'⟩ := unitOf_bounds num_pos den_pos
  have one := (zpow_lt_zpow_iff_right₀ (by norm_num : (1 : ℚ) < 2)).mp (lt_of_le_of_lt low high')
  have two := (zpow_lt_zpow_iff_right₀ (by norm_num : (1 : ℚ) < 2)).mp (lt_of_le_of_lt low' high)
  omega

theorem nearest_eq {num den : Nat} (num_pos : num ≠ 0) :
    nearest num den =
      let e := max (-1074) (unitOf num den)
      let m := roundHalfEven (num * 2 ^ (-e).toNat) (den * 2 ^ e.toNat)
      if m = 2 ^ 53 then ofParts (2 ^ 52) (e + 1) else ofParts m e := by
  rw [nearest, if_neg num_pos]
  rfl

theorem significand_lt (x : Binary64) : x.significand < 2 ^ 53 := by
  have bound := x.fraction.isLt
  unfold significand
  split <;> omega

theorem ofParts_significand {x : Binary64} (plain : x.negative = false) (finite : x.isFinite = true) :
    ofParts x.significand x.exponent = x := by
  obtain ⟨negative, biased, fraction⟩ := x
  have fraction_lt := fraction.isLt
  have biased_lt := biased.isLt
  simp only [isFinite, bne_iff_ne, ne_eq] at plain finite
  subst plain
  by_cases small : biased.val = 0
  · have zero : biased = 0 := Fin.ext small
    have front : fraction.val % 0x10000000000000 = fraction.val := Nat.mod_eq_of_lt fraction_lt
    subst zero
    simp only [ofParts, significand, Fin.val_zero, ↓reduceIte, fraction_lt, Fin.ofNat, front]
  · have normal : ¬ 0x10000000000000 + fraction.val < 0x10000000000000 := by omega
    have range : ¬ 971 < (biased.val : Int) - 1075 := by omega
    have shifted : ((biased.val : Int) - 1075 + 1075).toNat % 2048 = biased.val := by omega
    have front : (0x10000000000000 + fraction.val - 0x10000000000000) % 0x10000000000000 = fraction.val := by omega
    simp only [ofParts, significand, exponent, small, ↓reduceIte, normal, range, Fin.ofNat, shifted,
      front]

end Binary64

namespace Shortest

/-- A quotient inside an interval; the ends count where it is closed. -/
def Interval.Contains (i : Interval) (num den : Nat) : Prop :=
  if i.closed then i.low * den ≤ num * i.den ∧ num * i.den ≤ i.high * den
  else i.low * den < num * i.den ∧ num * i.den < i.high * den

theorem Interval.contains_of_holds {i : Interval} {c : Nat} {p : Int} (h : i.holds c p = true) :
    i.Contains (c * 10 ^ p.toNat) (10 ^ (-p).toNat) := by
  unfold holds at h
  unfold Contains
  split at h <;> simp_all

/-- How far the interval of a double reaches downward, in units of its last digit. -/
def reach (x : Binary64) : ℚ := if x.fraction.val = 0 && 1 < x.biased.val then 1 / 4 else 1 / 2

theorem reach_le (x : Binary64) : reach x ≤ 1 / 2 := by
  unfold reach; split <;> norm_num

/-- A point of the interval, `k` quarters of the last digit, over the interval's denominator. -/
theorem quarters_eq (e : Int) (k : Nat) :
    ((k * 2 ^ (e - 2).toNat : Nat) : ℚ) / ((2 ^ (-(e - 2)).toNat : Nat) : ℚ) = k / 4 * 2 ^ e := by
  have quarter : (2 : ℚ) ^ e = 2 ^ (e - 2) * 4 := by
    rw [show (4 : ℚ) = 2 ^ (2 : Int) by norm_num, ← zpow_add₀ (by norm_num)]
    congr 1; ring
  rw [quarter, Binary64.two_zpow]
  push_cast
  ring

theorem quarters_le_iff {den : Nat} (den_pos : 0 < den) (num k : Nat) (e : Int) :
    k * 2 ^ (e - 2).toNat * den ≤ num * 2 ^ (-(e - 2)).toNat ↔
      (k : ℚ) / 4 ≤ num / den / 2 ^ e := by
  have unit : (0 : ℚ) < 2 ^ e := by positivity
  rw [le_div_iff₀ unit, ← quarters_eq, div_le_div_iff₀ (by positivity) (by exact_mod_cast den_pos)]
  exact_mod_cast Iff.rfl

theorem le_quarters_iff {den : Nat} (den_pos : 0 < den) (num k : Nat) (e : Int) :
    num * 2 ^ (-(e - 2)).toNat ≤ k * 2 ^ (e - 2).toNat * den ↔
      (num : ℚ) / den / 2 ^ e ≤ k / 4 := by
  have unit : (0 : ℚ) < 2 ^ e := by positivity
  rw [div_le_iff₀ unit, ← quarters_eq, div_le_div_iff₀ (by exact_mod_cast den_pos) (by positivity)]
  exact_mod_cast Iff.rfl

theorem contains_bounds {x : Binary64} {num den : Nat} (large : 0 < x.significand)
    (den_pos : 0 < den) (inside : (interval x).Contains num den) :
    let y : ℚ := num / den / 2 ^ x.exponent
    (x.significand : ℚ) - reach x ≤ y ∧ y ≤ x.significand + 1 / 2 ∧
      (x.significand % 2 = 1 → (x.significand : ℚ) - reach x < y ∧ y < x.significand + 1 / 2) := by
  intro y
  let cut : Nat := if x.fraction.val = 0 && 1 < x.biased.val then 1 else 2
  have cut_le : cut ≤ 4 * x.significand := by simp only [cut]; split <;> omega
  have low_eq : ((4 * x.significand - cut : Nat) : ℚ) / 4 = x.significand - reach x := by
    rw [Nat.cast_sub cut_le]
    simp only [cut, reach]
    split <;> (push_cast; ring)
  have high_eq : ((4 * x.significand + 2 : Nat) : ℚ) / 4 = x.significand + 1 / 2 := by
    push_cast; ring
  have low := quarters_le_iff den_pos num (4 * x.significand - cut) x.exponent
  have low' := le_quarters_iff den_pos num (4 * x.significand - cut) x.exponent
  have high := quarters_le_iff den_pos num (4 * x.significand + 2) x.exponent
  have high' := le_quarters_iff den_pos num (4 * x.significand + 2) x.exponent
  rw [low_eq] at low low'
  rw [high_eq] at high high'
  unfold Interval.Contains at inside
  simp only [interval, decide_eq_true_eq] at inside
  split at inside
  · rename_i even
    exact ⟨low.mp inside.1, high'.mp inside.2, fun odd => by omega⟩
  · have strict_low : (x.significand : ℚ) - reach x < y :=
      lt_of_not_ge fun h => Nat.not_le_of_lt inside.1 (low'.mpr h)
    have strict_high : y < x.significand + 1 / 2 :=
      lt_of_not_ge fun h => Nat.not_le_of_lt inside.2 (high.mpr h)
    exact ⟨le_of_lt strict_low, le_of_lt strict_high, fun _ => ⟨strict_low, strict_high⟩⟩

theorem exponent_least (x : Binary64) : -1074 ≤ x.exponent := by
  unfold Binary64.exponent; split <;> omega

theorem pos_of_contains {x : Binary64} {num den : Nat} (large : 0 < x.significand)
    (den_pos : 0 < den) (inside : (interval x).Contains num den) : num ≠ 0 := by
  rintro rfl
  have low := (contains_bounds large den_pos inside).1
  have small := reach_le x
  have one : (1 : ℚ) ≤ x.significand := by exact_mod_cast large
  norm_num at low
  linarith

/-- Below a power of two the digits run out: only the least significand can be reached from there. -/
theorem lowest_of_below {x : Binary64} {y : ℚ} (above : -1074 < x.exponent)
    (low : (x.significand : ℚ) - reach x ≤ y) (below : y < 2 ^ 52) :
    x.significand = 2 ^ 52 ∧ reach x = 1 / 4 := by
  have small := reach_le x
  have normal : x.biased.val ≠ 0 ∧ 1 < x.biased.val := by
    unfold Binary64.exponent at above
    split at above <;> omega
  have form : x.significand = 2 ^ 52 + x.fraction.val := by
    simp [Binary64.significand, normal.1]
  have bound : (x.significand : ℚ) < 2 ^ 52 + 1 := by linarith
  have zero : x.fraction.val = 0 := by
    have : x.significand < 2 ^ 52 + 1 := by exact_mod_cast bound
    omega
  refine ⟨by omega, ?_⟩
  simp [reach, zero, normal.2]

section Units

variable {num den : Nat} (num_pos : num ≠ 0) (den_pos : 0 < den) {e : Int}

include num_pos den_pos

/-- The unit of a quotient that has its first digit in the place of a double with exponent `e`, or lies below all
of them where there is no lower exponent. -/
theorem unitOf_within (least : -1074 ≤ e) (low : (2 : ℚ) ^ 52 ≤ num / den / 2 ^ e ∨ e = -1074)
    (high : (num : ℚ) / den / 2 ^ e < 2 ^ 53) : max (-1074) (Binary64.unitOf num den) = e := by
  have unit : (0 : ℚ) < 2 ^ e := by positivity
  have upper : (num : ℚ) / den < 2 ^ (e + 53) := by
    rw [zpow_add₀ (by norm_num), mul_comm, ← div_lt_iff₀ unit]
    exact_mod_cast high
  rcases low with normal | bottom
  · have unit_eq : Binary64.unitOf num den = e := by
      apply Binary64.unitOf_unique num_pos den_pos _ upper
      rw [zpow_add₀ (by norm_num), mul_comm, ← le_div_iff₀ unit]
      exact_mod_cast normal
    omega
  · have bounds := (Binary64.unitOf_bounds num_pos den_pos).1
    have := (zpow_lt_zpow_iff_right₀ (by norm_num : (1 : ℚ) < 2)).mp (lt_of_le_of_lt bounds upper)
    omega

/-- A quotient less than half a unit below the least double with exponent `e` lies in the binade below and rounds up
out of it. -/
theorem rounds_below (low : (2 : ℚ) ^ 52 - 1 / 4 ≤ num / den / 2 ^ e)
    (high : (num : ℚ) / den / 2 ^ e < 2 ^ 52) : Binary64.unitOf num den = e - 1 ∧
      Binary64.roundHalfEven (num * 2 ^ (-(e - 1)).toNat) (den * 2 ^ (e - 1).toNat) = 2 ^ 53 := by
  have half : (2 : ℚ) ^ e = 2 ^ (e - 1) * 2 := by
    rw [← zpow_add_one₀ (by norm_num)]; congr 1; ring
  have doubled : (num : ℚ) / den / 2 ^ (e - 1) = 2 * ((num : ℚ) / den / 2 ^ e) := by
    rw [half]; field_simp
  have unit : (0 : ℚ) < 2 ^ (e - 1) := by positivity
  constructor
  · apply Binary64.unitOf_unique num_pos den_pos
    · rw [zpow_add₀ (by norm_num), mul_comm, ← le_div_iff₀ unit, doubled]
      norm_num at low ⊢; linarith
    · rw [zpow_add₀ (by norm_num), mul_comm, ← div_lt_iff₀ unit, doubled]
      norm_num at high ⊢; linarith
  · apply Binary64.roundHalfEven_of_ratio (Binary64.scaled_positive den_pos _)
    · rw [Binary64.scaled_ratio, doubled]; push_cast; linarith
    · rw [Binary64.scaled_ratio, doubled]; push_cast; linarith
    · intro odd; norm_num at odd

end Units

theorem nearest_of_contains {x : Binary64} {num den : Nat} (plain : x.negative = false)
    (finite : x.isFinite = true) (large : 0 < x.significand) (den_pos : 0 < den)
    (inside : (interval x).Contains num den) : Binary64.nearest num den = x := by
  have num_pos := pos_of_contains large den_pos inside
  obtain ⟨low, high, strict⟩ := contains_bounds large den_pos inside
  have small := reach_le x
  have least := exponent_least x
  have back := Binary64.ofParts_significand plain finite
  rw [Binary64.nearest_eq num_pos]
  simp only
  by_cases below : (num : ℚ) / den / 2 ^ x.exponent < 2 ^ 52 ∧ -1074 < x.exponent
  · obtain ⟨power, quarter⟩ := lowest_of_below below.2 low below.1
    rw [quarter, power] at low
    push_cast at low
    obtain ⟨unit_eq, rounds⟩ := rounds_below num_pos den_pos low below.1
    have max_eq : max (-1074) (x.exponent - 1) = x.exponent - 1 := by omega
    rw [unit_eq, max_eq, rounds, if_pos rfl, show x.exponent - 1 + 1 = x.exponent by ring, ← power]
    exact back
  · have normal : (2 : ℚ) ^ 52 ≤ num / den / 2 ^ x.exponent ∨ x.exponent = -1074 := by
      rcases not_and_or.mp below with above | lowest
      · exact .inl (le_of_not_gt above)
      · exact .inr (by omega)
    have digits : (x.significand : ℚ) ≤ 2 ^ 53 - 1 := by
      have next : x.significand + 1 ≤ 2 ^ 53 := Binary64.significand_lt x
      have : ((x.significand + 1 : Nat) : ℚ) ≤ ((2 ^ 53 : Nat) : ℚ) := by exact_mod_cast next
      push_cast at this
      linarith
    have max_eq := unitOf_within num_pos den_pos least normal (by linarith)
    have rounds : Binary64.roundHalfEven (num * 2 ^ (-x.exponent).toNat)
        (den * 2 ^ x.exponent.toNat) = x.significand := by
      apply Binary64.roundHalfEven_of_ratio (Binary64.scaled_positive den_pos _)
      · rw [Binary64.scaled_ratio]; linarith
      · rw [Binary64.scaled_ratio]; linarith
      · intro odd
        rw [Binary64.scaled_ratio]
        exact ⟨by linarith [(strict odd).1], (strict odd).2⟩
    have not_full : x.significand ≠ 2 ^ 53 := Nat.ne_of_lt (Binary64.significand_lt x)
    rw [max_eq, rounds, if_neg not_full]
    exact back

end Shortest

end RenderSource
