import Mathlib.Tactic.Linarith
import RenderSource.Number.Binary64
/-!
Doubles that are integers. Two doubles that are one integer are the same number, and the same numbers are
one integer or none: only zero has two forms.
-/
namespace RenderSource.Binary64

/-- The size of a finite double, in units of the power of two that its exponent takes away. -/
theorem toInt?_spec {x : Binary64} {n : Int} (whole : x.toInt? = some n) :
    x.significand * 2 ^ x.exponent.toNat = n.natAbs * 2 ^ (-x.exponent).toNat ∧
      n = if x.negative then -(n.natAbs : Int) else n.natAbs := by
  unfold toInt? at whole
  split at whole
  · cases whole
  obtain ⟨m, counted, signed⟩ := Option.map_eq_some_iff.mp whole
  obtain ⟨size, found, counted⟩ := Option.bind_eq_some_iff.mp counted
  cases counted
  have absolute : n.natAbs = size := by
    rw [← signed]
    split <;> omega
  rw [absolute]
  refine ⟨?_, signed.symm⟩
  split at found
  · cases found
    have nothing : (-x.exponent).toNat = 0 := by omega
    rw [nothing, Nat.pow_zero, Nat.mul_one]
    rfl
  · have nothing : x.exponent.toNat = 0 := by omega
    rw [nothing, Nat.pow_zero, Nat.mul_one]
    dsimp only at found
    split at found
    · rename_i even
      cases found
      exact (Nat.div_mul_cancel (Nat.dvd_of_mod_eq_zero even)).symm
    · cases found

theorem isZero_of_significand {x : Binary64} (none : x.significand = 0) : x.isZero = true := by
  unfold significand at none
  split at none
  · rename_i least
    simp [isZero, least, none]
  · omega

theorem normal_of_whole {x : Binary64} {n : Int} (whole : x.toInt? = some n) (some : n ≠ 0) :
    x.biased.val ≠ 0 := by
  intro least
  have size := (toInt?_spec whole).1
  have exponent : x.exponent = -1074 := by rw [Binary64.exponent, if_pos least]
  have small : x.significand < 2 ^ 52 := by
    rw [significand, if_pos least]
    exact x.fraction.isLt
  have down : x.exponent.toNat = 0 := by omega
  have far : 52 < (-x.exponent).toNat := by omega
  have order : 2 ^ 52 < 2 ^ (-x.exponent).toNat := Nat.pow_lt_pow_right (by decide) far
  rw [down, Nat.pow_zero, Nat.mul_one] at size
  generalize 2 ^ (-x.exponent).toNat = unit at size order
  have large : unit ≤ n.natAbs * unit := Nat.le_mul_of_pos_left _ (by omega)
  omega

/-- Scaled by powers of two, two significands of full length differ unless the powers are the same. -/
theorem powers_unique {a b p q : Nat} (low : 2 ^ 52 ≤ a) (high : b < 2 ^ 53)
    (same : a * 2 ^ p = b * 2 ^ q) : p ≤ q := by
  by_contra less
  obtain ⟨k, rfl⟩ : ∃ k, p = q + (k + 1) := ⟨p - q - 1, by omega⟩
  have power : 0 < 2 ^ q := Nat.two_pow_pos q
  have split : a * 2 ^ (k + 1) * 2 ^ q = b * 2 ^ q := by
    rw [← same, Nat.pow_add 2 q (k + 1), Nat.mul_assoc, Nat.mul_comm (2 ^ q)]
  have equal : a * 2 ^ (k + 1) = b := Nat.eq_of_mul_eq_mul_right power split
  have one : 1 ≤ 2 ^ k := Nat.one_le_two_pow
  have double : a * 2 ≤ a * 2 ^ (k + 1) := by
    apply Nat.mul_le_mul_left
    rw [Nat.pow_succ]
    omega
  omega

theorem significand_bounds {x : Binary64} (normal : x.biased.val ≠ 0) :
    2 ^ 52 ≤ x.significand ∧ x.significand < 2 ^ 53 := by
  have small := x.fraction.isLt
  rw [significand, if_neg normal]
  omega

theorem isNaN_of_whole {x : Binary64} {n : Int} (whole : x.toInt? = some n) : x.isNaN = false := by
  unfold toInt? at whole
  split at whole
  · cases whole
  · rename_i finite
    have finite : x.biased.val ≠ 2047 := by simpa [isFinite] using finite
    simp [isNaN, finite]

theorem isZero_of_whole {x : Binary64} (whole : x.toInt? = some 0) : x.isZero = true := by
  have size := (toInt?_spec whole).1
  rw [Int.natAbs_zero, Nat.zero_mul] at size
  rcases Nat.mul_eq_zero.mp size with nothing | power
  · exact isZero_of_significand nothing
  · exact absurd power (Nat.two_pow_pos _).ne'

theorem eq_of_normal {x y : Binary64} (normal : x.biased.val ≠ 0) (normal' : y.biased.val ≠ 0)
    (signs : x.negative = y.negative) (exponents : x.exponent = y.exponent)
    (significands : x.significand = y.significand) : x = y := by
  rw [Binary64.exponent, if_neg normal, Binary64.exponent, if_neg normal'] at exponents
  rw [significand, if_neg normal, significand, if_neg normal'] at significands
  obtain ⟨negative, biased, fraction⟩ := x
  obtain ⟨negative', biased', fraction'⟩ := y
  dsimp only at signs exponents significands
  have biases : biased = biased' := Fin.ext (by omega)
  have fractions : fraction = fraction' := Fin.ext (by omega)
  rw [signs, biases, fractions]

theorem same_of_toInt? {x y : Binary64} {n : Int} (whole : x.toInt? = some n) (whole' : y.toInt? = some n) :
    x.same y = true := by
  obtain ⟨size, sign⟩ := toInt?_spec whole
  obtain ⟨size', sign'⟩ := toInt?_spec whole'
  by_cases none : n = 0
  · subst none
    simp [same, isNaN_of_whole whole, isNaN_of_whole whole', isZero_of_whole whole, isZero_of_whole whole']
  · have normal := normal_of_whole whole none
    have normal' := normal_of_whole whole' none
    obtain ⟨low, high⟩ := significand_bounds normal
    obtain ⟨low', high'⟩ := significand_bounds normal'
    -- both sizes times what both exponents take away
    have crossed : x.significand * 2 ^ (x.exponent.toNat + (-y.exponent).toNat) =
        y.significand * 2 ^ (y.exponent.toNat + (-x.exponent).toNat) := by
      rw [Nat.pow_add, Nat.pow_add, ← Nat.mul_assoc, ← Nat.mul_assoc, size, size', Nat.mul_right_comm]
    have powers := Nat.le_antisymm (powers_unique low high' crossed) (powers_unique low' high crossed.symm)
    rw [powers] at crossed
    have significands := Nat.eq_of_mul_eq_mul_right (Nat.two_pow_pos _) crossed
    have exponents : x.exponent = y.exponent := by omega
    have signs : x.negative = y.negative := by
      cases first : x.negative <;> cases second : y.negative <;> simp [first, second] at sign sign' ⊢ <;> omega
    obtain rfl := eq_of_normal normal normal' signs exponents significands
    simp [same, isNaN_of_whole whole]

theorem toInt?_of_isZero {x : Binary64} (zero : x.isZero = true) : x.toInt? = some 0 := by
  have parts : x.biased.val = 0 ∧ x.fraction.val = 0 := by simpa [isZero] using zero
  have size : x.significand = 0 := by rw [significand, if_pos parts.1, parts.2]
  have finite : x.isFinite = true := by simp [isFinite, parts.1]
  simp [toInt?, finite, size]

theorem toInt?_of_same {x y : Binary64} (equal : x.same y = true) : x.toInt? = y.toInt? := by
  simp only [same, Bool.and_eq_true, Bool.or_eq_true, decide_eq_true_eq] at equal
  rcases equal.2 with rfl | ⟨zero, zero'⟩
  · rfl
  · rw [toInt?_of_isZero zero, toInt?_of_isZero zero']

end RenderSource.Binary64
