import Mathlib.Data.Nat.Init
import Mathlib.Order.Basic
import Mathlib.Tactic.SplitIfs
import RenderSource.Calendar.Date
/-!
Ordinals and dates. Each day of years 1 to 9999 has one ordinal, and the date found for an ordinal has
that ordinal: the year found brackets the day, and the months of a year divide it without a gap.
-/
namespace RenderSource.Date

theorem daysBeforeYear_succ {year : Nat} (first : 1 ≤ year) :
    daysBeforeYear (year + 1) = daysBeforeYear year + (if isLeap year then 366 else 365) := by
  obtain ⟨past, rfl⟩ : ∃ past, year = past + 1 := ⟨year - 1, by omega⟩
  have hundred : 400 ∣ past + 1 → 100 ∣ past + 1 := Nat.dvd_trans (by decide)
  have four : 100 ∣ past + 1 → 4 ∣ past + 1 := Nat.dvd_trans (by decide)
  have fewer : past / 100 ≤ past / 4 := Nat.div_le_div_left (by decide) (by decide)
  simp only [daysBeforeYear, isLeap, Nat.add_sub_cancel, Nat.succ_div, ← Nat.dvd_iff_mod_eq_zero,
    bne_iff_ne, ne_eq, Bool.and_eq_true, Bool.or_eq_true, decide_eq_true_eq]
  by_cases h4 : 4 ∣ past + 1 <;> by_cases h100 : 100 ∣ past + 1 <;>
    by_cases h400 : 400 ∣ past + 1 <;> simp_all <;> omega

theorem daysBeforeYear_mono {a b : Nat} (first : 1 ≤ a) (le : a ≤ b) :
    daysBeforeYear a ≤ daysBeforeYear b := by
  induction b, le using Nat.le_induction with
  | base => exact Nat.le_refl _
  | succ b le ih =>
    rw [daysBeforeYear_succ (by omega)]
    omega

theorem yearOfDay_bounds (n : Nat) : 1 ≤ yearOfDay n ∧ daysBeforeYear (yearOfDay n) ≤ n ∧
    n < daysBeforeYear (yearOfDay n + 1) := by
  simp only [yearOfDay]
  have low := Nat.div_mul_le_self (n * 400) 146097
  have high := Nat.lt_div_mul_add (a := n * 400) (show 0 < 146097 by omega)
  generalize n * 400 / 146097 = mean at *
  have guess : daysBeforeYear (mean + 1) = mean * 365 + mean / 4 - mean / 100 + mean / 400 := rfl
  have next : daysBeforeYear (mean + 1 + 1) =
    (mean + 1) * 365 + (mean + 1) / 4 - (mean + 1) / 100 + (mean + 1) / 400 := rfl
  split_ifs with early late
  · have before : daysBeforeYear mean =
      (mean - 1) * 365 + (mean - 1) / 4 - (mean - 1) / 100 + (mean - 1) / 400 := rfl
    simp only [Nat.add_sub_cancel]
    omega
  · have beyond : daysBeforeYear (mean + 1 + 1 + 1) =
      (mean + 2) * 365 + (mean + 2) / 4 - (mean + 2) / 100 + (mean + 2) / 400 := rfl
    omega
  · omega

theorem year_unique {n a b : Nat} (first : 1 ≤ a) (first' : 1 ≤ b)
    (inside : daysBeforeYear a ≤ n ∧ n < daysBeforeYear (a + 1))
    (inside' : daysBeforeYear b ≤ n ∧ n < daysBeforeYear (b + 1)) : a = b := by
  rcases Nat.lt_trichotomy a b with less | same | more
  · have := daysBeforeYear_mono (by omega) (show a + 1 ≤ b by omega); omega
  · exact same
  · have := daysBeforeYear_mono (by omega) (show b + 1 ≤ a by omega); omega

theorem daysBeforeMonth_succ (year : Nat) {month : Nat} (first : 1 ≤ month) :
    daysBeforeMonth year (month + 1) = daysBeforeMonth year month + monthDays year month := by
  cases month with
  | zero => omega
  | succ month => rfl

theorem daysBeforeMonth_mono (year : Nat) {a b : Nat} (first : 1 ≤ a) (le : a ≤ b) :
    daysBeforeMonth year a ≤ daysBeforeMonth year b := by
  induction b, le using Nat.le_induction with
  | base => exact Nat.le_refl _
  | succ b le ih =>
    rw [daysBeforeMonth_succ year (by omega)]
    omega

theorem daysBeforeMonth_year {year : Nat} (first : 1 ≤ year) :
    daysBeforeYear year + daysBeforeMonth year 13 = daysBeforeYear (year + 1) := by
  rw [daysBeforeYear_succ first]
  simp only [daysBeforeMonth, monthDays]
  by_cases leap : isLeap year <;> simp [leap]

theorem monthOfDay_spec {year month n left : Nat} (first : 1 ≤ month) (last : month + left = 12)
    (inside : daysBeforeMonth year month + n < daysBeforeMonth year 13) :
    let found := monthOfDay year month n left
    month ≤ found.1 ∧ found.1 ≤ 12 ∧ 1 ≤ found.2 ∧ found.2 ≤ monthDays year found.1 ∧
      daysBeforeMonth year found.1 + found.2 = daysBeforeMonth year month + n + 1 := by
  induction left generalizing month n with
  | zero =>
    have twelve : month = 12 := by omega
    subst twelve
    have next : daysBeforeMonth year 13 = daysBeforeMonth year 12 + monthDays year 12 := rfl
    simp only [monthOfDay]
    omega
  | succ left ih =>
    have next := daysBeforeMonth_succ year first
    unfold monthOfDay
    split
    · simp only; omega
    · have found := @ih (month + 1) (n - monthDays year month) (by omega) (by omega) (by omega)
      simp only at found ⊢
      omega

theorem month_unique {year a b c d : Nat} (first : 1 ≤ a) (first' : 1 ≤ b)
    (day : 1 ≤ c ∧ c ≤ monthDays year a) (day' : 1 ≤ d ∧ d ≤ monthDays year b)
    (same : daysBeforeMonth year a + c = daysBeforeMonth year b + d) : a = b ∧ c = d := by
  have next := daysBeforeMonth_succ year first
  have next' := daysBeforeMonth_succ year first'
  rcases Nat.lt_trichotomy a b with less | rfl | more
  · have := daysBeforeMonth_mono year (by omega : 1 ≤ a + 1) (show a + 1 ≤ b by omega)
    omega
  · omega
  · have := daysBeforeMonth_mono year (by omega : 1 ≤ b + 1) (show b + 1 ≤ a by omega)
    omega

theorem Valid.inside {d : Date} (valid : d.Valid) :
    daysBeforeYear d.year ≤ d.ordinal - 1 ∧ 1 ≤ d.ordinal ∧
      d.ordinal - 1 < daysBeforeYear (d.year + 1) := by
  obtain ⟨firstYear, _, firstMonth, lastMonth, firstDay, lastDay⟩ := valid
  have whole := daysBeforeMonth_year firstYear
  have next := daysBeforeMonth_succ d.year firstMonth
  have := daysBeforeMonth_mono d.year (by omega : 1 ≤ d.month + 1) (show d.month + 1 ≤ 13 by omega)
  unfold ordinal
  omega

theorem Valid.ordinal_le {d : Date} (valid : d.Valid) : d.ordinal ≤ lastOrdinal := by
  have inside := valid.inside
  have bound : d.year + 1 ≤ 10000 := Nat.succ_le_succ valid.2.1
  have last := daysBeforeYear_mono (by omega) bound
  have count : daysBeforeYear 10000 = lastOrdinal := rfl
  omega

theorem ofOrdinal_spec {n : Nat} (first : 1 ≤ n) (last : n ≤ lastOrdinal) :
    ∃ d, ofOrdinal? n = some d ∧ d.Valid ∧ d.ordinal = n := by
  obtain ⟨firstYear, low, high⟩ := yearOfDay_bounds (n - 1)
  simp only [ofOrdinal?, first, last, and_self, ↓reduceIte]
  generalize yearOfDay (n - 1) = year at *
  have whole := daysBeforeMonth_year firstYear
  have bound : year ≤ lastYear := by
    by_contra late
    have count : daysBeforeYear 10000 = lastOrdinal := rfl
    simp only [lastYear] at late
    have := daysBeforeYear_mono (by omega) (show 10000 ≤ year by omega)
    omega
  have zero : daysBeforeMonth year 1 = 0 := rfl
  have found := @monthOfDay_spec year 1 (n - 1 - daysBeforeYear year) 11 (by omega) rfl (by omega)
  simp only at found
  refine ⟨_, rfl, ⟨firstYear, bound, found.1, found.2.1, found.2.2.1, found.2.2.2.1⟩, ?_⟩
  simp only [ordinal]
  omega

theorem ordinal_injective {d e : Date} (valid : d.Valid) (valid' : e.Valid)
    (same : d.ordinal = e.ordinal) : d = e := by
  have inside := valid.inside
  have inside' := valid'.inside
  rw [← same] at inside'
  have years := year_unique valid.1 valid'.1 ⟨inside.1, inside.2.2⟩ ⟨inside'.1, inside'.2.2⟩
  obtain ⟨year, month, day⟩ := d
  obtain ⟨year', month', day'⟩ := e
  simp only at years
  subst years
  simp only [ordinal, Nat.add_assoc, Nat.add_left_cancel_iff] at same
  obtain ⟨rfl, rfl⟩ := month_unique valid.2.2.1 valid'.2.2.1 valid.2.2.2.2 valid'.2.2.2.2 same
  rfl

theorem ofOrdinal_ordinal {d : Date} (valid : d.Valid) : ofOrdinal? d.ordinal = some d := by
  obtain ⟨e, found, valid', same⟩ := ofOrdinal_spec valid.inside.2.1 valid.ordinal_le
  rw [found, ordinal_injective valid' valid same]

end RenderSource.Date
