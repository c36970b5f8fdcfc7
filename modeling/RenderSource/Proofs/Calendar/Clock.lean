import RenderSource.Calendar.Moment
import RenderSource.Proofs.Calendar.Ordinal
/-!
Clocks and microseconds. A clock of years 1 to 9999 and its distance to the epoch determine each other,
and a distance that is rounded to the millisecond before it stays in those years.
-/
namespace RenderSource.Moment

def dayMicros : Int := 86400000000

/-- Distances to the epoch at which a clock of years 1 to 9999 can stand. -/
def InYears (n : Int) : Prop :=
  (1 - epochOrdinal) * dayMicros ≤ n ∧ n < (Date.lastOrdinal + 1 - epochOrdinal) * dayMicros

instance (n : Int) : Decidable (InYears n) := inferInstanceAs (Decidable (_ ∧ _))

theorem clockMicros_inYears {m : Moment} (valid : m.Valid) : InYears m.clockMicros := by
  obtain ⟨date, hour, minute, second, micro, _⟩ := valid
  have first := date.inside.2.1
  have last := date.ordinal_le
  simp only [InYears, clockMicros, secondOfDay, dayMicros, epochOrdinal, Date.lastOrdinal] at *
  omega

theorem inYears_floor {n : Int} (inside : InYears n) : InYears (n.fdiv 1000 * 1000) := by
  rw [Int.fdiv_eq_ediv_of_nonneg n (by omega)]
  simp only [InYears, dayMicros, epochOrdinal, Date.lastOrdinal] at *
  omega

theorem ofClockMicros_spec (zone : Zone) {n : Int} (inside : InYears n)
    (offset : ∀ s ∈ zone.offset?, -86400 < s ∧ s < 86400) :
    ∃ m, ofClockMicros? zone n = some m ∧ m.Valid ∧ m.zone = zone ∧ m.clockMicros = n := by
  simp only [InYears, dayMicros, epochOrdinal, Date.lastOrdinal] at inside
  have day_eq := Int.fdiv_eq_ediv_of_nonneg n (show 0 ≤ (86400000000 : Int) by omega)
  have rest_eq := Int.fmod_eq_emod_of_nonneg n (show 0 ≤ (86400000000 : Int) by omega)
  have split := Int.mul_ediv_add_emod n 86400000000
  have low := Int.emod_nonneg n (show (86400000000 : Int) ≠ 0 by omega)
  have high := Int.emod_lt_of_pos n (show 0 < (86400000000 : Int) by omega)
  simp only [ofClockMicros?, day_eq, rest_eq, epochOrdinal]
  generalize n / 86400000000 = day at *
  generalize n % 86400000000 = rest at *
  obtain ⟨date, found, valid, ordinal⟩ := @Date.ofOrdinal_spec (day + 719163).toNat
    (by omega) (by simp only [Date.lastOrdinal]; omega)
  rw [show ((719163 : Nat) : Int) = 719163 from rfl, if_neg (by omega), found]
  refine ⟨_, rfl, ⟨valid, ?_, ?_, ?_, ?_, offset⟩, rfl, ?_⟩
  · simp only; omega
  · simp only; omega
  · simp only; omega
  · simp only; omega
  · simp only [clockMicros, secondOfDay, ordinal, epochOrdinal]
    omega

theorem clockMicros_injective {m r : Moment} (valid : m.Valid) (valid' : r.Valid) (zone : m.zone = r.zone)
    (same : m.clockMicros = r.clockMicros) : m = r := by
  obtain ⟨date, hour, minute, second, micro, _⟩ := valid
  obtain ⟨date', hour', minute', second', micro', _⟩ := valid'
  simp only [clockMicros, secondOfDay] at same
  have day : m.date = r.date := Date.ordinal_injective date date' (by omega)
  rw [day] at same
  cases m
  cases r
  simp only [mk.injEq] at *
  refine ⟨day, ?_, ?_, ?_, ?_, zone⟩ <;> omega

theorem ofClockMicros_outside (zone : Zone) {n : Int} (outside : ¬ InYears n) :
    ofClockMicros? zone n = none := by
  simp only [InYears, dayMicros, epochOrdinal, Date.lastOrdinal] at outside
  have day_eq := Int.fdiv_eq_ediv_of_nonneg n (show 0 ≤ (86400000000 : Int) by omega)
  simp only [ofClockMicros?, day_eq, epochOrdinal]
  split
  · rfl
  · have late : ¬ (1 ≤ (n / 86400000000 + (719163 : Nat)).toNat ∧
        (n / 86400000000 + (719163 : Nat)).toNat ≤ Date.lastOrdinal) := by
      simp only [Date.lastOrdinal]
      omega
    rw [Date.ofOrdinal?, if_neg late]
    rfl

end RenderSource.Moment
