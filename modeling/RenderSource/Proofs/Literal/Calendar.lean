import RenderSource.Proofs.Literal.RoundTrip
/-!
The literals of dates and moments, read and evaluated. A date comes back as it was. A moment without an offset
comes back as its clock stood, cut to the millisecond and without a zone; one with an offset comes back in UTC
within the millisecond, as far as its instant falls in the years that a clock can show.
-/
namespace RenderSource

namespace Moment

def cut (m : Moment) : Moment := { m with microsecond := m.microsecond / 1000 * 1000, zone := .naive }

theorem cut_valid {m : Moment} (valid : m.Valid) : m.cut.Valid := by
  obtain ⟨date, hour, minute, second, micro, _⟩ := valid
  refine ⟨date, hour, minute, second, ?_, ?_⟩
  · simp only [cut]
    omega
  · intro s offset
    cases offset

theorem cut_clockMicros (m : Moment) : m.cut.clockMicros = m.clockMicros - m.clockMicros % 1000 := by
  simp only [cut, clockMicros, secondOfDay]
  omega

theorem micros_unplaced {m : Moment} (unplaced : m.zone.offset? = none) : m.micros = m.clockMicros := by
  simp [micros, unplaced]

def term (m : Moment) : Term := .sum (Plain.epochTerm m.zone.offset?.isSome) (Plain.spanTerm m.millis)

theorem readAll_literal (m : Moment) : Term.readAll m.literal = .ok m.term := by
  rw [← Plain.spelled_moment]
  exact Term.readAll_spelled (.sum (Plain.emitted_epochTerm _) (Plain.emitted_spanTerm _))

variable {e : Env} {st : Store} (knows : e.KnowsCalendar st.frames)

include knows

theorem evaluate_term (m : Moment) : m.term.evaluate e st =
    (match ofClockMicros? m.zone.rebuilt (m.millis * 1000) with
      | some r => .ok (.moment r)
      | none => .error .outOfRange, st) := Plain.evaluate_moment knows rfl _ _

theorem evaluate_inside {m : Moment} (inside : InYears m.micros) :
    ∃ r, m.term.evaluate e st = (.ok (.moment r), st) ∧ r.Valid ∧ r.zone = m.zone.rebuilt ∧
      r.clockMicros = m.micros - m.micros % 1000 := by
  obtain ⟨r, found, valid, zone, clock⟩ := rebuilt_spec inside
  refine ⟨r, ?_, valid, zone, clock⟩
  rw [evaluate_term knows, found]

theorem evaluate_outside {m : Moment} (outside : ¬ InYears (m.millis * 1000)) :
    m.term.evaluate e st = (.error .outOfRange, st) := by
  rw [evaluate_term knows, ofClockMicros_outside _ outside]

theorem evaluate_unplaced {m : Moment} (valid : m.Valid) (unplaced : m.zone.offset? = none) :
    m.term.evaluate e st = (.ok (.moment m.cut), st) := by
  have micros := micros_unplaced unplaced
  have inside : InYears m.micros := by
    rw [micros]
    exact clockMicros_inYears valid
  obtain ⟨r, found, valid', zone, clock⟩ := evaluate_inside knows inside
  have naive : r.zone = m.cut.zone := by
    rw [zone, Zone.rebuilt, unplaced]
    rfl
  have same : r = m.cut := by
    apply clockMicros_injective valid' (cut_valid valid) naive
    rw [clock, cut_clockMicros, micros]
  rw [found, same]

theorem evaluate_placed {m : Moment} (placed : m.zone.offset? ≠ none) (inside : InYears m.micros) :
    ∃ r, m.term.evaluate e st = (.ok (.moment r), st) ∧ r.Valid ∧ r.zone = .fixed 0 ∧
      r.micros ≤ m.micros ∧ m.micros < r.micros + 1000 := by
  obtain ⟨r, found, valid, zone, clock⟩ := evaluate_inside knows inside
  have utc : r.zone = .fixed 0 := by
    rw [zone, Zone.rebuilt, if_pos (Option.isSome_iff_ne_none.mpr placed)]
  have micros : r.micros = r.clockMicros := by simp [Moment.micros, utc, Zone.offset?]
  refine ⟨r, found, valid, utc, ?_, ?_⟩ <;> omega

end Moment

/-- The literals of dates and moments come back when they are read and evaluated, as long as the instant of a moment
with an offset falls in years 1 to 9999. -/
theorem calendar_rebuilt {e : Env} {st : Store} (knows : e.KnowsCalendar st.frames) :
    (∀ d : Date, d.Valid → Date.ofOrdinal? d.ordinal = some d ∧
      ∃ t term, (Value.date d).literal st = .ok t ∧ Term.readAll t = .ok term ∧
        term.evaluate e st = (.ok (.date d), st)) ∧
    ∀ m : Moment, m.Valid → (m.zone.offset? ≠ none → Moment.InYears m.micros) →
      ∃ t term r, (Value.moment m).literal st = .ok t ∧ Term.readAll t = .ok term ∧
        term.evaluate e st = (.ok (.moment r), st) ∧ r.Valid ∧ (m.zone.offset? = none → r = m.cut) ∧
        (m.zone.offset? ≠ none → r.zone = .fixed 0 ∧ r.micros ≤ m.micros ∧ m.micros < r.micros + 1000) := by
  constructor
  · intro d valid
    have found := Date.ofOrdinal_ordinal valid
    refine ⟨found, d.literal, Plain.dateTerm d.ordinal, rfl, ?_, ?_⟩
    · rw [← Plain.spelled_dateTerm]
      exact Term.readAll_spelled (Plain.emitted_dateTerm d.ordinal)
    · rw [Plain.evaluate_dateTerm knows rfl, Plain.build, found]
      rfl
  · intro m valid inside
    by_cases unplaced : m.zone.offset? = none
    · refine ⟨m.literal, m.term, m.cut, rfl, m.readAll_literal, ?_, Moment.cut_valid valid, fun _ => rfl, ?_⟩
      · exact Moment.evaluate_unplaced knows valid unplaced
      · intro placed
        exact absurd unplaced placed
    · obtain ⟨r, found, valid', utc, bounds⟩ := Moment.evaluate_placed knows unplaced (inside unplaced)
      refine ⟨m.literal, m.term, r, rfl, m.readAll_literal, found, valid', ?_, fun _ => ⟨utc, bounds⟩⟩
      intro naive
      exact absurd naive unplaced

/-- Half a millisecond before the epoch by a clock east of UTC. -/
def eastern : Moment := ⟨⟨1969, 12, 31⟩, 23, 59, 59, 999500, .fixed 19800⟩

theorem calendar_rebuilt_eastern : eastern.Valid ∧ Moment.InYears eastern.micros ∧
    (∃ t term, (Value.date ⟨2024, 2, 29⟩).literal .empty = .ok t ∧ Term.readAll t = .ok term ∧
      term.evaluate Env.calendar .empty = (.ok (.date ⟨2024, 2, 29⟩), .empty)) ∧
    ∃ t term r, (Value.moment eastern).literal .empty = .ok t ∧ Term.readAll t = .ok term ∧
      term.evaluate Env.calendar .empty = (.ok (.moment r), .empty) ∧ r.zone = .fixed 0 ∧
      r.micros ≤ eastern.micros ∧ eastern.micros < r.micros + 1000 := by
  have leap : (⟨2024, 2, 29⟩ : Date).Valid := by
    unfold Date.Valid
    decide
  have valid : eastern.Valid := by
    refine ⟨by unfold Date.Valid; decide, by decide, by decide, by decide, by decide, ?_⟩
    intro s offset
    cases offset
    decide
  have inside : Moment.InYears eastern.micros := by decide
  obtain ⟨dates, moments⟩ := calendar_rebuilt (Env.calendar_knows Store.empty.frames)
  obtain ⟨t, term, r, written, read, found, _, _, utc⟩ := moments eastern valid fun _ => inside
  exact ⟨valid, inside, (dates _ leap).2, t, term, r, written, read, found, utc (by decide)⟩

/-- The first hour of year 1 by a clock an hour east of UTC. -/
def firstHour : Moment := ⟨⟨1, 1, 1⟩, 0, 0, 0, 0, .fixed 3600⟩

/-- Its instant falls before year 1, so that its literal is written and read but does not evaluate. -/
theorem calendar_rebuilt_fails : firstHour.Valid ∧
    ∃ t term, (Value.moment firstHour).literal .empty = .ok t ∧ Term.readAll t = .ok term ∧
      term.evaluate Env.calendar .empty = (.error .outOfRange, .empty) := by
  have valid : firstHour.Valid := by
    refine ⟨by unfold Date.Valid; decide, by decide, by decide, by decide, by decide, ?_⟩
    intro s offset
    cases offset
    decide
  refine ⟨valid, firstHour.literal, firstHour.term, rfl, firstHour.readAll_literal, ?_⟩
  exact Moment.evaluate_outside (Env.calendar_knows Store.empty.frames) (by decide)

end RenderSource
