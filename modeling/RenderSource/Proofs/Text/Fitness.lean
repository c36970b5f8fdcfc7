import RenderSource.Number.FloatText
import RenderSource.Proofs.Text.Quoting
import RenderSource.Text.Identifier
/-!
Text that a row of source can hold: no control character, no delete character and no surrogate. Names,
numbers and quoted texts are of this kind, and so is what is put together of them.
-/
namespace RenderSource

theorem Ranges.has_inside {ranges : List (Nat × Nat)} {n : Nat} (found : has ranges n = true) :
    ∃ r ∈ ranges, r.1 ≤ n ∧ n ≤ r.2 := by
  induction ranges with
  | nil => cases found
  | cons r ranges ih =>
    obtain ⟨lo, hi⟩ := r
    rw [has] at found
    split at found
    · cases found
    · rename_i reached
      split at found
      · rename_i inside
        exact ⟨(lo, hi), by simp, Nat.le_of_not_lt reached, inside⟩
      · obtain ⟨r, member, bounds⟩ := ih found
        exact ⟨r, List.mem_cons_of_mem _ member, bounds⟩

namespace CodePoint

theorem nameRanges_fit : ∀ r ∈ identifierStartRanges ++ identifierOnlyContinueRanges,
    0x20 < r.1 ∧ (r.2 < 0x7F ∨ 0x7F < r.1) ∧ (r.2 < 0xD800 ∨ 0xE000 ≤ r.1) := by
  decide +kernel

theorem name_range {c : CodePoint} (part : c.continuesName = true) :
    ∃ r ∈ identifierStartRanges ++ identifierOnlyContinueRanges, r.1 ≤ c.val ∧ c.val ≤ r.2 := by
  rcases Bool.or_eq_true_iff.mp part with start | other
  · obtain ⟨r, member, bounds⟩ := Ranges.has_inside start
    exact ⟨r, List.mem_append_left _ member, bounds⟩
  · obtain ⟨r, member, bounds⟩ := Ranges.has_inside other
    exact ⟨r, List.mem_append_right _ member, bounds⟩

theorem name_fit {c : CodePoint} (part : c.continuesName = true) :
    c.isUnfit = false ∧ 0x20 < c.val := by
  obtain ⟨r, member, low, high⟩ := name_range part
  obtain ⟨above, delete, surrogates⟩ := nameRanges_fit r member
  have whole : c.isSurrogate = false := by
    cases half : c.isSurrogate with
    | false => rfl
    | true =>
      have := val_surrogate half
      omega
  have visible : ¬ c.val < 0x20 := by omega
  have other : c.val ≠ 0x7F := by omega
  exact ⟨by simp [isUnfit, whole, visible, other], by omega⟩

end CodePoint

namespace Text

def Fit (t : Text) : Prop := ∀ c ∈ t, c.isUnfit = false

instance (t : Text) : Decidable t.Fit := inferInstanceAs (Decidable (∀ c ∈ t, c.isUnfit = false))

theorem fit_append {s t : Text} (first : s.Fit) (second : t.Fit) : (s ++ t).Fit := by
  intro c member
  rcases List.mem_append.mp member with front | back
  · exact first c front
  · exact second c back

theorem fit_joinWith {sep : Text} (between : sep.Fit) {ts : List Text} (each : ∀ t ∈ ts, t.Fit) :
    (joinWith sep ts).Fit := by
  induction ts with
  | nil => intro c member; cases member
  | cons t ts ih =>
    have later := ih fun u member => each u (List.mem_cons_of_mem t member)
    cases ts with
    | nil => exact each t (by simp)
    | cons u us => exact fit_append (fit_append (each t (by simp)) between) later

theorem Fit.no_newline {t : Text} (fit : t.Fit) : newline ∉ t := by
  intro member
  have := fit newline member
  rw [CodePoint.newline_unfit] at this
  cases this

theorem fit_of_isIdentifier {n : Text} (named : n.isIdentifier = true) : n.Fit := by
  cases n with
  | nil => cases named
  | cons c t =>
    obtain ⟨start, later⟩ := Bool.and_eq_true_iff.mp named
    intro d member
    rcases List.mem_cons.mp member with rfl | inside
    · exact (CodePoint.name_fit (by simp [CodePoint.continuesName, start])).1
    · exact (CodePoint.name_fit (List.all_eq_true.mp later d inside)).1

theorem fit_zeros (n : Nat) : Fit (List.replicate n (.scalar '0')) := by
  intro c member
  rw [List.eq_of_mem_replicate member]
  decide

theorem fit_blanks (n : Nat) : (blanks n).Fit := by
  intro c member
  rw [List.eq_of_mem_replicate member]
  decide

theorem fit_ofNat (n : Nat) : (Decimal.ofNat n).Fit := by
  intro c member
  obtain ⟨d, figure, rfl⟩ := List.mem_map.mp member
  have := Decimal.digits_lt (by omega) n d figure
  exact digitText_fit d (by omega)

theorem fit_ofInt (n : Int) : (Decimal.ofInt n).Fit := by
  cases n with
  | ofNat n => exact fit_ofNat n
  | negSucc n => exact fit_append (by decide) (fit_ofNat (n + 1))

theorem fit_take {t : Text} (fit : t.Fit) (n : Nat) : Fit (t.take n) :=
  fun c member => fit c (List.mem_of_mem_take member)

theorem fit_drop {t : Text} (fit : t.Fit) (n : Nat) : Fit (t.drop n) :=
  fun c member => fit c (List.mem_of_mem_drop member)

theorem fit_point {figures : Text} (fit : figures.Fit) (n : Int) :
    (FloatLayout.point figures n).Fit := by
  unfold FloatLayout.point
  dsimp only
  split
  · exact fit_append (fit_append (by decide) (fit_zeros _)) fit
  · have whole := fit_append fit (fit_zeros (n - figures.length).toNat)
    refine fit_append (fit_append (fit_take whole _) (by decide)) ?_
    split
    · decide
    · exact fit_drop whole _

theorem fit_scientific {figures : Text} (l : FloatLayout) (fit : figures.Fit) (e : Int) :
    (l.scientific figures e).Fit := by
  unfold FloatLayout.scientific
  dsimp only
  have rest : Fit (if (figures.drop 1).isEmpty then [] else wording "." ++ figures.drop 1) := by
    split
    · decide
    · exact fit_append (by decide) (fit_drop fit 1)
  have mark : (wording (if e < 0 then "e-" else "e+")).Fit := by
    split <;> decide
  have power : (Decimal.padded l.exponentFigures e.natAbs).Fit :=
    fit_append (fit_zeros _) (fit_ofNat _)
  exact fit_append (fit_append (fit_append (fit_take fit 1) rest) mark) power

theorem fit_float (x : Binary64) : x.text.Fit := by
  have front : (FloatLayout.sign x).Fit := by
    unfold FloatLayout.sign
    split <;> decide
  unfold Binary64.text FloatLayout.text
  split
  · decide
  · split
    · exact fit_append front (by decide)
    · split
      · exact fit_append front (by decide)
      · refine fit_append front ?_
        unfold FloatLayout.write
        dsimp only
        split
        · exact fit_point (fit_ofNat _) _
        · exact fit_scientific _ (fit_ofNat _) _

end Text

end RenderSource
