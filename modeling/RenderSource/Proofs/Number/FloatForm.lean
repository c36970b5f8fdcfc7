import RenderSource.Proofs.Number.FloatReading
/-!
The forms that the text of a double without a sign has: figures around a point, or figures with a power
of ten.
-/
namespace RenderSource

inductive FloatForm : Text → Prop
  | pointed {ds gs : List Nat} (whole : ∀ d ∈ ds, d < 10) (part : ∀ d ∈ gs, d < 10) (some : ds ≠ []) :
      FloatForm (ds.map Decimal.digitText ++ .scalar '.' :: gs.map Decimal.digitText)
  | power {f : Nat} {hs : List Nat} {sign : Char} (first : f < 10) (figures : ∀ d ∈ hs, d < 10)
      (some : hs ≠ []) (signed : sign = '-' ∨ sign = '+') :
      FloatForm (Decimal.digitText f :: .scalar 'e' :: .scalar sign :: hs.map Decimal.digitText)
  | pointedPower {f : Nat} {gs hs : List Nat} {sign : Char} (first : f < 10) (part : ∀ d ∈ gs, d < 10)
      (figures : ∀ d ∈ hs, d < 10) (some : hs ≠ []) (signed : sign = '-' ∨ sign = '+') :
      FloatForm (Decimal.digitText f :: .scalar '.' ::
        (gs.map Decimal.digitText ++ .scalar 'e' :: .scalar sign :: hs.map Decimal.digitText))

theorem FloatForm.front {t : Text} (form : FloatForm t) :
    ∃ d v, d < 10 ∧ t = Decimal.digitText d :: v := by
  cases form with
  | @pointed ds gs whole part some =>
    obtain ⟨d, ds, rfl⟩ := List.exists_cons_of_ne_nil some
    exact ⟨d, _, whole d (by simp), rfl⟩
  | power first figures some signed => exact ⟨_, _, first, rfl⟩
  | pointedPower first part figures some signed => exact ⟨_, _, first, rfl⟩

namespace FloatLayout

theorem form_point {ds : List Nat} (small : ∀ d ∈ ds, d < 10) (some : ds ≠ []) (n : Int) :
    FloatForm (point (ds.map Decimal.digitText) n) := by
  have zeros : ∀ k, ∀ d ∈ List.replicate k 0, d < 10 := fun k d member => Term.zeros_small member
  unfold point
  simp only [Term.replicate_zero]
  split
  · have part : ∀ d ∈ List.replicate (-n).toNat 0 ++ ds, d < 10 := by
      intro d member
      exact (List.mem_append.mp member).elim (zeros _ d) (small d)
    have form := @FloatForm.pointed [0] _ (by simp) part (by simp)
    rw [List.map_append] at form
    exact form
  · rename_i before
    rw [← List.map_append]
    generalize filled : ds ++ List.replicate (n - (ds.map Decimal.digitText).length).toNat 0 = whole
    have whole_small : ∀ d ∈ whole, d < 10 := by
      intro d member
      rw [← filled] at member
      exact (List.mem_append.mp member).elim (small d) (zeros _ d)
    have front : whole.take n.toNat ≠ [] := by
      rw [Ne, List.take_eq_nil_iff, ← filled, List.append_eq_nil_iff]
      exact fun none => none.elim (by omega) fun h => some h.1
    have front_small : ∀ d ∈ whole.take n.toNat, d < 10 :=
      fun d member => whole_small d (List.mem_of_mem_take member)
    rw [← List.map_take, ← List.map_drop]
    split
    · have form := @FloatForm.pointed _ [0] front_small (by simp) front
      have zero : Decimal.digitText 0 = .scalar '0' := rfl
      simpa [wording, Text.ofString, zero] using form
    · have form := @FloatForm.pointed _ (whole.drop n.toNat) front_small
        (fun d member => whole_small d (List.mem_of_mem_drop member)) front
      simpa [wording, Text.ofString] using form

theorem form_scientific {f : Nat} {gs : List Nat} (first : f < 10) (part : ∀ d ∈ gs, d < 10) (e : Int) :
    FloatForm (floatLayout.scientific ((f :: gs).map Decimal.digitText) e) := by
  have sign : ∃ s, (s = '-' ∨ s = '+') ∧ wording (if e < 0 then "e-" else "e+") =
      [.scalar 'e', .scalar s] := by
    split
    · exact ⟨'-', .inl rfl, rfl⟩
    · exact ⟨'+', .inr rfl, rfl⟩
  obtain ⟨s, signed, mark⟩ := sign
  have figures : ∀ d ∈ List.replicate (2 - (Decimal.digits 10 e.natAbs).length) 0 ++
      Decimal.digits 10 e.natAbs, d < 10 := by
    intro d member
    exact (List.mem_append.mp member).elim Term.zeros_small (Decimal.digits_lt (by omega) _ d)
  have some : List.replicate (2 - (Decimal.digits 10 e.natAbs).length) 0 ++
      Decimal.digits 10 e.natAbs ≠ [] := by
    simp [Decimal.digits_ne_nil]
  unfold scientific
  rw [mark, show floatLayout.exponentFigures = 2 from rfl, Decimal.padded_eq]
  cases gs with
  | nil => exact .power first figures some signed
  | cons g gs =>
    have form := FloatForm.pointedPower first part figures some signed
    simpa [wording, Text.ofString] using form

theorem ite_form {c : Prop} [Decidable c] {s t : Text} (first : FloatForm s) (second : FloatForm t) :
    FloatForm (if c then s else t) := by
  split
  · exact first
  · exact second

theorem form_text {x : Binary64} (plain : x.negative = false) (finite : x.isFinite = true) :
    FloatForm x.text := by
  rw [text_eq plain finite]
  split
  · exact @FloatForm.pointed [0] [0] (by simp) (by simp) (by simp)
  · generalize Shortest.ofBinary64 x = d
    have small := Decimal.digits_lt (by omega : 2 ≤ 10) d.digits
    have some := Decimal.digits_ne_nil 10 d.digits
    have point_form := fun n => form_point small some n
    obtain ⟨f, fs, parts⟩ := List.exists_cons_of_ne_nil some
    rw [parts] at small
    have scientific_form := fun e => form_scientific (small f (by simp))
      (fun g member => small g (List.mem_cons_of_mem f member)) e
    rw [← parts] at scientific_form
    exact ite_form (point_form _) (scientific_form _)

end FloatLayout

end RenderSource
