import RenderSource.Proofs.Text.Fitness
import RenderSource.Snippet
/-!
Lines of a shown source against the rows of the source itself. No control character stands in a row, so three
marks alone can end a line within one. Before the first row with such a mark each line is the row of its number,
and a snippet shows rows; only an empty row at the end of the source is no line.
-/
namespace RenderSource

namespace Text

/-- The marks that end a line of a shown source, and yet can stand in a row. -/
def marksInRows : List Nat := [0x85, 0x2028, 0x2029]

def Unbroken (t : Text) : Prop := ∀ c ∈ t, isLineEnd c = false

theorem Fit.unbroken {t : Text} (fit : t.Fit) (unmarked : ∀ c ∈ t, c.val ∉ marksInRows) : t.Unbroken := by
  intro c member
  have visible : 0x20 ≤ c.val := by
    have fits := fit c member
    simp only [CodePoint.isUnfit, Bool.or_eq_false_iff, decide_eq_false_iff_not, Nat.not_lt] at fits
    exact fits.1.2
  have other := unmarked c member
  simp only [marksInRows, List.mem_cons, List.not_mem_nil, or_false, not_or] at other
  simp only [isLineEnd, List.mem_cons, List.not_mem_nil, or_false, decide_eq_false_iff_not, not_or]
  omega

variable {r t : Text} {rs : List Text}

theorem linesAfter_step {c : CodePoint} (inside : isLineEnd c = false) (line : Text) :
    linesAfter line (c :: t) = linesAfter (c :: line) t := by
  have other : c ≠ .scalar '\r' := by
    rintro rfl
    cases inside
  rw [linesAfter, inside]
  · rfl
  · rintro u rfl
    exact absurd rfl other

theorem linesAfter_row (whole : r.Unbroken) (line : Text) :
    linesAfter line (r ++ newline :: t) = (line.reverse ++ r) :: linesAfter [] t := by
  induction r generalizing line with
  | nil =>
    rw [List.nil_append, List.append_nil, linesAfter]
    · rfl
    · exact nofun
  | cons c r ih =>
    obtain ⟨here, later⟩ := List.forall_mem_cons.mp whole
    rw [List.cons_append, linesAfter_step here, ih later, List.reverse_cons, List.append_assoc]
    rfl

theorem linesAfter_last (whole : r.Unbroken) (line : Text) :
    linesAfter line r = if (line.reverse ++ r).isEmpty then [] else [line.reverse ++ r] := by
  induction r generalizing line with
  | nil => simp [linesAfter]
  | cons c r ih =>
    obtain ⟨here, later⟩ := List.forall_mem_cons.mp whole
    rw [linesAfter_step here, ih later, List.reverse_cons, List.append_assoc]
    rfl

theorem lines_rows (whole : r.Unbroken) (s : Text) : lines (ofRows (r :: s :: rs)) = r :: lines (ofRows (s :: rs)) := by
  rw [lines, ofRows_cons_cons, linesAfter_row whole]
  rfl

theorem lines_row (whole : r.Unbroken) : lines (ofRows [r]) = if r.isEmpty then [] else [r] :=
  linesAfter_last whole []

theorem row_of_line {n i : Nat} (whole : ∀ r ∈ rs.take n, r.Unbroken) (within : i < n)
    (shown : (lines (ofRows rs))[i]? = some t) : rs[i]? = some t := by
  induction rs generalizing n i with
  | nil => cases shown
  | cons r rs ih =>
    obtain ⟨n, rfl⟩ := Nat.exists_eq_succ_of_ne_zero (Nat.ne_zero_of_lt within)
    obtain ⟨here, later⟩ := List.forall_mem_cons.mp whole
    cases rs with
    | nil =>
      rw [lines_row here] at shown
      split at shown
      · cases shown
      · exact shown
    | cons s rs =>
      rw [lines_rows here] at shown
      cases i with
      | zero => exact shown
      | succ i => exact ih later (Nat.lt_of_succ_lt_succ within) shown

/-- A row is the line of its number, unless it is empty. -/
theorem line_of_row {n i : Nat} (whole : ∀ r ∈ rs.take n, r.Unbroken) (within : i < n) (some_text : t ≠ [])
    (row : rs[i]? = some t) : (lines (ofRows rs))[i]? = some t := by
  induction rs generalizing n i with
  | nil => cases row
  | cons r rs ih =>
    obtain ⟨n, rfl⟩ := Nat.exists_eq_succ_of_ne_zero (Nat.ne_zero_of_lt within)
    obtain ⟨here, later⟩ := List.forall_mem_cons.mp whole
    cases rs with
    | nil =>
      cases i with
      | zero =>
        cases row
        rw [lines_row here, if_neg (by simpa using some_text)]
        rfl
      | succ i => cases row
    | cons s rs =>
      rw [lines_rows here]
      cases i with
      | zero => exact row
      | succ i => exact ih later (Nat.lt_of_succ_lt_succ within) row

end Text

namespace Snippet

variable {source : Text} {n context k : Nat} {column : Option Int}

theorem mem_lines {m : Int} {t : Text} :
    (m, t) ∈ (ofSource source n context column).lines ↔
      ∃ i : Nat, m = i + 1 ∧ source.lines[i]? = some t ∧ n ≤ i + 1 + context ∧ i < n + context := by
  simp only [ofSource, List.map_map, List.mem_map, List.mem_range, Function.comp_apply, Prod.mk.injEq]
  constructor
  · rintro ⟨j, below, rfl, rfl⟩
    have inside : (max 0 ((n : Int) - 1 - context) + j).toNat < source.lines.length := by omega
    refine ⟨(max 0 ((n : Int) - 1 - context) + j).toNat, by omega, ?_, by omega, by omega⟩
    rw [List.getD_eq_getElem?_getD, List.getElem?_eq_getElem inside, Option.getD_some]
  · rintro ⟨i, rfl, shown, near, below⟩
    have inside := (List.getElem?_eq_some_iff.mp shown).1
    have same : (max 0 ((n : Int) - 1 - context) + ((i - (n - 1 - context) : Nat) : Int)).toNat = i := by omega
    refine ⟨i - (n - 1 - context), by omega, by omega, ?_⟩
    rw [same, List.getD_eq_getElem?_getD, shown, Option.getD_some]

variable {rs : List Text} (whole : ∀ r ∈ rs.take (n + context), r.Unbroken)

include whole

theorem row_of_mem {m : Int} {t : Text} (shown : (m, t) ∈ (ofSource (Text.ofRows rs) n context column).lines) :
    ∃ i : Nat, m = i + 1 ∧ rs[i]? = some t := by
  obtain ⟨i, number, line, _, below⟩ := mem_lines.mp shown
  exact ⟨i, number, Text.row_of_line whole below line⟩

theorem mem_of_row {t : Text} (number : n = k + 1) (some_text : t ≠ []) (row : rs[k]? = some t) :
    ((n : Int), t) ∈ (ofSource (Text.ofRows rs) n context column).lines := by
  refine mem_lines.mpr ⟨k, by omega, Text.line_of_row whole (by omega) some_text row, by omega, by omega⟩

end Snippet

end RenderSource
