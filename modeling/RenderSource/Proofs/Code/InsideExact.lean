import RenderSource.Proofs.Code.InsideRows
/-!
The rows that the scanner finds inside strings are exactly those that begin in a string by a scan that
knows comments, quotes and backslashes alone. The text has to close its strings, to have carriage
returns before newlines only and to go back to the columns of blocks around.
-/
namespace RenderSource

namespace Text

/-- Whether every carriage return of a text has a newline behind it. -/
def pairsReturns : Text → Bool
  | [] => true
  | c :: t => (c ≠ .scalar '\r' || t.head? = some newline) && pairsReturns t

/-- Whether each row that goes back goes back to a column where a block around it stands. -/
def isAligned (t : Text) : Bool := Token.aligned 1 (Token.rowsWithEnds t) {}

def above (t : Text) (n : Nat) : Text := ((t.rows.take (n - 1)).map (· ++ [newline])).flatten

/-- Whether row `n` begins inside a string. -/
def BeginsInString (t : Text) (n : Nat) : Prop :=
  ∃ m, Region.after .code (t.above n) = some (.string m)

theorem rows_ne_nil (t : Text) : t.rows ≠ [] := by
  cases t with
  | nil => simp [rows]
  | cons c t =>
    rw [rows]
    split
    · simp
    · split <;> simp

end Text

namespace Token

theorem withEnds_cons (r : Text) {rs : List Text} (some : rs ≠ []) :
    withEnds (r :: rs) = (r ++ [newline]) :: withEnds rs := withEnds_append [r] some

theorem flatten_withEnds (t : Text) : (withEnds t.rows).flatten = t := by
  induction t with
  | nil => rfl
  | cons c t ih =>
    rw [Text.rows]
    split
    · rename_i ends
      rw [withEnds_cons [] (Text.rows_ne_nil t), List.flatten_cons, ih, ends]
      rfl
    · obtain ⟨r, rs, split⟩ := List.exists_cons_of_ne_nil (Text.rows_ne_nil t)
      rw [split] at ih ⊢
      cases rs with
      | nil =>
        cases r with
        | nil => rw [← ih]; rfl
        | cons d r => rw [← ih]; rfl
      | cons s ss =>
        rw [withEnds_cons r (by simp)] at ih
        dsimp only
        rw [withEnds_cons (c :: r) (by simp), ← ih]
        rfl

end Token

theorem Token.length_withEnds (rs : List Text) : (withEnds rs).length ≤ rs.length := by
  fun_induction withEnds rs with
  | case1 => exact Nat.le_refl _
  | case2 last none => exact Nat.zero_le _
  | case3 last some => exact Nat.le_refl _
  | case4 r rs _ ih => exact Nat.succ_le_succ ih

theorem RowLike.cons {c : CodePoint} {t : Text} (like : RowLike t) (inRow : c ≠ newline)
    (paired : c = .scalar '\r' → t.head? = some newline) : RowLike (c :: t) := by
  refine ⟨fun a b split => ?_, fun a b split => ?_⟩
  · cases a with
    | nil => exact absurd (List.cons.inj split).1 inRow
    | cons d a => exact like.ends a b (List.cons.inj split).2
  · cases a with
    | nil =>
      obtain ⟨returns, rfl⟩ := List.cons.inj split
      exact paired returns
    | cons d a => exact like.paired a b (List.cons.inj split).2

theorem rowLike_nil : RowLike [] := ⟨fun a b split => by simp at split, fun a b split => by simp at split⟩

theorem rowLike_newline : RowLike [newline] := by
  refine ⟨fun a b split => ?_, fun a b split => ?_⟩ <;> cases a <;> simp_all [newline]

namespace Token

theorem EndedRows.push {c : CodePoint} {r : Text} {rs : List Text} (rows : EndedRows (r :: rs))
    (inRow : c ≠ newline) (paired : c = .scalar '\r' → r.head? = some newline) :
    EndedRows ((c :: r) :: rs) := by
  cases rows with
  | last like => exact .last (like.cons inRow paired)
  | cons like ends later =>
    refine .cons (like.cons inRow paired) ?_ later
    rw [List.getLast?_cons, ends]
    rfl

theorem endedRows {t : Text} (paired : t.pairsReturns = true) : EndedRows (withEnds t.rows) := by
  induction t with
  | nil => exact .nil
  | cons c t ih =>
    rw [Text.pairsReturns, Bool.and_eq_true] at paired
    have whole := flatten_withEnds t
    have later := ih paired.2
    have next : c = .scalar '\r' → t.head? = some newline := by
      have either : c ≠ .scalar '\r' ∨ t.head? = some newline := by simpa using paired.1
      exact either.resolve_left ∘ not_not_intro
    rw [Text.rows]
    split
    · rw [withEnds_cons [] (Text.rows_ne_nil t)]
      exact .cons rowLike_newline rfl later
    · rename_i inRow
      obtain ⟨r, rs, split⟩ := List.exists_cons_of_ne_nil (Text.rows_ne_nil t)
      rw [split] at whole later ⊢
      cases rs with
      | nil =>
        cases r with
        | nil =>
          rw [← whole] at next
          exact .last (rowLike_nil.cons inRow next)
        | cons d r =>
          rw [← whole] at next
          exact later.push inRow next
      | cons s ss =>
        rw [withEnds_cons r (by simp)] at later whole
        dsimp only
        rw [withEnds_cons (c :: r) (by simp)]
        refine later.push inRow fun returns => ?_
        rw [← next returns, ← whole]
        cases r <;> rfl

end Token

namespace Text

open Token

theorem above_row {t : Text} {k : Nat} (short : k < t.rows.length) :
    t.above (k + 1) = ((withEnds t.rows).take k).flatten := by
  have split : t.rows.take k ++ t.rows.drop k = t.rows := List.take_append_drop k t.rows
  have some : t.rows.drop k ≠ [] := by simpa using short
  have length : ((t.rows.take k).map (· ++ [newline])).length = k := by simp; omega
  rw [above, Nat.add_sub_cancel]
  conv_rhs => rw [← split]
  rw [withEnds_append _ some, List.take_left' length]

theorem above_end {t : Text} {k : Nat} (long : t.rows.length ≤ k) : t.above (k + 1) = t ++ [newline] := by
  have whole := flatten_withEnds t
  rw [above, Nat.add_sub_cancel, List.take_of_length_le long]
  rcases List.eq_nil_or_concat' t.rows with none | ⟨front, last, split⟩
  · exact absurd none (rows_ne_nil t)
  · have flat : (withEnds [last]).flatten = last := by cases last <;> simp [withEnds]
    rw [split] at whole ⊢
    rw [withEnds_append front (by simp), List.flatten_append, flat] at whole
    rw [List.map_append, List.flatten_append]
    conv_rhs => rw [← whole]
    simp

end Text

section

variable {t : Text} (closed : t.ClosesStrings)

include closed

theorem Token.along_text (paired : t.pairsReturns = true) (aligned : t.isAligned = true) :
    Along 1 (withEnds t.rows) {} .code := by
  refine ⟨endedRows paired, fun _ => ⟨trivial, by decide⟩, ⟨rfl, rfl⟩, (fun o none => by cases none), ?_, ?_⟩
  · rw [flatten_withEnds]
    exact closed
  · rw [← rowsWithEnds_eq]
    exact aligned

theorem insideRows_found (paired : t.pairsReturns = true) (aligned : t.isAligned = true) (n : Nat) :
    n ∈ insideRows t ↔
      ∃ k, n = 1 + k ∧ ∃ m, Region.after .code ((Token.withEnds t.rows).take k).flatten = some (.string m) := by
  rw [insideRows_eq, (Token.along_text closed paired aligned).found n]
  exact or_iff_right (Token.spans_none 1 n)

theorem Text.beginsInString_row (k : Nat) : t.BeginsInString (k + 1) ↔
    ∃ m, Region.after .code ((Token.withEnds t.rows).take k).flatten = some (.string m) := by
  rw [BeginsInString]
  rcases Nat.lt_or_ge k t.rows.length with short | long
  · rw [above_row short]
  · -- behind the text no string is open, so no row begins in one there
    have all := List.take_of_length_le ((Token.length_withEnds t.rows).trans long)
    have ended := Region.after_closed_row (r := .code) trivial t closed
    rw [all, above_end long, ended, Token.flatten_withEnds]
    refine iff_of_false ?_ ?_
    · rintro ⟨m, string⟩
      cases string
    · rintro ⟨m, string⟩
      rw [ClosesStrings, string] at closed
      cases closed

/-- The scanner works row by row and keeps brackets, blocks and joined rows; the scan by regions goes from
code point to code point and keeps nothing but the region. -/
theorem Text.beginsInString_iff (paired : t.pairsReturns = true) (aligned : t.isAligned = true) (n : Nat) :
    t.BeginsInString n ↔ n ∈ insideRows t := by
  rw [insideRows_found closed paired aligned]
  cases n with
  | zero =>
    refine iff_of_false ?_ ?_
    · rintro ⟨m, string⟩
      rw [above, Nat.zero_sub, List.take_zero, List.map_nil, List.flatten_nil, Region.after_nil] at string
      cases string
    · rintro ⟨k, zero, _⟩
      omega
  | succ k =>
    rw [beginsInString_row closed]
    constructor
    · intro string
      exact ⟨k, by omega, string⟩
    · rintro ⟨j, same, string⟩
      rwa [show k = j by omega]

end

theorem insideRows_exact {t : Text} (closed : t.ClosesStrings) (paired : t.pairsReturns = true)
    (aligned : t.isAligned = true) (n : Nat) : n ∈ insideRows t ↔ t.BeginsInString n :=
  (Text.beginsInString_iff closed paired aligned n).symm

def quotedRows : Text :=
  wording "if x: # it's\n  y = ('a\\\n b', \"\"\"\nfoo\n\"\"\")\nz = 1\n"

theorem insideRows_exact_quotedRows : quotedRows.ClosesStrings ∧ quotedRows.pairsReturns = true ∧
    quotedRows.isAligned = true ∧ (4 ∈ insideRows quotedRows ↔ quotedRows.BeginsInString 4) := by
  have closed : quotedRows.ClosesStrings := by decide +kernel
  have paired : quotedRows.pairsReturns = true := by decide
  have aligned : quotedRows.isAligned = true := by decide +kernel
  exact ⟨closed, paired, aligned, insideRows_exact closed paired aligned 4⟩

example : insideRows quotedRows = [3, 4, 5] := by decide +kernel

end RenderSource
