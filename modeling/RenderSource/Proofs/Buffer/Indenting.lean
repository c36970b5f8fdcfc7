import RenderSource.Proofs.Code.MovedRows
import RenderSource.Proofs.Renderer.Written
/-!
Indenting raw source. Its rows are moved to the right as one block, but for those that begin inside a string, so that
the scanner finds the same strings in what is written, and the same rows inside them.
-/
namespace RenderSource

namespace Text

/-- The strings that a scan of a text finds, as they are written there. -/
def strings (t : Text) : List Text := ((Token.ofText t).filter Token.isString).map (·.text)

theorem mem_rows {t r : Text} (member : r ∈ t.rows) : newline ∉ r ∧ ∀ c ∈ r, c ∈ t := by
  induction t generalizing r with
  | nil =>
    obtain rfl := List.mem_singleton.mp member
    exact ⟨List.not_mem_nil, fun c none => by cases none⟩
  | cons d t ih =>
    rw [rows] at member
    split at member
    · rcases List.mem_cons.mp member with rfl | later
      · exact ⟨List.not_mem_nil, fun c none => by cases none⟩
      · exact ⟨(ih later).1, fun c inside => List.mem_cons_of_mem d ((ih later).2 c inside)⟩
    · rename_i inRow
      obtain ⟨first, rest, split⟩ := List.exists_cons_of_ne_nil (rows_ne_nil t)
      rw [split] at member ih
      rcases List.mem_cons.mp member with rfl | later
      · obtain ⟨single, part⟩ := ih (List.mem_cons_self ..)
        refine ⟨?_, fun c inside => ?_⟩
        · intro ends
          rcases List.mem_cons.mp ends with same | later
          · exact inRow same.symm
          · exact single later
        · rcases List.mem_cons.mp inside with rfl | later
          · exact List.mem_cons_self ..
          · exact List.mem_cons_of_mem d (part c later)
      · obtain ⟨single, part⟩ := ih (List.mem_cons_of_mem first later)
        exact ⟨single, fun c inside => List.mem_cons_of_mem d (part c inside)⟩

theorem Spaced.row {t r : Text} (spaced : t.Spaced) (member : r ∈ t.rows) : r.Spaced :=
  fun c inside => spaced c ((mem_rows member).2 c inside)

theorem Spaced.pairsReturns {t : Text} (spaced : t.Spaced) : t.pairsReturns = true := by
  induction t with
  | nil => rfl
  | cons c t ih =>
    have other : c ≠ .scalar '\r' := spaced.ne (by decide) (by decide)
    rw [Text.pairsReturns, ih spaced.tail]
    simp [other]

end Text

namespace Layout

variable {t : Text} {c : CodePoint} {u : Text} (k : Nat)

theorem rows_inRow : ∀ r ∈ rows (Text.blanks k) t, newline ∉ r := by
  intro e member
  rw [rows_eq] at member
  obtain ⟨r, inside, rfl | rfl | rfl⟩ := Library.mem_rowsFrom member
  · exact (Text.mem_rows inside).1
  · exact List.not_mem_nil
  · intro ends
    rcases List.mem_append.mp ends with blank | inRow
    · cases List.eq_of_mem_replicate blank
    · exact (Text.mem_rows inside).1 inRow

theorem rows_laid : (Text.ofRows (rows (Text.blanks k) t)).rows = rows (Text.blanks k) t := by
  refine Text.rows_ofRows _ ?_ (rows_inRow k)
  rw [rows_eq]
  obtain ⟨first, rest, split⟩ := List.exists_cons_of_ne_nil (Text.rows_ne_nil t)
  rw [split]
  exact List.cons_ne_nil _ _

theorem rows_first (visible : c.isBlank = false) :
    ∃ r rest, rows (Text.blanks k) (c :: u) = (Text.blanks k ++ c :: r) :: rest := by
  have inRow : c ≠ newline := by
    rintro rfl
    cases visible
  obtain ⟨first, rest, split⟩ := List.exists_cons_of_ne_nil (Text.rows_ne_nil u)
  have late : 1 ∉ insideRows (c :: u) := fun member => absurd (insideRows_late member) (by omega)
  have shown : Text.isBlank (c :: first) = false := by simp [Text.isBlank, visible]
  rw [rows_eq, Text.rows, if_neg inRow, split]
  dsimp only
  rw [rowsFrom, row, if_neg late, if_neg (by simp [shown])]
  exact ⟨first, _, rfl⟩

theorem scan_rows (visible : c.isBlank = false) (unsigned : c ≠ .scalar '#') :
    Token.scan 1 (Token.withEnds (rows (Text.blanks k) (c :: u))) {} =
      Token.scan 1 (Token.withEnds (rows (Text.blanks k) (c :: u))) (Token.moveStart k) := by
  obtain ⟨r, rest, split⟩ := rows_first k visible
  rw [split]
  cases rest with
  | nil =>
    have last : Token.withEnds [Text.blanks k ++ c :: r] = [Text.blanks k ++ c :: r] := if_neg (by simp)
    rw [last]
    exact Token.scan_start k _ visible unsigned
  | cons next rest =>
    rw [Token.withEnds_cons _ (List.cons_ne_nil next rest), List.append_assoc]
    exact Token.scan_start k _ visible unsigned

/-- The scan of a text that is laid out further right finds the same, but for columns and strays. -/
theorem seen_laid (visible : c.isBlank = false) (unsigned : c ≠ .scalar '#') (spaced : Text.Spaced (c :: u))
    (closed : Text.ClosesStrings (c :: u)) (aligned : Text.isAligned (c :: u) = true) :
    Token.seen (Token.ofText (Text.ofRows (rows (Text.blanks k) (c :: u)))) = Token.seen (Token.ofText (c :: u)) := by
  have along := Token.along_text closed spaced.pairsReturns aligned
  have marked : Token.Marked (insideRows (c :: u)) 1 (Token.withEnds (Text.rows (c :: u))) {} :=
    along.marked fun n _ => insideRows_found closed spaced.pairsReturns aligned n
  have inRow : ∀ r ∈ Text.rows (c :: u), newline ∉ r := fun r member => (Text.mem_rows member).1
  have rowSpaced : ∀ r ∈ Text.rows (c :: u), r.Spaced := fun r member => spaced.row member
  have laid := Token.scan_laid (Token.moved_start k) inRow rowSpaced along.placed marked
  rw [← rows_eq] at laid
  rw [Token.ofText, Token.rowsWithEnds_eq, rows_laid, scan_rows k visible unsigned, laid, Token.ofText,
    Token.rowsWithEnds_eq]

end Layout

namespace Buffer

variable {b : Buffer} {st : Store} {depth width : Nat} {t : Text}

theorem segmentRows_blanks (whole : b.config.indentWidth.asInt? = some (width : Int)) {rs : List Text}
    (written : b.segmentRows st (.raw depth t) = .ok rs) : rs = Layout.rows (Text.blanks (depth * width)) t := by
  rw [segmentRows] at written
  obtain ⟨_, stated, written⟩ := ok_of_bind written
  cases stated
  obtain ⟨unit, made, written⟩ := ok_of_bind written
  obtain ⟨indent, times, written⟩ := ok_of_bind written
  cases written
  rw [Config.indentUnit_ok whole made] at times
  rw [repeated_blanks rfl times]

/-- Raw source that begins with a statement, is blank in spaces and newlines only, closes its strings and goes back to
columns of blocks is written with the same strings in it. Its rows inside strings are written as they are, rows of
blanks as empty ones, and all others further right. It is written if the blanks in front of it fit into memory. -/
theorem source_indented (whole : b.config.indentWidth.asInt? = some (width : Int)) (positive : 1 ≤ width)
    {c : CodePoint} (begins : t.head? = some c) (space : c ≠ .scalar ' ') (ends : c ≠ newline)
    (unsigned : c ≠ .scalar '#') (spaced : t.Spaced) (closed : t.ClosesStrings) (aligned : t.isAligned = true) :
    (width < memoryLimit → depth * width < memoryLimit → ∃ e, (b.alone (.raw depth t)).source st = .ok e) ∧
    ∀ e, (b.alone (.raw depth t)).source st = .ok e →
      b.segmentRows st (.raw depth t) = .ok e.rows ∧ e.strings = t.strings ∧ e.rows.length = t.rows.length ∧
      insideRows e = insideRows t ∧
      ∀ (n : Nat) (r : Text), t.rows[n]? = some r → e.rows[n]? = some (if n + 1 ∈ insideRows t then r
        else if r.isBlank then [] else Text.blanks (depth * width) ++ r) := by
  obtain ⟨u, rfl⟩ := List.head?_eq_some_iff.mp begins
  have visible : c.isBlank = false := by
    by_contra blank
    rw [Bool.not_eq_false] at blank
    rcases spaced c (List.mem_cons_self ..) blank with same | same
    · exact space same
    · exact ends same
  constructor
  · intro small narrow
    have few : depth < memoryLimit := Nat.lt_of_le_of_lt (Nat.le_mul_of_pos_right depth positive) narrow
    have stated : b.statement st (.raw depth (c :: u)) = .ok (.ofInt depth, .ok (c :: u)) := rfl
    obtain ⟨rs, written⟩ := segmentRows_written whole small few narrow (Nat.le_refl depth) stated
    refine ⟨Text.ofRows rs, ?_⟩
    rw [source, alone_raw, written]
    rfl
  · intro e written
    rw [source, alone_raw] at written
    obtain ⟨rs, rows, same⟩ := ok_of_bind written
    cases same
    obtain rfl := segmentRows_blanks whole rows
    -- Strings and rows inside strings are all that is asked of the tokens, and `seen` keeps both.
    have seen := Layout.seen_laid (depth * width) visible unsigned spaced closed aligned
    rw [Layout.rows_laid]
    refine ⟨rows, ?_, ?_, ?_, ?_⟩
    · rw [Text.strings, ← Token.strings_seen, seen, Token.strings_seen, Text.strings]
    · rw [Layout.rows_eq, Layout.length_rowsFrom]
    · change (Token.ofText _).flatMap laterRows = (Token.ofText _).flatMap laterRows
      rw [← Token.laterRows_seen, seen, Token.laterRows_seen]
    · intro n r found
      rw [Layout.rows_eq, Layout.rowsFrom_getElem?, found, Option.map_some, Layout.row, Nat.add_comm]

def blockRows : Text := wording "if x:\n  f('a', \"\"\"b\n   c\n\"\"\"\n   \n )\ny = 'd' + \\\n'e'"

theorem source_indented_block : ∃ e, ((ofConfig .standard).alone (.raw 2 blockRows)).source .empty = .ok e ∧
    e.strings = [wording "'a'", wording "\"\"\"b\n   c\n\"\"\"", wording "'d'", wording "'e'"] ∧
    insideRows e = [3, 4] ∧ e.rows[2]? = some (wording "   c") := by
  have spaced : blockRows.Spaced := by decide
  have closed : blockRows.ClosesStrings := by decide +kernel
  have aligned : blockRows.isAligned = true := by decide +kernel
  obtain ⟨fits, indented⟩ := @source_indented (ofConfig .standard) .empty 2 4 blockRows rfl (by decide) (.scalar 'i')
    rfl (by decide) (by decide) (by decide) spaced closed aligned
  obtain ⟨e, written⟩ := fits (by decide) (by decide)
  obtain ⟨_, strings, _, inside, rows⟩ := indented e written
  refine ⟨e, written, ?_, ?_, ?_⟩
  · rw [strings]
    decide +kernel
  · rw [inside]
    decide +kernel
  · rw [rows 2 (wording "   c") (by decide +kernel)]
    decide +kernel

end Buffer

end RenderSource
