import RenderSource.Proofs.Code.Scanning
import RenderSource.Proofs.Library.Rows
/-!
The library behind blanks. Which of its rows begin inside a string does not depend on the version, and a
library that was placed is found again with its version.
-/
namespace RenderSource.Library

open Lexeme Token

theorem versionRow_quiet (v : Text) (row : Nat) :
    (scanStatement row (versionFront ++ v.quote ++ [newline]) {}).2 = some {} := by
  have split : versionFront ++ v.quote ++ [newline] = Text.blanks 0 ++ .scalar 'R' ::
      (wording "ENDERER_VERSION" ++ (Text.blanks 1 ++ .scalar '=' :: (Text.blanks 1 ++
        (v.quote ++ [newline])))) := by
    simp [versionFront, Text.blanks, wording, Text.ofString]
  have blanks : indentation 0 0 (versionFront ++ v.quote ++ [newline]) = (0, 0) := rfl
  obtain ⟨u, quoted⟩ : ∃ u, v.quote ++ [newline] = .scalar '"' :: u := ⟨_, Text.quote_cons v _⟩
  have name : at? (.scalar 'R' :: (wording "ENDERER_VERSION" ++ (Text.blanks 1 ++ .scalar '=' ::
      (Text.blanks 1 ++ (v.quote ++ [newline]))))) = some (.name 16) := rfl
  have sign : at? (.scalar '=' :: (Text.blanks 1 ++ (v.quote ++ [newline]))) = some (.operator 1) := by
    rw [quoted]
    rfl
  have text : at? (v.quote ++ [newline]) = some (.string v.quote.length) := at_quote v (by decide)
  have ends : ∀ column, (scanRow row column [newline] {}).2 = {} := by
    intro column
    rw [show [newline] = Text.blanks 0 ++ [newline] from rfl,
      scanRow_lexeme 0 {} (by decide) (by rfl : at? [newline] = some (.newline 1)) (.newline 1) (by decide) rfl]
    simp [stateAfter, scanRow, Lexeme.size]
  have value : ∀ column, (scanRow row column (Text.blanks 1 ++ (v.quote ++ [newline])) {}).2 = {} := by
    intro column
    rw [quoted] at text ⊢
    rw [scanRow_lexeme 1 {} (by decide) text (.string _) (by simp [Lexeme.size, Text.quote]) rfl, ← quoted]
    simp only [Lexeme.size, stateAfter, List.drop_left, ends]
  have assigned : ∀ column, (scanRow row column (Text.blanks 1 ++ .scalar '=' :: (Text.blanks 1 ++
      (v.quote ++ [newline]))) {}).2 = {} := by
    intro column
    rw [scanRow_lexeme 1 {} (by decide) sign (.operator 1) (by decide) rfl]
    exact value _
  have row_state : (scanRow row 0 (versionFront ++ v.quote ++ [newline]) {}).2 = {} := by
    rw [split, scanRow_lexeme 0 {} (by decide) name (.name 16) (by decide) rfl]
    exact assigned _
  have statement : scanStatement row (versionFront ++ v.quote ++ [newline]) {} =
      ((scanRow row 0 (versionFront ++ v.quote ++ [newline]) {}).1,
        some (scanRow row 0 (versionFront ++ v.quote ++ [newline]) {}).2) := by
    rw [scanStatement, blanks]
    rfl
  rw [statement, row_state]

theorem frontRows_length : frontRows.length = 10 := by decide

theorem front_quiet : ∀ p ∈ (frontRows.map (· ++ [newline])).zipIdx 1,
    (scanStatement p.2 p.1 {}).2 = some {} := by
  have each : ((frontRows.map (· ++ [newline])).zipIdx 1).all
      (fun p => (scanStatement p.2 p.1 {}).2 = some {}) = true := by decide +kernel
  intro p member
  simpa using List.all_eq_true.mp each p member

def stringRows : List Nat := (scan 12 (withEnds backRows) {}).flatMap laterRows

theorem stringRows_late : ∀ n ∈ stringRows, 12 < n := by
  intro n member
  obtain ⟨k, token, later⟩ := List.mem_flatMap.mp member
  have starts := scan_from (withEnds backRows) (Nat.le_refl 12) (fun o none => by cases none) k token
  simp only [laterRows, List.mem_map, List.mem_range] at later
  obtain ⟨i, _, rfl⟩ := later
  omega

theorem insideRows_version (v : Text) : insideRows (Text.ofRows (versionRows v)) = stringRows := by
  have rows : (Text.ofRows (versionRows v)).rows =
      (frontRows ++ [versionFront ++ v.quote]) ++ backRows := by
    rw [Text.rows_ofRows _ (by simp [versionRows]) fun r member => (versionRows_fit v r member).no_newline,
      versionRows]
    simp
  have quiet : ∀ p ∈ ((frontRows ++ [versionFront ++ v.quote]).map (· ++ [newline])).zipIdx 1,
      (scanStatement p.2 p.1 {}).2 = some {} := by
    rw [List.map_append, List.zipIdx_append]
    intro p member
    rcases List.mem_append.mp member with front | version
    · exact front_quiet p front
    · obtain rfl := List.mem_singleton.mp version
      exact versionRow_quiet v _
  obtain ⟨ts, scanned, flat⟩ := scan_quiet quiet (withEnds backRows)
  have length : 1 + ((frontRows ++ [versionFront ++ v.quote]).map (· ++ [newline])).length = 12 := by
    rw [List.length_map, List.length_append, List.length_singleton, frontRows_length]
  rw [length] at scanned
  rw [insideRows_eq, rows, withEnds_append _ (by simp [backRows]), scanned, List.flatMap_append,
    laterRows_flat flat, List.nil_append, stringRows]

theorem rowsFrom_append (indent : Text) (inside : List Nat) (n : Nat) (rs ss : List Text) :
    Layout.rowsFrom indent inside n (rs ++ ss) =
      Layout.rowsFrom indent inside n rs ++ Layout.rowsFrom indent inside (n + rs.length) ss := by
  induction rs generalizing n with
  | nil => rfl
  | cons r rs ih =>
    rw [List.cons_append, Layout.rowsFrom, ih (n + 1), Layout.rowsFrom, List.cons_append,
      List.length_cons, Nat.add_right_comm, Nat.add_assoc]

theorem mem_rowsFrom {indent : Text} {inside : List Nat} {n : Nat} {rs : List Text} {e : Text}
    (member : e ∈ Layout.rowsFrom indent inside n rs) :
    ∃ r ∈ rs, e = r ∨ e = [] ∨ e = indent ++ r := by
  induction rs generalizing n with
  | nil => cases member
  | cons r rs ih =>
    rw [Layout.rowsFrom, List.mem_cons] at member
    rcases member with rfl | later
    · refine ⟨r, by simp, ?_⟩
      unfold Layout.row
      split
      · exact .inl rfl
      · split
        · exact .inr (.inl rfl)
        · exact .inr (.inr rfl)
    · obtain ⟨s, inside, cases⟩ := ih later
      exact ⟨s, List.mem_cons_of_mem r inside, cases⟩

def frontPlaced (indent : Text) : List Text := Layout.rowsFrom indent stringRows 1 frontRows

def backPlaced (indent : Text) : List Text := Layout.rowsFrom indent stringRows 12 backRows

def placedRows (indent v : Text) : List Text :=
  frontPlaced indent ++ (indent ++ versionFront ++ v.quote) :: backPlaced indent

theorem rowsFrom_version (indent v : Text) :
    Layout.rowsFrom indent stringRows 1 (versionRows v) = placedRows indent v := by
  have early : 11 ∉ stringRows := fun member => absurd (stringRows_late 11 member) (by decide)
  have visible : Text.isBlank (versionFront ++ v.quote) = false := by
    rw [versionFront_eq]
    exact rfl
  have here : Layout.row indent stringRows 11 (versionFront ++ v.quote) =
      indent ++ versionFront ++ v.quote := by
    rw [Layout.row, if_neg early, visible, List.append_assoc]
    rfl
  rw [versionRows, rowsFrom_append, frontRows_length, Layout.rowsFrom, here]
  rfl

theorem rows_placed (indent : Text) (v : Option Text) :
    Layout.rows indent (stamped v) = placedRows indent (v.getD placeholder) := by
  have inside : insideRows (stamped v) = stringRows := by rw [stamped_eq, insideRows_version]
  obtain ⟨r, rs, front⟩ := List.exists_cons_of_ne_nil
    (List.length_pos_iff.mp (show 0 < frontRows.length by rw [frontRows_length]; decide))
  obtain ⟨s, ss, back⟩ : ∃ s ss, rs ++ (versionFront ++ (v.getD placeholder).quote) :: backRows = s :: ss :=
    List.exists_cons_of_ne_nil (by simp)
  have rows : (stamped v).rows = r :: s :: ss := by
    rw [rows_stamped, versionRows, front, List.cons_append, back]
  rw [Layout.rows, rows]
  dsimp only
  rw [inside, ← rows, rows_stamped, rowsFrom_version]

theorem rowsBehind_eq (indent : Text) : rowsBehind indent = placedRows indent placeholder := by
  have rows : unstamped.rows = versionRows placeholder := rows_stamped none
  have same : inside = stringRows := by rw [inside, unstamped_eq, insideRows_version]
  rw [rowsBehind, same, rows, rowsFrom_version]

theorem firstRow_eq : firstRow = wording "import datetime" := by
  have rows : unstamped.rows = versionRows placeholder := rows_stamped none
  rw [firstRow, rows]
  rfl

theorem placedRows_head (indent v : Text) :
    ∃ rest, placedRows indent v = (indent ++ firstRow) :: rest := by
  have early : 1 ∉ stringRows := fun member => absurd (stringRows_late 1 member) (by decide)
  obtain ⟨rest, front⟩ : ∃ rest, frontRows = wording "import datetime" :: rest := ⟨_, rfl⟩
  have here : Layout.row indent stringRows 1 (wording "import datetime") =
      indent ++ wording "import datetime" := by
    rw [Layout.row, if_neg early]
    rfl
  rw [placedRows, frontPlaced, front, Layout.rowsFrom, here, firstRow_eq]
  exact ⟨_, rfl⟩

/-- No other row of the library looks like that of the version, whatever blanks stand in front. -/
theorem placed_other {k : Nat} {v : Text} {e : Text}
    (member : e ∈ frontPlaced (Text.blanks k) ∨ e ∈ backPlaced (Text.blanks k)) :
    e ≠ Text.blanks k ++ versionFront ++ v.quote := by
  have common : ∃ r, Common r ∧ (e = r ∨ e = [] ∨ e = Text.blanks k ++ r) := by
    rcases member with front | back
    · obtain ⟨r, inside, cases⟩ := mem_rowsFrom front
      exact ⟨r, frontRows_common r inside, cases⟩
    · obtain ⟨r, inside, cases⟩ := mem_rowsFrom back
      exact ⟨r, backRows_common r inside, cases⟩
  obtain ⟨r, ⟨_, unversioned⟩, cases⟩ := common
  have front : ∀ k, Term.skipBlanks (Text.blanks k ++ versionFront ++ v.quote) = versionFront ++ v.quote := by
    intro k
    rw [List.append_assoc, Term.skipBlanks_blanks, versionFront_eq]
    exact Term.skipBlanks_cons (by decide) _
  rintro rfl
  rcases cases with rfl | none | same
  · rw [front, Text.dropFront_append] at unversioned
    cases unversioned
  · simp [versionFront_eq] at none
  · rw [List.append_assoc] at same
    rw [← List.append_cancel_left same] at unversioned
    rw [← List.nil_append (versionFront ++ v.quote), ← List.append_assoc,
      show ([] : Text) = Text.blanks 0 from rfl, front, Text.dropFront_append] at unversioned
    cases unversioned

theorem matchRows_same {indent version : Text} {es : List Text} (other : ∀ e ∈ es,
    e ≠ indent ++ versionFront ++ placeholder.quote) (more rest : List Text) :
    matchRows indent version (es ++ more) (es ++ rest) = matchRows indent version more rest := by
  induction es with
  | nil => rfl
  | cons e es ih =>
    obtain ⟨here, later⟩ := List.forall_mem_cons.mp other
    rw [List.cons_append, List.cons_append, matchRows, if_neg here, if_pos rfl, ih later]

theorem read_placed (k : Nat) (v : Text) (rest : List Text) :
    read? (Text.blanks k) (placedRows (Text.blanks k) v ++ rest) = some (v, rest) := by
  have front := @matchRows_same (Text.blanks k) [] _ fun e member => placed_other (.inl member)
  have back := @matchRows_same (Text.blanks k) v _ fun e member => placed_other (.inr member)
  have version : Text.dropFront? (Text.blanks k ++ versionFront) (Text.blanks k ++ versionFront ++ v.quote) =
      some v.quote := Text.dropFront_append _ _
  have unquoted : Text.unquote? v.quote = some (v, []) := by
    have := Text.unquote_quote v []
    rwa [List.append_nil] at this
  obtain ⟨others, first⟩ := placedRows_head (Text.blanks k) v
  have head : (placedRows (Text.blanks k) v ++ rest).head? = some (Text.blanks k ++ firstRow) := by
    rw [first]
    rfl
  have split : placedRows (Text.blanks k) v ++ rest = frontPlaced (Text.blanks k) ++
      ((Text.blanks k ++ versionFront ++ v.quote) :: (backPlaced (Text.blanks k) ++ rest)) :=
    List.append_assoc _ _ _
  rw [read?, if_pos head, rowsBehind_eq, split, placedRows, front, matchRows, if_pos rfl, version,
    Option.bind_some, unquoted]
  dsimp only
  have same := back [] rest
  rw [List.append_nil] at same
  rw [same, matchRows]

end RenderSource.Library
