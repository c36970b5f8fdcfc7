import RenderSource.Proofs.Code.Room
import RenderSource.Proofs.Library.Placing
/-!
Source read row by row: each statement behind its blanks, and the library as one statement, in the blocks
that the blanks tell.
-/
namespace RenderSource

namespace Text

theorem span_blanks (k : Nat) {t : Text} (visible : t.head? ≠ some (.scalar ' ')) :
    (blanks k ++ t).span (fun c => c = .scalar ' ') = (blanks k, t) := by
  have front := takeWhile_blanks k visible
  have behind : (blanks k ++ t).dropWhile (fun c => c = .scalar ' ') = t := by
    have := List.takeWhile_append_dropWhile (p := fun c => decide (c = .scalar ' ')) (l := blanks k ++ t)
    rw [front] at this
    exact List.append_cancel_left this
  rw [List.span_eq_takeWhile_dropWhile, front, behind]

end Text

namespace Broken

theorem openBracket_told {row column : Nat} {c : CodePoint} {outer : List Bracket} {f : SourceFault}
    (fault : openBracket row column c outer = .error f) : f.problem ≠ .noRoom := by
  unfold openBracket at fault
  split at fault <;> cases fault
  exact nofun

theorem closeBracket_told {row column : Nat} {c : CodePoint} {outer : List Bracket} {f : SourceFault}
    (fault : closeBracket row column c outer = .error f) : f.problem ≠ .noRoom := by
  unfold closeBracket at fault
  repeat' split at fault
  all_goals cases fault
  all_goals exact nofun

theorem lookRow_told {row column : Nat} {t : Text} {brackets : List Bracket} {f : SourceFault}
    (fault : lookRow row column t brackets = .fault f) : f.problem ≠ .noRoom := by
  fun_induction lookRow row column t brackets
  all_goals first
    | grind [openBracket_told, closeBracket_told]
    | rename_i later
      exact later 0 _ fault

theorem look_told {count row : Nat} {rows : List Text} {o : Opened} {f : SourceFault}
    (fault : look count row rows o = .fault f) : f.problem ≠ .noRoom := by
  fun_induction look count row rows o <;> grind [lookRow_told]

end Broken

theorem Diagnosis.ofRow_told (row : Nat) (t : Text) (left : Nat) : (ofRow row t left).problem ≠ .noRoom := by
  grind [ofRow]

namespace Placed

open Statement (Spells)

theorem unread_told (count row : Nat) (t : Text) (rest : List Text) (left : Nat) :
    (unread count row t rest left).problem ≠ .noRoom := by
  unfold unread
  split
  · exact Broken.look_told ‹_›
  · split
    · exact nofun
    · exact Diagnosis.ofRow_told row t left
  · exact Diagnosis.ofRow_told row t left

theorem Spells.visible {s : Statement} (spells : Spells s) :
    s.spelled ≠ [] ∧ s.spelled.head? ≠ some (.scalar ' ') := by
  obtain ⟨n, u, named, front⟩ := spells.front
  rw [front]
  refine ⟨?_, Text.head?_ne_of_isIdentifier named (by decide) u⟩
  obtain ⟨c, w, rfl, _⟩ := Text.exists_cons_of_isIdentifier named
  exact List.cons_ne_nil c (w ++ u)

theorem Spells.not_library {s : Statement} (spells : Spells s) : s.spelled ≠ Library.firstRow := by
  have refused : Statement.read (wording "import datetime") = .error 15 := rfl
  intro same
  rw [Library.firstRow_eq] at same
  have read := spells.read
  rw [same, refused] at read
  cases read

theorem read_none {t : Text} (other : t ≠ Library.firstRow) (k : Nat) (rest : List Text) :
    Library.read? (Text.blanks k) ((Text.blanks k ++ t) :: rest) = none := by
  rw [Library.read?, if_neg]
  intro same
  exact other (List.append_cancel_left (Option.some.inj same))

theorem passes_blanks {depth : Nat} {follows : Text → Prop} {t : Text} (k : Nat)
    (passes : Broken.Passes depth follows t) : Broken.Passes depth follows (Text.blanks k ++ t) := by
  induction k with
  | zero => exact passes
  | succ k ih => exact Statement.passes_blank ih

/-- What is said of a statement in this row for which there is no room: a bracket of it is refused, or the row. -/
def Refuses (row : Nat) (f : SourceFault) : Prop := (∃ n : Nat, f = ⟨.deepBrackets, row, n⟩) ∨ f = ⟨.noRoom, row, 0⟩

/-- A statement reads back from its row if there is room for it, and else there is none. -/
theorem readRow_spelled {s : Statement} (spells : Spells s) (count row level k : Nat) (rest : List Text) :
    readRow count row level (Text.blanks k ++ s.spelled) s.spelled rest = .ok s ∨
      (∃ f, readRow count row level (Text.blanks k ++ s.spelled) s.spelled rest = .error f ∧ Refuses row f) ∧
        ¬s.Fits level := by
  have passes := passes_blanks k spells.passes row 0 [] [] rfl (Nat.zero_le _)
  rw [List.append_nil] at passes
  rw [readRow, spells.read]
  dsimp only
  by_cases rules : Statement.rungLimit < s.rungs level
  · rw [if_pos rules]
    exact .inr ⟨⟨_, rfl, .inr rfl⟩, fun fits => Nat.not_le.mpr rules fits.2⟩
  · rw [if_neg rules]
    rcases passes with passed | ⟨deep, n, refused⟩
    · rw [passed, Broken.lookRow]
      exact .inl rfl
    · rw [refused]
      exact .inr ⟨⟨_, rfl, .inl ⟨n, rfl⟩⟩, fun fits => Nat.not_le.mpr (by simpa using deep) fits.1⟩

theorem readRow_broken {s : Statement} (spells : Spells s) {row : Nat} {t : Text} {f : SourceFault}
    (broken : Broken.lookRow row 0 t [] = .fault f) (count level : Nat) (rest : List Text) :
    ∃ g, readRow count row level t s.spelled rest = .error g := by
  rw [readRow, spells.read]
  dsimp only
  split
  · exact ⟨_, rfl⟩
  · rw [broken]
    exact ⟨f, rfl⟩

variable {count fuel row k : Nat} {around here : List Nat} {expected : Bool}

/-- Rows that begin with one that is no row of the library: what reads in it comes first. -/
theorem readRows_row {t : Text} (filled : t ≠ []) (visible : t.head? ≠ some (.scalar ' ')) (other : t ≠ Library.firstRow)
    (blocks : blocks? row k around expected = .ok here) (rest : List Text) :
    readRows count (fuel + 1) row around expected ((Text.blanks k ++ t) :: rest) =
      (readRow count row (here.length - 1) (Text.blanks k ++ t) t rest).bind fun u =>
        (readRows count fuel (row + 1) here (isDefine u) rest).map
          (⟨row, here.length - 1, k, Text.blanks k ++ t, u⟩ :: ·) := by
  have length : (Text.blanks k).length = k := List.length_replicate
  have full : t.isEmpty = false := by simpa using filled
  rw [readRows]
  simp only [Text.span_blanks k visible, full, Bool.false_eq_true, ↓reduceIte, length, blocks, bind, Except.bind,
    read_none other]
  rfl

theorem readRows_spelled {s : Statement} (spells : Spells s)
    (blocks : blocks? row k around expected = .ok here) (rest : List Text) :
    readRows count (fuel + 1) row around expected ((Text.blanks k ++ s.spelled) :: rest) =
      (readRow count row (here.length - 1) (Text.blanks k ++ s.spelled) s.spelled rest).bind fun u =>
        (readRows count fuel (row + 1) here (isDefine u) rest).map
          (⟨row, here.length - 1, k, Text.blanks k ++ s.spelled, u⟩ :: ·) := by
  obtain ⟨filled, visible⟩ := Spells.visible spells
  exact readRows_row filled visible (Spells.not_library spells) blocks rest

theorem readRows_statement {s : Statement} (spells : Spells s)
    (blocks : blocks? row k around expected = .ok here) (rest : List Text) :
    readRows count (fuel + 1) row around expected ((Text.blanks k ++ s.spelled) :: rest) =
        (readRows count fuel (row + 1) here (isDefine s) rest).map
          (⟨row, here.length - 1, k, Text.blanks k ++ s.spelled, s⟩ :: ·) ∨
      (∃ f, readRows count (fuel + 1) row around expected ((Text.blanks k ++ s.spelled) :: rest) = .error f ∧
        Refuses row f) ∧ ¬s.Fits (here.length - 1) := by
  rw [readRows_spelled spells blocks rest]
  rcases readRow_spelled spells count row (here.length - 1) k rest with read | ⟨⟨f, broken, refuses⟩, full⟩
  · rw [read]
    exact .inl rfl
  · rw [broken]
    exact .inr ⟨⟨f, rfl, refuses⟩, full⟩

theorem readRows_fitting {s : Statement} (spells : Spells s) (blocks : blocks? row k around expected = .ok here)
    (fits : s.Fits (here.length - 1)) (rest : List Text) :
    readRows count (fuel + 1) row around expected ((Text.blanks k ++ s.spelled) :: rest) =
      (readRows count fuel (row + 1) here (isDefine s) rest).map
        (⟨row, here.length - 1, k, Text.blanks k ++ s.spelled, s⟩ :: ·) := by
  rcases @readRows_statement count fuel row k around here expected s spells blocks rest with read | ⟨_, full⟩
  · exact read
  · exact absurd fits full

theorem readRows_misplaced {s : Statement} (spells : Spells s) {f : SourceFault}
    (refused : blocks? row k around expected = .error f) (rest : List Text) :
    readRows count (fuel + 1) row around expected ((Text.blanks k ++ s.spelled) :: rest) = .error f := by
  obtain ⟨some, visible⟩ := Spells.visible spells
  have length : (Text.blanks k).length = k := List.length_replicate
  have full : s.spelled.isEmpty = false := by simpa using some
  rw [readRows]
  simp only [Text.span_blanks k visible, full, Bool.false_eq_true, ↓reduceIte, length, refused, bind, Except.bind]

theorem readRows_placed (v : Text) (blocks : blocks? row k around expected = .ok here) (rest : List Text) :
    readRows count (fuel + 1) row around expected (Library.placedRows (Text.blanks k) v ++ rest) =
      match deepRow? row here.length with
      | some n => .error ⟨.deepBlocks, n, 0⟩
      | none => (readRows count fuel (row + (Library.placedRows (Text.blanks k) v).length) here false rest).map
        (⟨row, here.length - 1, k, Text.blanks k ++ Library.firstRow, .library v⟩ :: ·) := by
  obtain ⟨others, first⟩ := Library.placedRows_head (Text.blanks k) v
  have found := Library.read_placed k v rest
  have visible : Library.firstRow.head? ≠ some (.scalar ' ') := by
    rw [Library.firstRow_eq]
    decide
  have full : Library.firstRow.isEmpty = false := by
    rw [Library.firstRow_eq]
    rfl
  have length : (Text.blanks k).length = k := List.length_replicate
  have used : (others ++ rest).length + 1 - rest.length = others.length + 1 := by
    rw [List.length_append]
    omega
  rw [first, List.cons_append] at found ⊢
  rw [readRows]
  simp only [Text.span_blanks k visible, full, Bool.false_eq_true, ↓reduceIte, length, blocks, bind, Except.bind,
    found, used]
  cases deepRow? row here.length <;> rfl

theorem readRows_library (v : Text) (blocks : blocks? row k around expected = .ok here)
    (room : deepRow? row here.length = none) (rest : List Text) :
    readRows count (fuel + 1) row around expected (Library.placedRows (Text.blanks k) v ++ rest) =
      (readRows count fuel (row + (Library.placedRows (Text.blanks k) v).length) here false rest).map
        (⟨row, here.length - 1, k, Text.blanks k ++ Library.firstRow, .library v⟩ :: ·) := by
  rw [readRows_placed v blocks, room]

end Placed

end RenderSource
