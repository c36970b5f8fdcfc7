import RenderSource.Proofs.Buffer.Cutting
import RenderSource.Proofs.Renderer.Outcome
/-!
Where the faults of a source of portions are. Each is at a row that has a statement in it, or at a row of the
library with blanks in front, and its column points into those blanks; the fault of a name is where they end, and
only that of a bracket is behind them.
-/
namespace RenderSource

namespace Text

def margin (t : Text) : Nat := (t.takeWhile fun c => c = .scalar ' ').length

theorem margin_blanks (k : Nat) {t : Text} (visible : t.head? ≠ some (.scalar ' ')) : (blanks k ++ t).margin = k := by
  rw [margin, takeWhile_blanks k visible]
  exact List.length_replicate

theorem margin_pos {t : Text} (front : t.head? = some (.scalar ' ')) : 0 < t.margin := by
  obtain ⟨u, rfl⟩ := List.head?_eq_some_iff.mp front
  rw [margin, List.takeWhile_cons_of_pos rfl]
  exact Nat.succ_pos _

def IsRow (n row : Nat) (rs : List Text) (t : Text) : Prop := ∃ k, n = row + k ∧ rs[k]? = some t

variable {n row : Nat} {rs : List Text} {t : Text}

theorem IsRow.front (found : t.IsRow n row rs) (ss : List Text) : t.IsRow n row (rs ++ ss) := by
  obtain ⟨k, here, inside⟩ := found
  exact ⟨k, here, by rw [List.getElem?_append_left (List.getElem?_eq_some_iff.mp inside).1, inside]⟩

theorem IsRow.behind {ss : List Text} (found : t.IsRow n (row + rs.length) ss) : t.IsRow n row (rs ++ ss) := by
  obtain ⟨k, here, inside⟩ := found
  exact ⟨rs.length + k, by rw [here, Nat.add_assoc], by
    rw [List.getElem?_append_right (Nat.le_add_right _ _), Nat.add_sub_cancel_left, inside]⟩

end Text

namespace SourceFault

/-- A fault at a row of text: its column is in the blanks in front, but for faults of names and of brackets. -/
structure MarksBlanks (f : SourceFault) (t : Text) : Prop where
  filled : t ≠ []
  column : 0 ≤ f.column
  within : f.problem ≠ .deepBrackets → f.column ≤ t.margin
  inside : f.problem ≠ .deepBrackets → f.problem ≠ .fixedName → f.column < t.margin

/-- A fault at one of the rows from row `row` on. -/
def LiesIn (f : SourceFault) (row : Nat) (rs : List Text) : Prop := ∃ t : Text, t.IsRow f.row row rs ∧ f.MarksBlanks t

variable {f : SourceFault} {row : Nat} {rs : List Text}

theorem LiesIn.front (found : f.LiesIn row rs) (ss : List Text) : f.LiesIn row (rs ++ ss) := by
  obtain ⟨t, here, marks⟩ := found
  exact ⟨t, here.front ss, marks⟩

theorem LiesIn.behind {ss : List Text} (found : f.LiesIn (row + rs.length) ss) : f.LiesIn row (rs ++ ss) := by
  obtain ⟨t, here, marks⟩ := found
  exact ⟨t, here.behind, marks⟩

end SourceFault

namespace Library

/-- Among the rows in which a block of the library begins, the last one. -/
theorem backRows_deep : ∃ r, backRows[31]? = some r ∧ r.head? = some (.scalar ' ') ∧ r.isBlank = false := by
  have found : (backRows[31]?).any (fun r => r.head? = some (.scalar ' ') && !r.isBlank) = true := by decide
  cases row : backRows[31]? with
  | none =>
    rw [row] at found
    cases found
  | some r =>
    rw [row] at found
    obtain ⟨front, visible⟩ := Bool.and_eq_true_iff.mp found
    exact ⟨r, rfl, of_decide_eq_true front, by simpa using visible⟩

theorem placedRows_deep (k : Nat) (v : Text) :
    ∃ t, (placedRows (Text.blanks k) v)[42]? = some t ∧ t.head? = some (.scalar ' ') := by
  obtain ⟨r, deep, front, visible⟩ := backRows_deep
  have row : (versionRows v)[42]? = some r := by
    rw [versionRows, List.getElem?_append_right (by rw [frontRows_length]; decide), frontRows_length,
      List.getElem?_cons_succ]
    exact deep
  rw [← rowsFrom_version, Layout.rowsFrom_getElem?, row]
  refine ⟨_, rfl, ?_⟩
  -- whether the row begins in a string makes no difference: it has blanks of its own in front
  rw [Layout.row, visible]
  split
  · exact front
  · cases k with
    | zero => exact front
    | succ k => rfl

end Library

namespace Placed

variable {q : Placed} {f : SourceFault}

theorem fixedFault_some {n : Text} (fault : q.fixedFault? n = some f) : f = ⟨.fixedName, q.row, q.column⟩ := by
  unfold fixedFault? at fault
  split at fault
  · exact (Option.some.inj fault).symm
  · cases fault

/-- The only fault of a statement in itself is a name, unless a value is given back outside of functions. -/
theorem ownFault_some (spells : q.statement.Spells) (inner : ∀ t, q.statement = .give t → q.level ≠ 0)
    (fault : q.ownFault? = some f) : f = ⟨.fixedName, q.row, q.column⟩ := by
  unfold ownFault? at fault
  cases same : q.statement with
  | library v =>
    rw [same] at fault
    cases fault
  | define n m =>
    rw [same] at fault
    exact fixedFault_some fault
  | assign n t =>
    rw [same] at spells fault
    cases spells with
    | assign named value =>
      dsimp only at fault
      rw [termFault_none value.settled] at fault
      exact fixedFault_some fault
  | augment n t =>
    rw [same] at spells fault
    cases spells with
    | augment named value =>
      dsimp only at fault
      rw [termFault_none value.settled] at fault
      exact fixedFault_some fault
  | give t =>
    rw [same] at spells fault
    cases spells with
    | give value =>
      dsimp only at fault
      rw [termFault_none value.settled, if_neg (inner t same)] at fault
      cases fault

theorem headFault_some (fault : q.headFault? = some f) : f = ⟨.fixedName, q.row, q.column⟩ := by
  unfold headFault? at fault
  split at fault
  · exact fixedFault_some fault
  · cases fault

theorem faultIn_some {opened ps : List Placed} (fault : faultIn? opened ps = some f) :
    (∃ q ∈ opened, q.headFault? = some f) ∨ ∃ q ∈ ps, q.ownFault? = some f ∨ q.headFault? = some f := by
  induction ps generalizing opened with
  | nil =>
    obtain ⟨q, member, found⟩ := List.exists_of_findSome?_eq_some (faultIn?.eq_1 opened ▸ fault)
    exact .inl ⟨q, member, found⟩
  | cons p ps ih =>
    rw [faultIn?, List.span_eq_takeWhile_dropWhile] at fault
    dsimp only at fault
    rcases Option.or_eq_some_iff.mp fault with here | ⟨_, later⟩
    · rcases Option.or_eq_some_iff.mp here with closed | ⟨_, own⟩
      · obtain ⟨q, member, found⟩ := List.exists_of_findSome?_eq_some closed
        exact .inl ⟨q, (List.takeWhile_sublist _).subset member, found⟩
      · exact .inr ⟨p, List.mem_cons_self, .inl own⟩
    · rcases ih later with ⟨q, member, found⟩ | ⟨q, member, found⟩
      · split at member
        · rcases List.mem_cons.mp member with rfl | around
          · exact .inr ⟨q, List.mem_cons_self, .inr found⟩
          · exact .inl ⟨q, (List.dropWhile_sublist _).subset around, found⟩
        · exact .inl ⟨q, (List.dropWhile_sublist _).subset member, found⟩
      · exact .inr ⟨q, List.mem_cons_of_mem p member, found⟩

/-- A statement that stands in one of the rows from row `row` on, behind the blanks of its column. -/
structure StandsIn (q : Placed) (row : Nat) (rs : List Text) : Prop where
  row : q.text.IsRow q.row row rs
  filled : q.text ≠ []
  margin : q.text.margin = q.column

variable {row : Nat} {rs : List Text}

theorem StandsIn.front (stands : q.StandsIn row rs) (ss : List Text) : q.StandsIn row (rs ++ ss) :=
  ⟨stands.row.front ss, stands.filled, stands.margin⟩

theorem StandsIn.behind {ss : List Text} (stands : q.StandsIn (row + rs.length) ss) : q.StandsIn row (rs ++ ss) :=
  ⟨stands.row.behind, stands.filled, stands.margin⟩

theorem StandsIn.fixedName (stands : q.StandsIn row rs) : SourceFault.LiesIn ⟨.fixedName, q.row, q.column⟩ row rs :=
  ⟨q.text, stands.row, stands.filled, Int.natCast_nonneg _, fun _ => by rw [stands.margin], fun _ other => absurd rfl other⟩

theorem StandsIn.deepBrackets (stands : q.StandsIn row rs) (k : Nat) :
    SourceFault.LiesIn ⟨.deepBrackets, q.row, k⟩ row rs :=
  ⟨q.text, stands.row, stands.filled, Int.natCast_nonneg _, fun other => absurd rfl other, fun other => absurd rfl other⟩

theorem StandsIn.unexpectedIndent (stands : q.StandsIn row rs) (inner : 0 < q.column) :
    SourceFault.LiesIn ⟨.unexpectedIndent, q.row, (q.column : Int) - 1⟩ row rs := by
  have last : (q.column : Int) - 1 < q.text.margin := by
    rw [stands.margin]
    omega
  exact ⟨q.text, stands.row, stands.filled, Int.le_sub_one_of_lt (Int.natCast_pos.mpr inner), fun _ => Int.le_of_lt last,
    fun _ _ => last⟩

end Placed

namespace Portion

open Placed (StandsIn)
open SourceFault (LiesIn)

variable {c : Config} {st : Store} {width row opened : Nat} {q : Placed} {f : SourceFault}

theorem statementRow_margin {s : Statement} (spells : s.Spells) (n : Nat) :
    (statementRow width n s).margin = n * width ∧ statementRow width n s ≠ [] := by
  obtain ⟨filled, visible⟩ := Placed.Spells.visible spells
  exact ⟨Text.margin_blanks _ visible, fun none => filled (List.append_eq_nil_iff.mp none).2⟩

theorem placedAt_stands {s : Statement} (spells : s.Spells) (n : Nat) {rs : List Text}
    (here : (statementRow width n s).IsRow row opened rs) : (placedAt width row n s).StandsIn opened rs :=
  ⟨here, (statementRow_margin spells n).2, (statementRow_margin spells n).1⟩

theorem libraryAt_stands (n : Nat) {rs : List Text} (here : (Text.blanks (n * width) ++ Library.firstRow).IsRow row opened rs) :
    (libraryAt c width row n).StandsIn opened rs := by
  have visible : Library.firstRow ≠ [] ∧ Library.firstRow.head? ≠ some (.scalar ' ') := by
    rw [Library.firstRow_eq]
    decide
  exact ⟨here, fun none => visible.1 (List.append_eq_nil_iff.mp none).2, Text.margin_blanks _ visible.2⟩

theorem placed_stands (accepted : c.Accepted) {p : Portion} (stated : Stated c st p)
    (member : q ∈ p.placed c st width row) : q.StandsIn row (p.rows c st width) := by
  cases p with
  | opening n =>
    obtain ⟨others, first⟩ := Library.placedRows_head (Text.blanks ((n + 1) * width)) (c.version.getD Library.placeholder)
    simp only [placed, List.mem_cons, List.not_mem_nil, or_false] at member
    rcases member with rfl | rfl | rfl
    · exact placedAt_stands accepted.spells_head n ⟨0, rfl, rfl⟩
    · refine libraryAt_stands (n + 1) ⟨1, rfl, ?_⟩
      rw [rows, libraryRows, first]
      rfl
    · refine placedAt_stands accepted.spells_init (n + 1) ⟨(libraryRows c width (n + 1)).length + 1, by omega, ?_⟩
      rw [rows, List.getElem?_cons_succ, List.getElem?_append_right (Nat.le_refl _), Nat.sub_self]
      rfl
  | piece n p =>
    obtain rfl := List.mem_singleton.mp member
    exact placedAt_stands (stated.spells accepted) n ⟨0, rfl, rfl⟩
  | closing n =>
    obtain rfl := List.mem_singleton.mp member
    exact placedAt_stands accepted.spells_end n ⟨0, rfl, rfl⟩

theorem placedFrom_stands (accepted : c.Accepted) {ps : List Portion} (each : ∀ p ∈ ps, Stated c st p)
    (member : q ∈ placedFrom c st width row ps) : q.StandsIn row (ps.flatMap (rows c st width)) := by
  induction ps generalizing row with
  | nil => cases member
  | cons p ps ih =>
    obtain ⟨here, later⟩ := List.forall_mem_cons.mp each
    rw [List.flatMap_cons]
    rcases List.mem_append.mp member with inside | behind
    · exact (placed_stands accepted here inside).front _
    · exact (ih later behind).behind

theorem placed_fault (accepted : c.Accepted) {p : Portion} (stated : Stated c st p)
    (member : q ∈ p.placed c st width row) (fault : q.ownFault? = some f ∨ q.headFault? = some f) :
    f = ⟨.fixedName, q.row, q.column⟩ := by
  rcases fault with own | head
  · cases p with
    | opening n =>
      simp only [placed, List.mem_cons, List.not_mem_nil, or_false] at member
      rcases member with rfl | rfl | rfl
      · exact Placed.ownFault_some accepted.spells_head (fun t same => by cases same) own
      · cases own
      · exact Placed.ownFault_some accepted.spells_init (fun t same => by cases same) own
    | piece n p =>
      obtain rfl := List.mem_singleton.mp member
      exact Placed.ownFault_some (stated.spells accepted) (fun t same => by cases same) own
    | closing n =>
      obtain rfl := List.mem_singleton.mp member
      exact Placed.ownFault_some accepted.spells_end (fun t _ => stated.inside n rfl) own
  · exact Placed.headFault_some head

theorem misplaced_lies (accepted : c.Accepted) {ps : List Portion} (each : ∀ p ∈ ps, Stated c st p)
    (fault : Placed.misplaced? (placedFrom c st width row ps) = some f) : f.LiesIn row (ps.flatMap (rows c st width)) := by
  rcases Placed.faultIn_some fault with ⟨_, member, _⟩ | ⟨q, member, own⟩
  · cases member
  · obtain ⟨p, inside, r, found⟩ := mem_placedFrom member
    rw [placed_fault accepted (each p inside) found own]
    exact (placedFrom_stands accepted each member).fixedName

theorem deepBlocks_lies (n : Nat) : LiesIn ⟨.deepBlocks, row + Entry.deepRow, 0⟩ row ((opening n).rows c st width) := by
  obtain ⟨t, deep, front⟩ := Library.placedRows_deep ((n + 1) * width) (c.version.getD Library.placeholder)
  have inside := (List.getElem?_eq_some_iff.mp deep).1
  have margin := Text.margin_pos front
  refine ⟨t, ⟨Entry.deepRow, rfl, ?_⟩, ?_, Int.le_refl _, fun _ => Int.natCast_nonneg _, fun _ _ => Int.natCast_pos.mpr margin⟩
  · rw [rows, Entry.deepRow, List.getElem?_cons_succ, libraryRows, List.getElem?_append_left inside, deep]
  · rintro rfl
    cases front

theorem fault_lies (accepted : c.Accepted) (positive : 1 ≤ width) {ps : List Portion} (each : ∀ p ∈ ps, Stated c st p)
    (fault : Entry.fault? width opened ((placedFrom c st width row ps).map Placed.entry) = some f) :
    f.LiesIn row (ps.flatMap (rows c st width)) := by
  induction ps generalizing row opened with
  | nil => cases fault
  | cons p ps ih =>
    obtain ⟨here, later⟩ := List.forall_mem_cons.mp each
    have first : ∀ {n : Nat} {s : Statement}, placedAt width row n s ∈ p.placed c st width row → opened < n →
        LiesIn ⟨.unexpectedIndent, row, (n * width : Nat) - 1⟩ row (p.rows c st width ++ ps.flatMap (rows c st width)) :=
      fun member deeper => ((placed_stands accepted here member).unexpectedIndent
        (Nat.mul_pos (Nat.zero_lt_of_lt deeper) positive)).front _
    rw [placedFrom, List.map_append] at fault
    rw [List.flatMap_cons]
    cases p with
    | opening n =>
      rw [fault_opening] at fault
      split at fault
      · rename_i deeper
        obtain rfl := Option.some.inj fault
        exact first List.mem_cons_self deeper
      · split at fault
        · obtain rfl := Option.some.inj fault
          exact (deepBlocks_lies n).front _
        · exact (ih later fault).behind
    | piece n p =>
      rw [placed, List.map_singleton, List.singleton_append, fault_at rfl] at fault
      split at fault
      · rename_i deeper
        obtain rfl := Option.some.inj fault
        exact first List.mem_cons_self deeper
      · exact (ih later fault).behind
    | closing n =>
      rw [placed, List.map_singleton, List.singleton_append, fault_at rfl] at fault
      split at fault
      · rename_i deeper
        obtain rfl := Option.some.inj fault
        exact first List.mem_cons_self deeper
      · exact (ih later fault).behind

section

variable (accepted : c.Accepted) (positive : 1 ≤ width) {ps : List Portion} (each : ∀ p ∈ ps, Stated c st p)
  {count fuel : Nat} (enough : (ps.flatMap (rows c st width)).length ≤ fuel)

include accepted positive each enough

theorem told_outside : Told width 0 (placedFrom c st width row ps)
    (Placed.readRows count fuel row [0] false (ps.flatMap (rows c st width))) :=
  told_portions accepted positive each (Nat.zero_le _) enough

theorem read_placed {qs : List Placed}
    (read : Placed.readRows count fuel row [0] false (ps.flatMap (rows c st width)) = .ok qs) :
    qs = placedFrom c st width row ps := by
  have told := @told_outside c st width row accepted positive ps each count fuel enough
  rw [read] at told
  rcases told with same | ⟨_, _, _, ⟨_, same, _⟩, _⟩
  · cases fault : Entry.fault? width 0 ((placedFrom c st width row ps).map Placed.entry) with
    | some g =>
      rw [fault] at same
      cases same
    | none =>
      rw [fault] at same
      exact Except.ok.inj same
  · cases same

theorem unread_lies (broken : Placed.readRows count fuel row [0] false (ps.flatMap (rows c st width)) = .error f)
    (room : f.problem ≠ .noRoom) : f.LiesIn row (ps.flatMap (rows c st width)) := by
  have told := @told_outside c st width row accepted positive ps each count fuel enough
  rw [broken] at told
  rcases told with same | ⟨q, member, _, ⟨g, same, refuses⟩, _⟩
  · cases fault : Entry.fault? width 0 ((placedFrom c st width row ps).map Placed.entry) with
    | some g =>
      rw [fault] at same
      cases same
      exact fault_lies accepted positive each fault
    | none =>
      rw [fault] at same
      cases same
  · cases same
    rcases refuses with ⟨k, rfl⟩ | rfl
    · exact (placedFrom_stands accepted each member).deepBrackets k
    · exact absurd rfl room

end

end Portion

end RenderSource
