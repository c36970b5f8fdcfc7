import RenderSource.Proofs.Buffer.Merging
import RenderSource.Proofs.Code.InsideExact
import RenderSource.Proofs.Library.Placing
/-!
Cutting raw source into segments. Each segment is scanned on its own, without the blocks around it that
earlier segments have opened, so that the rows come out as if there were no cut only if the second
segment is aligned by itself.
-/
namespace RenderSource

namespace Token

/-- Whether the scan of rows comes to their end with nothing open and no row at fault. -/
def finishes (row : Nat) : List Text → ScanState → Bool
  | [], s => s.opened.isNone && s.brackets = 0 && !s.joined
  | t :: rest, s => !misaligned t s && (scanOne row t s).2.all (finishes (row + 1) rest)

theorem aligned_of_finishes {rs : List Text} {row : Nat} {s : ScanState}
    (done : finishes row rs s = true) : aligned row rs s = true := by
  induction rs generalizing row s with
  | nil => rfl
  | cons t rest ih =>
    rw [finishes, Bool.and_eq_true] at done
    rw [aligned, Bool.and_eq_true]
    refine ⟨done.1, ?_⟩
    cases next : (scanOne row t s).2 with
    | none => rfl
    | some s' =>
      rw [next] at done
      exact ih done.2

theorem aligned_front {rs more : List Text} {row : Nat} {s : ScanState}
    (placed : aligned row (rs ++ more) s = true) : aligned row rs s = true := by
  induction rs generalizing row s with
  | nil => rfl
  | cons t rest ih =>
    rw [List.cons_append, aligned, Bool.and_eq_true] at placed
    rw [aligned, Bool.and_eq_true]
    refine ⟨placed.1, ?_⟩
    cases next : (scanOne row t s).2 with
    | none => rfl
    | some s' =>
      rw [next] at placed
      exact ih placed.2

theorem indentation_newline (t : Text) (column count : Nat) :
    indentation column count (t ++ [newline]) = indentation column count t := by
  fun_induction indentation column count t with
  | case1 column count => rw [List.nil_append, indentation]; rfl
  | case2 column count t ih => rw [List.cons_append, indentation, if_pos rfl, ih]
  | case3 column count t other ih =>
    rw [List.cons_append, indentation, if_neg other, if_pos rfl, ih]
  | case4 column count t blank other ih =>
    rw [List.cons_append, indentation, if_neg blank, if_neg other, if_pos rfl, ih]
  | case5 column count c t blank tab feed =>
    rw [List.cons_append, indentation, if_neg blank, if_neg tab, if_neg feed]

theorem misaligned_newline {t : Text} {s : ScanState} (placed : misaligned (t ++ [newline]) s = false) :
    misaligned t s = false := by
  unfold misaligned at placed ⊢
  rw [indentation_newline] at placed
  cases rest : t.drop (indentation 0 0 t).2 with
  | nil => exact Bool.and_false _
  | cons c u =>
    have short : (indentation 0 0 t).2 ≤ t.length := by
      have some := congrArg List.length rest
      rw [List.length_drop, List.length_cons] at some
      omega
    rw [List.drop_append_of_le_length short, rest] at placed
    exact placed

theorem aligned_withEnds {rs : List Text} {row : Nat} {s : ScanState}
    (placed : aligned row (rs.map (· ++ [newline])) s = true) : aligned row (withEnds rs) s = true := by
  fun_induction withEnds rs generalizing row s with
  | case1 => rfl
  | case2 => rfl
  | case3 last some =>
    rw [List.map_singleton, aligned, Bool.and_eq_true, Bool.not_eq_true'] at placed
    rw [aligned, misaligned_newline placed.1, Bool.not_false, Bool.true_and]
    cases (scanOne row last s).2 <;> rfl
  | case4 r rs _ ih =>
    rw [List.map_cons, aligned, Bool.and_eq_true] at placed
    rw [aligned, Bool.and_eq_true]
    refine ⟨placed.1, ?_⟩
    cases next : (scanOne row (r ++ [newline]) s).2 with
    | none => rfl
    | some s' =>
      rw [next] at placed
      exact ih placed.2

end Token

namespace Text

theorem rows_append (x y : Text) : rows (x ++ newline :: y) = rows x ++ rows y := by
  induction x with
  | nil =>
    show rows (newline :: y) = [] :: rows y
    rw [rows, if_pos rfl]
  | cons c x ih =>
    obtain ⟨r, rs, split⟩ := List.exists_cons_of_ne_nil (rows_ne_nil x)
    rw [List.cons_append, rows, ih, rows]
    split
    · rfl
    · rw [split]
      rfl

theorem pairsReturns_append {x y : Text} (first : x.pairsReturns = true) (second : y.pairsReturns = true) :
    (x ++ newline :: y).pairsReturns = true := by
  induction x with
  | nil =>
    rw [List.nil_append, pairsReturns, second]
    rfl
  | cons c x ih =>
    rw [pairsReturns, Bool.and_eq_true] at first
    rw [List.cons_append, pairsReturns, Bool.and_eq_true]
    refine ⟨?_, ih first.2⟩
    cases x with
    | nil =>
      have other : c ≠ .scalar '\r' := by simpa using first.1
      simp [other]
    | cons d x => exact first.1

def scans (t : Text) : Bool := Token.finishes 1 (Token.withEnds t.rows) {}

end Text

section

variable {x y : Text} 

theorem above_first {n : Nat} (early : n ≤ x.rows.length) :
    Text.above (x ++ newline :: y) n = Text.above x n := by
  rw [Text.above, Text.above, Text.rows_append, List.take_append_of_le_length (by omega)]

theorem above_second (n : Nat) :
    Text.above (x ++ newline :: y) (x.rows.length + (n + 1)) = x ++ newline :: Text.above y (n + 1) := by
  have whole := Text.above_end (Nat.le_refl x.rows.length)
  rw [Text.above, Nat.add_sub_cancel, List.take_of_length_le (Nat.le_refl _)] at whole
  rw [Text.above, Text.rows_append, ← Nat.add_assoc, Nat.add_sub_cancel, List.take_append,
    List.take_of_length_le (by omega), Nat.add_sub_cancel_left, List.map_append, List.flatten_append, whole,
    Text.above, Nat.add_sub_cancel, List.append_assoc]
  rfl

variable (closed : x.ClosesStrings) (closed' : y.ClosesStrings) (paired : x.pairsReturns = true)
  (paired' : y.pairsReturns = true) (scanned : (x ++ newline :: y).scans = true)

include closed closed' paired paired' scanned

theorem insideRows_whole (n : Nat) : n ∈ insideRows (x ++ newline :: y) ↔ (x ++ newline :: y).BeginsInString n := by
  refine (Text.beginsInString_iff ?_ (Text.pairsReturns_append paired paired') ?_ n).symm
  · rw [Text.ClosesStrings, Region.after_closed (r := .code) trivial x y closed]
    exact closed'
  · rw [Text.isAligned, Token.rowsWithEnds_eq]
    exact Token.aligned_of_finishes scanned

theorem insideRows_first {n : Nat} (early : n ≤ x.rows.length) :
    n ∈ insideRows (x ++ newline :: y) ↔ n ∈ insideRows x := by
  have alone : x.isAligned = true := by
    have placed := Token.aligned_of_finishes scanned
    rw [Text.rows_append, Token.withEnds_append _ (Text.rows_ne_nil y)] at placed
    rw [Text.isAligned, Token.rowsWithEnds_eq]
    exact Token.aligned_withEnds (Token.aligned_front placed)
  rw [insideRows_whole closed closed' paired paired' scanned, ← Text.beginsInString_iff closed paired alone,
    Text.BeginsInString, Text.BeginsInString, above_first early]

theorem insideRows_second (aligned : y.isAligned = true) (n : Nat) :
    x.rows.length + (n + 1) ∈ insideRows (x ++ newline :: y) ↔ n + 1 ∈ insideRows y := by
  rw [insideRows_whole closed closed' paired paired' scanned, ← Text.beginsInString_iff closed' paired' aligned,
    Text.BeginsInString, Text.BeginsInString, above_second,
    Region.after_closed (r := .code) trivial x _ closed]

end

namespace Layout

theorem rowsFrom_congr {indent : Text} {inside inside' : List Nat} {rs : List Text} {n m : Nat}
    (same : ∀ i < rs.length, n + i ∈ inside ↔ m + i ∈ inside') :
    rowsFrom indent inside n rs = rowsFrom indent inside' m rs := by
  induction rs generalizing n m with
  | nil => rfl
  | cons r rs ih =>
    have first : n ∈ inside ↔ m ∈ inside' := same 0 (by simp)
    have later := @ih (n + 1) (m + 1) fun i short => by
      have next := same (i + 1) (by simpa using short)
      rwa [Nat.add_assoc, Nat.add_assoc, Nat.add_comm 1]
    rw [rowsFrom, rowsFrom, later, row, row]
    simp only [first]

theorem insideRows_late {t : Text} {n : Nat} (member : n ∈ insideRows t) : 1 < n := by
  rw [insideRows_eq, List.mem_flatMap] at member
  obtain ⟨k, token, later⟩ := member
  have start := Token.scan_from (Token.withEnds t.rows) (s := {}) (Nat.le_refl 1) (fun o none => by cases none)
    k token
  have between := Token.mem_laterRows.mp later
  omega

theorem rows_eq (indent t : Text) : rows indent t = rowsFrom indent (insideRows t) 1 t.rows := by
  unfold rows
  split
  · rename_i r single
    have outside : 1 ∉ insideRows t := fun member => absurd (insideRows_late member) (by omega)
    rw [single, rowsFrom, rowsFrom, row, row, if_neg outside, if_neg List.not_mem_nil]
  · rfl

theorem rowsFrom_getElem? (indent : Text) (inside : List Nat) (n k : Nat) (rs : List Text) :
    (rowsFrom indent inside n rs)[k]? = rs[k]?.map (row indent inside (n + k)) := by
  induction rs generalizing n k with
  | nil => rfl
  | cons r rs ih =>
    cases k with
    | zero => rfl
    | succ k =>
      rw [rowsFrom, List.getElem?_cons_succ, List.getElem?_cons_succ, ih, Nat.add_assoc, Nat.add_comm 1]

theorem length_rowsFrom (indent : Text) (inside : List Nat) (n : Nat) (rs : List Text) :
    (rowsFrom indent inside n rs).length = rs.length := by
  induction rs generalizing n with
  | nil => rfl
  | cons r rs ih => rw [rowsFrom, List.length_cons, List.length_cons, ih]

theorem rows_inside (indent : Text) {t : Text} {k : Nat} (inside : k + 1 ∈ insideRows t) :
    (rows indent t)[k]? = t.rows[k]? := by
  rw [rows_eq, rowsFrom_getElem?]
  cases t.rows[k]? with
  | none => rfl
  | some r => rw [Option.map_some, row, Nat.add_comm, if_pos inside]

end Layout

theorem Layout.rows_cut {x y : Text} (closed : x.ClosesStrings) (closed' : y.ClosesStrings)
    (paired : x.pairsReturns = true) (paired' : y.pairsReturns = true)
    (scanned : (x ++ newline :: y).scans = true) (aligned : y.isAligned = true) (indent : Text) :
    rows indent (x ++ newline :: y) = rows indent x ++ rows indent y := by
  rw [rows_eq, rows_eq, rows_eq, Text.rows_append, Library.rowsFrom_append]
  refine congrArg₂ _ (rowsFrom_congr fun i short => ?_) (rowsFrom_congr fun i short => ?_)
  · exact insideRows_first closed closed' paired paired' scanned (by omega)
  · rw [Nat.add_comm 1, Nat.add_assoc, Nat.add_comm 1]
    exact insideRows_second closed closed' paired paired' scanned aligned i

namespace Buffer

theorem segmentRows_with (b : Buffer) (segments : List Segment) (st : Store) (s : Segment) :
    { b with segments }.segmentRows st s = b.segmentRows st s := by
  cases s <;> rfl

theorem rowsAfter_with (b : Buffer) (segments : List Segment) (st : Store) (pending : Option (Nat × Text))
    (ss : List Segment) : { b with segments }.rowsAfter st pending ss = b.rowsAfter st pending ss := by
  have flushed : ∀ pending, { b with segments }.flush st pending = b.flush st pending := by
    rintro (none | ⟨n, none | ⟨c, t⟩⟩) <;> rfl
  induction ss generalizing pending with
  | nil => exact flushed pending
  | cons s ss ih =>
    rcases s.literal_or with ⟨n, t, rfl⟩ | other
    · match pending with
      | none => rw [rowsAfter, rowsAfter, ih]
      | some (m, u) => rw [rowsAfter, rowsAfter, flushed, ih, ih]
    · rw [rowsAfter_other _ other, rowsAfter_other _ other, flushed, segmentRows_with, ih]

theorem source_with (b : Buffer) (segments : List Segment) (st : Store) :
    { b with segments }.source st = (do return Text.ofRows (← b.rowsAfter st none segments)) :=
  congrArg (fun rows => rows >>= fun rs => pure (Text.ofRows rs)) (rowsAfter_with b segments st none segments)

/-- What follows a front of segments can be replaced by what gives the same rows behind any literals. -/
theorem rowsAfter_congr {b : Buffer} {st : Store} {more more' : List Segment}
    (same : ∀ pending, b.rowsAfter st pending more = b.rowsAfter st pending more') (front : List Segment)
    (pending : Option (Nat × Text)) :
    b.rowsAfter st pending (front ++ more) = b.rowsAfter st pending (front ++ more') := by
  induction front generalizing pending with
  | nil => exact same pending
  | cons s front ih =>
    rw [List.cons_append, List.cons_append]
    rcases s.literal_or with ⟨n, t, rfl⟩ | other
    · match pending with
      | none => rw [rowsAfter, rowsAfter, ih]
      | some (m, u) => rw [rowsAfter, rowsAfter, ih, ih]
    · rw [rowsAfter_other _ other, rowsAfter_other _ other, ih]

theorem segmentRows_raw (b : Buffer) (st : Store) (n : Nat) : ∃ indent? : Except Fault Text,
    ∀ t, b.segmentRows st (.raw n t) = indent?.map fun indent => Layout.rows indent t := by
  refine ⟨do repeated (← b.config.indentUnit) (.ofInt n), fun t => ?_⟩
  cases unit : b.config.indentUnit with
  | error e => rw [segmentRows, statement, unit]; rfl
  | ok u =>
    rw [segmentRows, statement, unit]
    cases repeated u (.ofInt n) <;> rfl

theorem rowsAfter_cut {b : Buffer} {st : Store} {n : Nat} {x y : Text}
    (whole : ∀ indent, Layout.rows indent (x ++ newline :: y) = Layout.rows indent x ++ Layout.rows indent y)
    (behind : List Segment) (pending : Option (Nat × Text)) :
    b.rowsAfter st pending (.raw n x :: .raw n y :: behind) =
      b.rowsAfter st pending (.raw n (x ++ newline :: y) :: behind) := by
  have raw : ∀ t m u, Segment.raw n t ≠ .literal m u := fun t m u same => by cases same
  have flushed : b.flush st none = .ok [] := rfl
  obtain ⟨indent?, written⟩ := segmentRows_raw b st n
  rw [rowsAfter_other _ (raw x), rowsAfter_other _ (raw y), rowsAfter_other _ (raw _), written, written,
    written, flushed]
  cases b.flush st pending with
  | error e => rfl
  | ok before =>
    cases indent? with
    | error e => rfl
    | ok indent =>
      cases b.rowsAfter st none behind with
      | error e => rfl
      | ok later =>
        have same : before ++ Layout.rows indent x ++ ([] ++ Layout.rows indent y ++ later) =
            before ++ Layout.rows indent (x ++ newline :: y) ++ later := by
          rw [whole, List.nil_append, List.append_assoc, List.append_assoc, List.append_assoc]
        exact congrArg Except.ok same

/-- Where raw source is cut does not matter if the second piece is aligned by itself, and the rows of it
that begin in strings are written as they are. -/
theorem source_cut {x y : Text} (closed : x.ClosesStrings) (closed' : y.ClosesStrings)
    (paired : x.pairsReturns = true) (paired' : y.pairsReturns = true)
    (scanned : (x ++ newline :: y).scans = true) (aligned : y.isAligned = true)
    (b : Buffer) (st : Store) (n : Nat) (front behind : List Segment) :
    { b with segments := front ++ Segment.raw n x :: .raw n y :: behind }.source st =
        { b with segments := front ++ Segment.raw n (x ++ newline :: y) :: behind }.source st ∧
      ∀ indent k, y.BeginsInString (k + 1) → (Layout.rows indent y)[k]? = y.rows[k]? ∧
        (Layout.rows indent (x ++ newline :: y))[x.rows.length + k]? = y.rows[k]? := by
  have whole := Layout.rows_cut closed closed' paired paired' scanned aligned
  refine ⟨?_, fun indent k inside => ?_⟩
  · have rows := rowsAfter_congr (@rowsAfter_cut b st n x y whole behind) front none
    rw [source_with, source_with, rows]
  · have inside : k + 1 ∈ insideRows y := (Text.beginsInString_iff closed' paired' aligned _).mp inside
    have row := Layout.rows_inside indent inside
    have length : (Layout.rows indent x).length = x.rows.length := by
      rw [Layout.rows_eq, Layout.length_rowsFrom]
    refine ⟨row, ?_⟩
    rw [whole, List.getElem?_append_right (by omega), length, Nat.add_sub_cancel_left, row]

/-- A definition, and a call behind it with a string of two rows. -/
theorem source_cut_definition :
    (wording "def f():\n  pass").ClosesStrings ∧ (wording "f('''\nfoo''')").ClosesStrings ∧
    (wording "def f():\n  pass").pairsReturns = true ∧ (wording "f('''\nfoo''')").pairsReturns = true ∧
    (wording "def f():\n  pass" ++ newline :: wording "f('''\nfoo''')").scans = true ∧
    (wording "f('''\nfoo''')").isAligned = true ∧
    (Layout.rows (Text.blanks 4) (wording "f('''\nfoo''')"))[1]? = (wording "f('''\nfoo''')").rows[1]? := by
  have closed : (wording "def f():\n  pass").ClosesStrings := by decide +kernel
  have closed' : (wording "f('''\nfoo''')").ClosesStrings := by decide +kernel
  have paired : (wording "def f():\n  pass").pairsReturns = true := by decide
  have paired' : (wording "f('''\nfoo''')").pairsReturns = true := by decide
  have scanned : (wording "def f():\n  pass" ++ newline :: wording "f('''\nfoo''')").scans = true := by
    decide +kernel
  have aligned : (wording "f('''\nfoo''')").isAligned = true := by decide +kernel
  have cut := source_cut closed closed' paired paired' scanned aligned (.ofConfig .standard) ⟨#[], #[]⟩ 1 [] []
  have inside : (wording "f('''\nfoo''')").BeginsInString 2 := ⟨⟨'\'', true⟩, by decide +kernel⟩
  exact ⟨closed, closed', paired, paired', scanned, aligned, (cut.2 (Text.blanks 4) 1 inside).1⟩

def outerBlock : Text := wording "if x:\n  if y:\n    q"

def innerEnd : Text := wording "    r\n  s = '''\nfoo\n'''"

/-- The second piece is not aligned by itself: its scan stops before the string, and the string is changed. -/
theorem source_cut_fails : outerBlock.ClosesStrings ∧ innerEnd.ClosesStrings ∧
    (outerBlock ++ newline :: innerEnd).scans = true ∧
    ((Buffer.ofConfig .standard).indent.appendRaw outerBlock |>.appendRaw innerEnd).source ⟨#[], #[]⟩ ≠
      ((Buffer.ofConfig .standard).indent.appendRaw (outerBlock ++ newline :: innerEnd)).source ⟨#[], #[]⟩ := by
  refine ⟨by decide +kernel, by decide +kernel, by decide +kernel, ?_⟩
  decide +kernel

end Buffer

end RenderSource
