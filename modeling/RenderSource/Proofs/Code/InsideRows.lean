import RenderSource.Proofs.Code.RowScans
/-!
The rows that the scanner finds to begin inside strings are those that a scan by regions finds to, for a
text whose strings close, whose carriage returns stand before newlines and whose blocks are aligned.
-/
namespace RenderSource

namespace Token

open Lexeme Region

def scanOne (row : Nat) (t : Text) (s : ScanState) : List Token × Option ScanState :=
  match s.opened with
  | some o => let (ts, s) := scanString row t o s; (ts, some s)
  | none =>
    if s.brackets = 0 && !s.joined then scanStatement row t s
    else let (ts, s) := scanRow row 0 t { s with joined := false }; (ts, some s)

theorem scan_eq (row : Nat) (t : Text) (rest : List Text) (s : ScanState) :
    scan row (t :: rest) s =
      (scanOne row t s).1 ++ (scanOne row t s).2.elim [] (scan (row + 1) rest) := by
  rw [scan]
  rfl

def misaligned (t : Text) (s : ScanState) : Bool :=
  s.opened.isNone && s.brackets = 0 && !s.joined &&
    match t.drop (indentation 0 0 t).2 with
    | [] => false
    | c :: _ => c ≠ .scalar '#' && c ≠ .scalar '\r' && c ≠ .scalar '\n' &&
        (s.enter? (indentation 0 0 t).1).isNone

def aligned (row : Nat) : List Text → ScanState → Bool
  | [], _ => true
  | t :: rest, s => !misaligned t s && (scanOne row t s).2.all (aligned (row + 1) rest)

/-- The rows before row `bound` that an open string goes on in. -/
def Spans (opened : Option OpenString) (bound n : Nat) : Prop := ∃ o ∈ opened, o.row < n ∧ n < bound

theorem spans_none (bound n : Nat) : ¬Spans none bound n := by
  rintro ⟨_, missing, _⟩
  cases missing

theorem spans_some {o : OpenString} {bound n : Nat} :
    Spans (some o) bound n ↔ o.row < n ∧ n < bound := by simp [Spans]

theorem not_spans {opened : Option OpenString} {row n : Nat} (here : ∀ o ∈ opened, o.row = row) :
    ¬Spans opened (row + 1) n := by
  rintro ⟨o, member, after, before⟩
  rw [here o member] at after
  omega

/-- What a row of a scan does: each row that a string open before it spans is found by a token that ends
here, or is still spanned behind. -/
structure Passes (row : Nat) (opened : Option OpenString) (ts : List Token) (later : Option OpenString) : Prop where
  rows : ∀ n, n ∈ ts.flatMap laterRows ∨ Spans later (row + 1) n ↔ Spans opened (row + 1) n
  begun : ∀ o ∈ later, o.row < row + 1

theorem InRow.passes {row : Nat} {r : List Token × ScanState} (inRow : InRow row none r) :
    Passes row none r.1 r.2.opened := by
  have here : ∀ o ∈ r.2.opened, o.row = row := fun o member =>
    (inRow.strings o member).resolve_left fun none => by cases none
  have flat := laterRows_flat fun k member => by
    rw [(inRow.tokens k member).1, (inRow.tokens k member).2]
  refine ⟨fun n => ?_, fun o member => by rw [here o member]; omega⟩
  rw [flat]
  simp [not_spans here, spans_none]

theorem mem_laterRows {k : Token} {n : Nat} : n ∈ laterRows k ↔ k.startRow < n ∧ n ≤ k.endRow := by
  simp only [laterRows, List.mem_map, List.mem_range]
  constructor
  · rintro ⟨i, small, rfl⟩
    omega
  · intro between
    exact ⟨n - k.startRow - 1, by omega, by omega⟩

theorem scanString_passes {row : Nat} {t : Text} {o : OpenString} {s : ScanState} (earlier : o.row < row) :
    Passes row (some o) (scanString row t o s).1 (scanString row t o s).2.opened := by
  unfold scanString
  cases closing? o.mark t with
  | some n =>
    have later := (scanRow_inRow row n (t.drop n) { s with opened := none, continued := false }).passes
    refine ⟨fun i => ?_, later.begun⟩
    dsimp only
    rw [List.flatMap_cons, List.mem_append, or_assoc, later.rows i, mem_laterRows,
      or_iff_left (spans_none (row + 1) i), spans_some]
    exact and_congr_right fun _ => Nat.lt_succ_iff.symm
  | none =>
    dsimp only
    split
    · refine ⟨fun i => ?_, fun o none => by cases none⟩
      rw [or_iff_left (spans_none (row + 1) i), spans_some, List.flatMap_singleton, mem_laterRows]
      exact and_congr_right fun _ => Nat.lt_succ_iff.symm
    · refine ⟨fun i => ?_, fun o' same => ?_⟩
      · simp [Spans]
      · cases same
        exact Nat.lt_succ_of_lt earlier

theorem scanOne_passes {row : Nat} {t : Text} {s : ScanState} (earlier : ∀ o ∈ s.opened, o.row < row) :
    Passes row s.opened (scanOne row t s).1 ((scanOne row t s).2.bind ScanState.opened) := by
  unfold scanOne
  cases string : s.opened with
  | some o => exact scanString_passes (earlier o string)
  | none =>
    dsimp only
    split
    · have inRow := scanStatement_inRow row t s
      rw [string] at inRow
      exact InRow.passes (r := (_, { s with opened := (scanStatement row t s).2.bind ScanState.opened }))
        ⟨inRow.1, fun o member => by
          obtain ⟨s', some, opened⟩ := Option.bind_eq_some_iff.mp member
          exact inRow.2 s' some o opened⟩
    · have inRow := scanRow_inRow row 0 t { s with joined := false }
      rw [string] at inRow
      exact inRow.passes

theorem indentation_count (t : Text) (column count : Nat) :
    ∃ k, (indentation column count t).2 = count + k ∧ ∀ c ∈ t.take k, isBlankInRow c = true := by
  fun_induction indentation column count t with
  | case1 => exact ⟨0, rfl, fun c member => by cases member⟩
  | case2 column count t ih =>
    obtain ⟨k, same, blank⟩ := ih
    exact ⟨k + 1, by rw [same]; omega, List.forall_mem_cons.mpr ⟨rfl, blank⟩⟩
  | case3 column count t _ ih =>
    obtain ⟨k, same, blank⟩ := ih
    exact ⟨k + 1, by rw [same]; omega, List.forall_mem_cons.mpr ⟨rfl, blank⟩⟩
  | case4 column count t _ _ ih =>
    obtain ⟨k, same, blank⟩ := ih
    exact ⟨k + 1, by rw [same]; omega, List.forall_mem_cons.mpr ⟨rfl, blank⟩⟩
  | case5 => exact ⟨0, rfl, fun c member => by cases member⟩

theorem front_blank (t : Text) : ∀ c ∈ t.take (indentation 0 0 t).2, isBlankInRow c = true := by
  obtain ⟨k, same, blank⟩ := indentation_count t 0 0
  rw [same, Nat.zero_add]
  exact blank

theorem openAfter_remark {t : Text} (like : RowLike t) : openAfter comment t = some none := by
  induction t with
  | nil => exact openAfter_nil _
  | cons c t ih =>
    by_cases ends : c = RenderSource.newline
    · subst ends
      rw [like.newline_last]
      exact (openAfter_congr (after_comment_newline [])).trans (openAfter_nil _)
    · rw [openAfter_congr (after_remark ends)]
      exact ih like.tail

def Leads (t : Text) (s' : Option ScanState) (m? : Option QuoteMark) : Prop :=
  match s' with
  | none => t.getLast? ≠ some RenderSource.newline ∧ m? = none
  | some s => Agrees s m?

theorem scanStatement_leads {row : Nat} {t : Text} {s : ScanState} {m? : Option QuoteMark} (like : RowLike t)
    (found : openAfter code t = some m?) (ends : t.getLast? = some RenderSource.newline ∨ m? = none)
    (fresh : Agrees s none) (straight : s.brackets = 0) (apart : s.joined = false)
    (placed : misaligned t s = false) : Leads t (scanStatement row t s).2 m? := by
  unfold scanStatement
  unfold misaligned at placed
  have blank := front_blank t
  rw [fresh.1, straight, apart] at placed
  generalize indentation 0 0 t = blanks at blank placed ⊢
  obtain ⟨column, count⟩ := blanks
  dsimp only at blank placed ⊢
  have skipped := openAfter_congr (QuietTo.after fun c member => blank_quiet (blank c member))
  rw [skipped] at found
  cases rest : t.drop count with
  | nil =>
    rw [rest, openAfter_nil] at found
    cases found
    refine ⟨fun last => ?_, rfl⟩
    rw [List.take_of_length_le (List.drop_eq_nil_iff.mp rest)] at blank
    have blankLast := blank _ (List.mem_of_getLast? last)
    revert blankLast
    decide
  | cons c u =>
    have likeRest := like.drop count
    rw [rest] at found placed likeRest
    dsimp only at placed ⊢
    split
    · rename_i sign
      rw [sign, openAfter_congr (after_sign u), openAfter_remark likeRest.tail] at found
      cases found
      exact fresh
    · split
      · rename_i ends
        have closed : after code (c :: u) = some code := by
          rcases ends with rfl | rfl
          · rw [likeRest.return_last]
            exact rowEnd_open (t := [.scalar '\r', RenderSource.newline]) (by rwa [← likeRest.return_last]) rfl
          · exact rowEnd_open likeRest rfl
        rw [openAfter_congr (closed.trans (after_nil _).symm), openAfter_nil] at found
        cases found
        exact fresh
      · cases entered : s.enter? column with
        | none => simp_all
        | some s₁ =>
          have left := ends_left (n := count) ends (by rw [rest]; exact found)
          rw [rest] at left
          refine scanRow_agrees likeRest found left ⟨?_, ?_⟩
          · rw [ScanState.enter_opened entered, fresh.1]
          · rw [ScanState.enter_continued entered, fresh.2]

theorem scanString_agrees {row : Nat} {t : Text} {o : OpenString} {s : ScanState} {m? : Option QuoteMark}
    (quote : o.mark.IsQuote) (like : RowLike t) (continued : s.continued = !o.mark.triple)
    (found : openAfter (.string o.mark) t = some m?)
    (ends : t.getLast? = some RenderSource.newline ∨ m? = none) :
    Agrees (scanString row t o s).2 m? := by
  unfold scanString
  cases closes : closing? o.mark t with
  | some n =>
    rw [openAfter_congr (closing_some quote like closes)] at found
    exact scanRow_agrees (like.drop n) found (ends_left ends found) ⟨rfl, rfl⟩
  | none =>
    obtain ⟨r, region, rfl⟩ := Option.map_eq_some_iff.mp found
    obtain rfl := closing_none quote like closes region
    have last := ends.resolve_right fun none => by cases none
    have goesOn : (s.continued && !endsJoined t) = false := by
      cases triple : o.mark.triple with
      | true => rw [continued, triple]; rfl
      | false =>
        have joined := closing_joined quote triple like last closes (by rw [region]; rfl)
        rw [joined, Bool.not_true, Bool.and_false]
    dsimp only
    rw [goesOn]
    exact ⟨_, rfl, rfl, continued⟩

theorem scanOne_leads {row : Nat} {t : Text} {s : ScanState} {r : Region} {m? : Option QuoteMark}
    (real : r.Real) (inRow : r ≠ .comment) (like : RowLike t) (agrees : Agrees s r.open?)
    (found : openAfter r t = some m?) (ends : t.getLast? = some RenderSource.newline ∨ m? = none)
    (placed : misaligned t s = false) : Leads t (scanOne row t s).2 m? := by
  unfold scanOne
  cases r with
  | comment => exact absurd rfl inRow
  | string m =>
    obtain ⟨o, string, rfl, continued⟩ := agrees
    rw [string]
    exact scanString_agrees real like continued found ends
  | code =>
    have fresh : Agrees s none := agrees
    rw [fresh.1]
    dsimp only
    split
    · rename_i begins
      have begins : s.brackets = 0 ∧ s.joined = false := by simpa using begins
      exact scanStatement_leads like found ends fresh begins.1 begins.2 placed
    · exact scanRow_agrees like found ends ⟨rfl, fresh.2⟩

inductive EndedRows : List Text → Prop
  | nil : EndedRows []
  | last {r : Text} (like : RowLike r) : EndedRows [r]
  | cons {r : Text} {rs : List Text} (like : RowLike r) (ends : r.getLast? = some RenderSource.newline)
      (later : EndedRows rs) : EndedRows (r :: rs)

theorem rows_open {r : Region} {s : ScanState} (agrees : Agrees s r.open?) :
    (∃ o, s.opened = some o) ↔ ∃ m, r = .string m := by
  cases r with
  | string m =>
    obtain ⟨o, string, _⟩ := agrees
    exact ⟨fun _ => ⟨m, rfl⟩, fun _ => ⟨o, string⟩⟩
  | code => simp [agrees.1]
  | comment => simp [agrees.1]

theorem rows_split {P : Nat → Prop} {row n : Nat} :
    (∃ k, n = row + k ∧ P k) ↔ (n = row ∧ P 0) ∨ ∃ k, n = row + 1 + k ∧ P (k + 1) := by
  constructor
  · rintro ⟨k, rfl, holds⟩
    cases k with
    | zero => exact .inl ⟨rfl, holds⟩
    | succ k => exact .inr ⟨k, by omega, holds⟩
  · rintro (⟨rfl, holds⟩ | ⟨k, rfl, holds⟩)
    · exact ⟨0, rfl, holds⟩
    · exact ⟨k + 1, by omega, holds⟩

theorem spans_succ {opened : Option OpenString} {row n : Nat} (earlier : ∀ o ∈ opened, o.row < row) :
    Spans opened (row + 1) n ↔ Spans opened row n ∨ (n = row ∧ ∃ o, opened = some o) := by
  cases opened with
  | none => simp [spans_none]
  | some o =>
    have before := earlier o rfl
    simp [Spans]
    omega

theorem nil_inside {s : ScanState} {r : Region} (agrees : Agrees s r.open?) (closed : r.open? = none)
    (row n : Nat) : ¬(Spans s.opened row n ∨
      ∃ k, n = row + k ∧ ∃ m, after r (([] : List Text).take k).flatten = some (.string m)) := by
  rw [closed] at agrees
  rw [agrees.1]
  rintro (spans | ⟨k, _, m, string⟩)
  · exact spans_none row n spans
  · rw [List.take_nil, List.flatten_nil, after_nil] at string
    cases string
    cases closed

/-- The rows that are found from a row on: those a string open before it spans, and those at whose
beginning the scan by regions is in a string. -/
def Found (row : Nat) (rs : List Text) (s : ScanState) (r : Region) : Prop :=
  ∀ n, n ∈ (scan row rs s).flatMap laterRows ↔ Spans s.opened row n ∨
    ∃ k, n = row + k ∧ ∃ m, after r (rs.take k).flatten = some (.string m)

theorem Found.cons {row : Nat} {t : Text} {rest : List Text} {s : ScanState} {r r' : Region}
    (agrees : Agrees s r.open?) (earlier : ∀ o ∈ s.opened, o.row < row)
    (region : ∀ k, after r (t ++ (rest.take k).flatten) = after r' (rest.take k).flatten)
    (stops : (scanOne row t s).2 = none → rest = [] ∧ r'.open? = none)
    (later : ∀ s' ∈ (scanOne row t s).2, Found (row + 1) rest s' r') : Found row (t :: rest) s r := by
  intro n
  have passes := scanOne_passes (t := t) earlier
  have behind : n ∈ ((scanOne row t s).2.elim [] (scan (row + 1) rest)).flatMap laterRows ↔
      Spans ((scanOne row t s).2.bind ScanState.opened) (row + 1) n ∨
        ∃ k, n = row + 1 + k ∧ ∃ m, after r' (rest.take k).flatten = some (.string m) := by
    cases next : (scanOne row t s).2 with
    | none =>
      obtain ⟨rfl, closed⟩ := stops next
      have nothing := nil_inside (s := {}) (r := r') (by rw [closed]; exact ⟨rfl, rfl⟩) closed (row + 1) n
      exact iff_of_false List.not_mem_nil nothing
    | some s' => exact later s' next n
  have head : (∃ m, after r (List.take 0 (t :: rest)).flatten = some (.string m)) ↔ ∃ o, s.opened = some o := by
    rw [rows_open agrees]
    simp
  have parts := @rows_split (fun k => ∃ m, after r (List.take k (t :: rest)).flatten = some (.string m)) row n
  rw [scan_eq, List.flatMap_append, List.mem_append, behind, ← or_assoc, passes.rows, spans_succ earlier,
    parts, head, or_assoc]
  simp only [List.take_succ_cons, List.flatten_cons, region]

/-- What holds at the beginning of a row, of the scanner and of the scan by regions. -/
structure Along (row : Nat) (rs : List Text) (s : ScanState) (r : Region) : Prop where
  rows : EndedRows rs
  begins : rs ≠ [] → r.Real ∧ r ≠ .comment
  agrees : Agrees s r.open?
  earlier : ∀ o ∈ s.opened, o.row < row
  closed : openAfter r rs.flatten = some none
  placed : aligned row rs s = true

theorem Along.next {row : Nat} {t : Text} {rest : List Text} {s : ScanState} {r : Region}
    (along : Along row (t :: rest) s r) : ∃ r',
      (∀ k, after r (t ++ (rest.take k).flatten) = after r' (rest.take k).flatten) ∧
      ((scanOne row t s).2 = none → rest = [] ∧ r'.open? = none) ∧
      ∀ s' ∈ (scanOne row t s).2, Along (row + 1) rest s' r' := by
  obtain ⟨rows, begins, agrees, earlier, closed, placed⟩ := along
  obtain ⟨real, inRow⟩ := begins (List.cons_ne_nil t rest)
  rw [aligned, Bool.and_eq_true, Bool.not_eq_true'] at placed
  have passes := scanOne_passes (t := t) earlier
  cases rows with
  | last like =>
    rw [List.flatten_singleton] at closed
    obtain ⟨r', region, none⟩ := Option.map_eq_some_iff.mp closed
    have leads := @scanOne_leads row _ _ _ _ real inRow like agrees closed (.inr rfl) placed.1
    refine ⟨r', fun k => ?_, fun _ => ⟨rfl, none⟩, fun s' next => ?_⟩
    · rw [List.take_nil, List.flatten_nil, List.append_nil, region, after_nil]
    · rw [next] at leads passes
      refine ⟨.nil, fun some => absurd rfl some, ?_, passes.begun, ?_, rfl⟩
      · rw [none]
        exact leads
      · rw [List.flatten_nil, openAfter_nil, none]
  | cons like last later =>
    obtain ⟨t, rfl⟩ := List.getLast?_eq_some_iff.mp last
    have split : ∀ x, after r (t ++ [RenderSource.newline] ++ x) =
        (after r (t ++ [RenderSource.newline])).bind fun r => after r x := fun x => by
      rw [List.append_assoc]
      exact after_row real t x
    cases region : after r (t ++ [RenderSource.newline]) with
    | none =>
      rw [List.flatten_cons, openAfter, split, region] at closed
      cases closed
    | some r' =>
      rw [region] at split
      rw [List.flatten_cons, openAfter_congr (split _)] at closed
      have found : openAfter r (t ++ [RenderSource.newline]) = some r'.open? := by rw [openAfter, region]; rfl
      have leads := @scanOne_leads row _ _ _ _ real inRow like agrees found (.inl last) placed.1
      refine ⟨r', fun k => split _, fun stops => ?_, fun s' next => ?_⟩
      · rw [stops] at leads
        exact absurd last leads.1
      · rw [next] at leads passes placed
        exact ⟨later, fun _ => after_ends real (.inl last) region, leads, passes.begun, closed, placed.2⟩

/-- The induction is on the rows; the state of the scanner agrees with the region at the beginning of
each. -/
theorem Along.found {rs : List Text} {row : Nat} {s : ScanState} {r : Region} (along : Along row rs s r) :
    Found row rs s r := by
  induction rs generalizing row s r with
  | nil =>
    have closed := along.closed
    rw [List.flatten_nil, openAfter_nil] at closed
    exact fun n => iff_of_false List.not_mem_nil (nil_inside along.agrees (Option.some.inj closed) row n)
  | cons t rest ih =>
    obtain ⟨r', region, stops, later⟩ := along.next
    exact .cons along.agrees along.earlier region stops fun s' next => ih (later s' next)

end Token

end RenderSource
