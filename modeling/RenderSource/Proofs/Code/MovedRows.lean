import RenderSource.Code.Layout
import RenderSource.Proofs.Code.Moving
/-!
Scans of a text whose rows stand further right from the first one on, but for those that begin inside a string: row by
row they come to the same tokens, in states that differ in the columns of blocks and of open strings.
-/
namespace RenderSource.Token

open ScanState

variable {k row : Nat} {s s' : ScanState}

/-- The scan of rows knows the rows that begin inside strings. -/
def Marked (inside : List Nat) : Nat → List Text → ScanState → Prop
  | _, [], _ => True
  | row, t :: rest, s => (row ∈ inside ↔ s.opened.isSome) ∧
    ∀ s' ∈ (scanOne row t s).2, Marked inside (row + 1) rest s'

theorem Along.marked {inside : List Nat} {rs : List Text} {r : Region} (along : Along row rs s r)
    (found : ∀ n, row ≤ n →
      (n ∈ inside ↔ ∃ j, n = row + j ∧ ∃ m, Region.after r (rs.take j).flatten = some (.string m))) :
    Marked inside row rs s := by
  induction rs generalizing row s r with
  | nil => trivial
  | cons t rest ih =>
    obtain ⟨r', region, _, later⟩ := along.next
    refine ⟨?_, fun s' next => ih (later s' next) fun n behind => ?_⟩
    · rw [found row (Nat.le_refl row), Option.isSome_iff_exists, rows_open along.agrees]
      constructor
      · rintro ⟨j, same, m, string⟩
        obtain rfl : j = 0 := by omega
        rw [List.take_zero, List.flatten_nil, Region.after_nil] at string
        exact ⟨m, Option.some.inj string⟩
      · rintro ⟨m, rfl⟩
        exact ⟨0, rfl, m, Region.after_nil _⟩
    · rw [found n (by omega)]
      constructor
      · rintro ⟨j, same, m, string⟩
        obtain ⟨i, rfl⟩ : ∃ i, j = i + 1 := ⟨j - 1, by omega⟩
        rw [List.take_succ_cons, List.flatten_cons, region] at string
        exact ⟨i, by omega, m, string⟩
      · rintro ⟨i, same, m, string⟩
        refine ⟨i + 1, by omega, m, ?_⟩
        rw [List.take_succ_cons, List.flatten_cons, region, string]

section

variable {inside : List Nat} {r : Text}

theorem blank_row (inRow : newline ∉ r) (spaced : r.Spaced) (blank : r.isBlank = true) :
    r = Text.blanks r.length := by
  refine List.eq_replicate_iff.mpr ⟨rfl, fun c member => ?_⟩
  rcases spaced c member (List.all_eq_true.mp blank c member) with space | ends
  · exact space
  · exact absurd (ends ▸ member) inRow

theorem row_hidden (marked : row ∈ inside ↔ s.opened.isSome) (hidden : ¬(row ∈ inside ∨ r.isBlank = false)) :
    s.opened = none ∧ r.isBlank = true ∧ Layout.row (Text.blanks k) inside row r = [] := by
  rw [not_or, Bool.not_eq_false] at hidden
  obtain ⟨outside, blank⟩ := hidden
  refine ⟨by simpa [outside] using marked, blank, ?_⟩
  rw [Layout.row, if_neg outside, if_pos blank]

theorem scanOne_laid (moved : Moved k s s') (marked : row ∈ inside ↔ s.opened.isSome) {e : Text}
    (spaced : (r ++ e).Spaced) (placed : misaligned (r ++ e) s = false) (visible : row ∈ inside ∨ r.isBlank = false) :
    Alongside k (scanOne row (r ++ e) s) (scanOne row (Layout.row (Text.blanks k) inside row r ++ e) s') := by
  by_cases string : row ∈ inside
  · obtain ⟨o, opened⟩ := Option.isSome_iff_exists.mp (marked.mp string)
    rw [Layout.row, if_pos string]
    exact scanOne_inside moved opened
  · have fresh : s.opened = none := by simpa [string] using marked
    have shown := visible.resolve_left string
    rw [Layout.row, if_neg string, if_neg (by simp [shown]), List.append_assoc]
    exact scanOne_right moved fresh spaced placed

theorem scanOne_row (moved : Moved k s s') (marked : row ∈ inside ↔ s.opened.isSome)
    (inRow : newline ∉ r) (spaced : r.Spaced)
    (placed : misaligned (r ++ [newline]) s = false) :
    Alongside k (scanOne row (r ++ [newline]) s)
      (scanOne row (Layout.row (Text.blanks k) inside row r ++ [newline]) s') := by
  by_cases visible : row ∈ inside ∨ r.isBlank = false
  · exact scanOne_laid moved marked spaced.ended placed visible
  · obtain ⟨fresh, blank, laid⟩ := row_hidden (k := k) marked visible
    rw [laid, blank_row inRow spaced blank]
    exact scanOne_blank r.length moved fresh

end

theorem scan_single (t : Text) : scan row [t] s = (scanOne row t s).1 := by
  rw [scan_eq]
  cases (scanOne row t s).2 with
  | none => exact List.append_nil _
  | some s' => exact List.append_nil _

theorem scan_last {inside : List Nat} {r : Text} (moved : Moved k s s') (marked : row ∈ inside ↔ s.opened.isSome)
    (inRow : newline ∉ r) (spaced : r.Spaced) (nonempty : r ≠ []) (placed : misaligned r s = false) :
    seen (scan row (withEnds [Layout.row (Text.blanks k) inside row r]) s') = seen (scan row [r] s) := by
  by_cases visible : row ∈ inside ∨ r.isBlank = false
  · have laid : Layout.row (Text.blanks k) inside row r ≠ [] := by
      rw [Layout.row]
      split
      · exact nonempty
      · rename_i string
        rw [if_neg (by simp [visible.resolve_left string])]
        exact List.append_ne_nil_of_right_ne_nil _ nonempty
    have last : withEnds [Layout.row (Text.blanks k) inside row r] = [Layout.row (Text.blanks k) inside row r] :=
      if_neg (by simpa using laid)
    rw [← List.append_nil r] at spaced placed
    have here := scanOne_laid moved marked spaced placed visible
    rw [List.append_nil, List.append_nil] at here
    rw [last, scan_single, scan_single, here.tokens]
  · obtain ⟨fresh, blank, laid⟩ := row_hidden (k := k) marked visible
    rw [laid, scan_single, blank_row inRow spaced blank, scanOne_end _ fresh]
    rfl

theorem scan_laid {inside : List Nat} {rs : List Text} (moved : Moved k s s')
    (inRow : ∀ r ∈ rs, newline ∉ r) (spaced : ∀ r ∈ rs, r.Spaced)
    (placed : aligned row (withEnds rs) s = true) (marked : Marked inside row (withEnds rs) s) :
    seen (scan row (withEnds (Layout.rowsFrom (Text.blanks k) inside row rs)) s') =
      seen (scan row (withEnds rs) s) := by
  -- Along the rows, between states that stay `Moved`. The last row is the only one that may lack a newline.
  induction rs generalizing row s s' with
  | nil => rfl
  | cons r rest ih =>
    rw [List.forall_mem_cons] at inRow spaced
    cases rest with
    | nil =>
      by_cases hidden : r.isEmpty
      · obtain rfl := List.isEmpty_iff.mp hidden
        have row_eq : Layout.row (Text.blanks k) inside row [] = [] := by
          rw [Layout.row, if_pos (show Text.isBlank [] = true from rfl), ite_self]
        rw [Layout.rowsFrom, row_eq]
        rfl
      · have last : withEnds [r] = [r] := if_neg hidden
        rw [last] at placed marked ⊢
        rw [aligned, Bool.and_eq_true, Bool.not_eq_true'] at placed
        exact scan_last moved marked.1 inRow.1 spaced.1 (by simpa using hidden) placed.1
    | cons next rest =>
      have laid : withEnds (Layout.rowsFrom (Text.blanks k) inside row (r :: next :: rest)) =
          (Layout.row (Text.blanks k) inside row r ++ [newline]) ::
            withEnds (Layout.rowsFrom (Text.blanks k) inside (row + 1) (next :: rest)) :=
        withEnds_cons _ (List.cons_ne_nil _ _)
      rw [withEnds_cons r (List.cons_ne_nil next rest)] at placed marked ⊢
      rw [aligned, Bool.and_eq_true, Bool.not_eq_true'] at placed
      obtain ⟨here, later⟩ := marked
      obtain ⟨tokens, states⟩ := scanOne_row moved here inRow.1 spaced.1 placed.1
      rw [laid, scan_eq, scan_eq, seen_append, seen_append, tokens]
      refine congrArg _ ?_
      rcases after : (scanOne row (r ++ [newline]) s).2 with _ | s₁
      · rw [after] at states
        generalize (scanOne row (Layout.row (Text.blanks k) inside row r ++ [newline]) s').2 = after' at *
        cases states
        rfl
      · rw [after] at states placed
        generalize (scanOne row (Layout.row (Text.blanks k) inside row r ++ [newline]) s').2 = after' at *
        cases states with
        | some moved' => exact ih moved' inRow.2 spaced.2 placed.2 (later s₁ after)

def moveStart (k : Nat) : ScanState := { indents := k :: if k = 0 then [] else [0] }

theorem moved_start (k : Nat) : Moved k {} (moveStart k) := by
  refine ⟨rfl, rfl, rfl, rfl, List.cons_ne_nil _ _, ?_⟩
  simp [moveStart]

theorem scan_start {c : CodePoint} {u : Text} (k : Nat) (rest : List Text) (visible : c.isBlank = false)
    (unsigned : c ≠ .scalar '#') :
    scan row ((Text.blanks k ++ c :: u) :: rest) {} = scan row ((Text.blanks k ++ c :: u) :: rest) (moveStart k) := by
  have other : ∀ {d : CodePoint}, d.isBlank = true → c ≠ d := by
    rintro d blank rfl
    rw [visible] at blank
    cases blank
  have front : indentation 0 0 (Text.blanks k ++ c :: u) = (k, k) := by
    rw [indentation_blanks, Nat.zero_add, indentation, if_neg (other (by decide)), if_neg (other (by decide)),
      if_neg (other (by decide))]
  have behind : (Text.blanks k ++ c :: u).drop k = c :: u := List.drop_left' List.length_replicate
  have entered : ScanState.enter? {} k = (moveStart k).enter? k := by
    by_cases none : k = 0
    · subst none
      rfl
    · simp [ScanState.enter?, moveStart, none, Nat.pos_of_ne_zero none]
  have here : scanOne row (Text.blanks k ++ c :: u) {} = scanOne row (Text.blanks k ++ c :: u) (moveStart k) := by
    rw [scanOne_statement rfl rfl rfl, scanOne_statement rfl rfl rfl, scanStatement, scanStatement, front]
    dsimp only
    rw [behind]
    dsimp only
    have inRow : ¬(c = .scalar '\r' ∨ c = .scalar '\n') := not_or.mpr ⟨other (by decide), other (by decide)⟩
    rw [if_neg unsigned, if_neg inRow, if_neg unsigned, if_neg inRow, entered]
  rw [scan_eq, scan_eq, here]

theorem isStray_spec {k : Token} (stray : k.isStray = true) : k.isBroken = true ∧ k.startRow = k.endRow := by
  simpa [isStray] using stray

theorem flatMap_seen {β : Type} {f : Token → List β} (unplaced : ∀ k, f k.unplaced = f k)
    (stray : ∀ k, k.isStray = true → f k = []) (ts : List Token) : (seen ts).flatMap f = ts.flatMap f := by
  induction ts with
  | nil => rfl
  | cons k ts ih =>
    rw [List.flatMap_cons, ← ih]
    cases kept : k.isStray with
    | true => rw [seen_stray kept, stray k kept, List.nil_append]
    | false => rw [seen_kept kept, List.flatMap_cons, unplaced]

theorem strings_seen (ts : List Token) :
    ((seen ts).filter isString).map (·.text) = (ts.filter isString).map (·.text) := by
  have collected : ∀ us : List Token, (us.filter isString).map (·.text) =
      us.flatMap fun k => if k.isString then [k.text] else [] := by
    intro us
    rw [← List.filterMap_eq_map, List.filterMap_filter, List.filterMap_eq_flatMap_toList]
    congr 1
    funext k
    cases k.isString <;> rfl
  rw [collected, collected]
  apply flatMap_seen
  · intro k
    rfl
  · intro k stray
    simp [isString, (isStray_spec stray).1]

theorem laterRows_seen (ts : List Token) : (seen ts).flatMap laterRows = ts.flatMap laterRows := by
  apply flatMap_seen
  · intro k
    rfl
  · intro k stray
    simp [laterRows, (isStray_spec stray).2]

end RenderSource.Token
