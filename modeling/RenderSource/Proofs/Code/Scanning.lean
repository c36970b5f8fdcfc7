import RenderSource.Code.Token
import RenderSource.Proofs.Code.Pieces
/-!
Scanning source row by row. A row outside of strings gives tokens that stand in it alone, and tokens never
begin in front of the row where a scan begins, unless a string is open there.
-/
namespace RenderSource

namespace Lexeme

theorem at_quote (t : Text) {rest : Text} (single : rest.head? ≠ some (.scalar '"')) :
    at? (t.quote ++ rest) = some (.string t.quote.length) := by
  have untripled := Text.quote_untripled t single
  have length : t.quote.length = 0 + 1 + ((Text.quoteBody t).length + 1) := by
    simp [Text.quote]
    omega
  rw [Text.quote_cons] at untripled ⊢
  have size : numberSize (.scalar '"' :: (Text.quoteBody t ++ .scalar '"' :: rest)) = 0 :=
    numberSize_none (by decide) fun point => by cases point
  have string : string? (.scalar '"' :: (Text.quoteBody t ++ .scalar '"' :: rest)) =
      some (.string t.quote.length) := by
    rw [string?, openingQuote_quote, length]
    simp only [Option.bind_some, Nat.zero_add, List.drop_one, List.tail_cons, stringEnd_quoteBody]
    rfl
  have triple : tripleOpening? (.scalar '"' :: (Text.quoteBody t ++ .scalar '"' :: rest)) = none := by
    rw [tripleOpening?, openingQuote_quote]
    simp only [Option.bind_some, List.drop_zero, untripled]
    rfl
  rw [at?, triple, size, string]
  rfl

end Lexeme

namespace ScanState

theorem afterOperator_opened (s : ScanState) (t : Text) : (s.afterOperator t).opened = s.opened := by
  unfold afterOperator
  split
  · rfl
  · split <;> rfl

theorem enter_opened {s s' : ScanState} {column : Nat} (entered : s.enter? column = some s') :
    s'.opened = s.opened := by
  unfold enter? at entered
  dsimp only at entered
  split at entered
  · cases entered
    rfl
  · split at entered
    · cases entered
      rfl
    · cases entered

end ScanState

namespace Token

open Lexeme

/-- What a scan of a row gives: tokens of that row alone, and no string open but those open before and
one that begins in the row. -/
structure InRow (row : Nat) (opened : Option OpenString) (r : List Token × ScanState) : Prop where
  tokens : ∀ k ∈ r.1, k.startRow = row ∧ k.endRow = row
  strings : ∀ o ∈ r.2.opened, o ∈ opened ∨ o.row = row

theorem inRow_nil {row : Nat} {opened : Option OpenString} {s : ScanState}
    (strings : ∀ o ∈ s.opened, o ∈ opened ∨ o.row = row) : InRow row opened ([], s) :=
  ⟨List.forall_mem_nil _, strings⟩

theorem InRow.cons {row : Nat} {opened : Option OpenString} {r : List Token × ScanState} {k : Token}
    (later : InRow row opened r) (here : k.startRow = row ∧ k.endRow = row) :
    InRow row opened (k :: r.1, r.2) :=
  ⟨List.forall_mem_cons.mpr ⟨here, later.tokens⟩, later.strings⟩

theorem scanRow_inRow (row column : Nat) (t : Text) (s : ScanState) :
    InRow row s.opened (scanRow row column t s) := by
  fun_induction scanRow row column t s with
  | case1 => exact inRow_nil fun o member => .inl member
  | case2 column s c u gap rest start _ ts s' later _ ih =>
    rw [later] at ih
    exact ih.cons ⟨rfl, rfl⟩
  | case3 => exact inRow_nil fun o member => .inl member
  | case4 => exact inRow_nil fun o member => .inl member
  | case5 column s c u gap rest start token onward n mark _ k _ ih =>
    exact (ih (n + k) s).cons ⟨rfl, rfl⟩
  | case6 =>
    refine inRow_nil fun o member => .inr ?_
    cases member
    rfl
  | case7 =>
    refine inRow_nil fun o member => .inr ?_
    cases member
    rfl
  | case8 column s c u gap rest start token onward n _ ih =>
    have later := ih n (s.afterOperator (rest.take n))
    rw [s.afterOperator_opened] at later
    exact later.cons ⟨rfl, rfl⟩
  | case9 column s c u gap rest start token onward l _ _ _ _ _ _ ih =>
    exact (ih l.size s).cons ⟨rfl, rfl⟩

theorem scanStatement_inRow (row : Nat) (t : Text) (s : ScanState) :
    (∀ k ∈ (scanStatement row t s).1, k.startRow = row ∧ k.endRow = row) ∧
      ∀ s' ∈ (scanStatement row t s).2, ∀ o ∈ s'.opened, o ∈ s.opened ∨ o.row = row := by
  unfold scanStatement
  generalize indentation 0 0 t = blanks
  obtain ⟨column, count⟩ := blanks
  dsimp only
  cases t.drop count with
  | nil => exact ⟨List.forall_mem_nil _, fun s' none => by cases none⟩
  | cons c rest =>
    dsimp only
    split
    · exact ⟨List.forall_mem_singleton.mpr ⟨rfl, rfl⟩, fun s' same o member => by cases same; exact .inl member⟩
    · split
      · exact ⟨List.forall_mem_nil _, fun s' same o member => by cases same; exact .inl member⟩
      · cases entered : s.enter? column with
        | none => exact ⟨List.forall_mem_nil _, fun s' none => by cases none⟩
        | some s₁ =>
          have inRow := scanRow_inRow row count (c :: rest) s₁
          rw [ScanState.enter_opened entered] at inRow
          exact ⟨inRow.tokens, fun s' same o member => by cases same; exact inRow.strings o member⟩

theorem scanString_from {bound row : Nat} {t : Text} {o : OpenString} {s : ScanState}
    (here : bound ≤ row) (opened : bound ≤ o.row) :
    (∀ k ∈ (scanString row t o s).1, bound ≤ k.startRow) ∧
      ∀ o' ∈ (scanString row t o s).2.opened, bound ≤ o'.row := by
  unfold scanString
  cases closing? o.mark t with
  | some n =>
    have inRow := scanRow_inRow row n (t.drop n) { s with opened := none, continued := false }
    dsimp only
    refine ⟨List.forall_mem_cons.mpr ⟨opened, fun k member => ?_⟩, fun o' member => ?_⟩
    · rw [(inRow.tokens k member).1]
      exact here
    · rcases inRow.strings o' member with none | begins
      · cases none
      · rw [begins]
        exact here
  | none =>
    dsimp only
    split
    · exact ⟨List.forall_mem_singleton.mpr opened, fun o' none => by cases none⟩
    · refine ⟨List.forall_mem_nil _, fun o' same => ?_⟩
      cases same
      exact opened

theorem scan_cons {bound row : Nat} (t : Text) (rest : List Text) {s : ScanState} (here : bound ≤ row)
    (opened : ∀ o ∈ s.opened, bound ≤ o.row) :
    ∃ (ts : List Token) (s' : Option ScanState), scan row (t :: rest) s = ts ++ s'.elim [] (scan (row + 1) rest) ∧
      (∀ k ∈ ts, bound ≤ k.startRow) ∧ ∀ s₁ ∈ s', ∀ o ∈ s₁.opened, bound ≤ o.row := by
  rw [scan]
  cases string : s.opened with
  | some o =>
    have later := scanString_from (t := t) (s := s) here (opened o string)
    exact ⟨_, some _, rfl, later.1, fun s₁ same => by cases same; exact later.2⟩
  | none =>
    dsimp only
    split
    · have later := scanStatement_inRow row t s
      refine ⟨_, _, rfl, fun k member => ?_, fun s₁ same o member => ?_⟩
      · rw [(later.1 k member).1]
        exact here
      · rcases later.2 s₁ same o member with none | begins
        · rw [string] at none
          cases none
        · rw [begins]
          exact here
    · have later := scanRow_inRow row 0 t { s with opened := none, joined := false }
      refine ⟨_, some _, rfl, fun k member => ?_, fun s₁ same o member => ?_⟩
      · rw [(later.tokens k member).1]
        exact here
      · cases same
        rcases later.strings o member with none | begins
        · cases none
        · rw [begins]
          exact here

theorem scan_from {bound row : Nat} (rows : List Text) {s : ScanState} (here : bound ≤ row)
    (opened : ∀ o ∈ s.opened, bound ≤ o.row) : ∀ k ∈ scan row rows s, bound ≤ k.startRow := by
  induction rows generalizing row s with
  | nil => exact List.forall_mem_nil _
  | cons t rest ih =>
    obtain ⟨ts, s', split, first, later⟩ := scan_cons t rest here opened
    rw [split]
    intro k member
    rcases List.mem_append.mp member with inRow | after
    · exact first k inRow
    · cases s' with
      | none => cases after
      | some s₁ => exact ih (Nat.le_succ_of_le here) (later s₁ rfl) k after

def withEnds : List Text → List Text
  | [] => []
  | [last] => if last.isEmpty then [] else [last]
  | r :: rs => (r ++ [newline]) :: withEnds rs

theorem withEnds_append (rs : List Text) {more : List Text} (some : more ≠ []) :
    withEnds (rs ++ more) = rs.map (· ++ [newline]) ++ withEnds more := by
  induction rs with
  | nil => rfl
  | cons r rs ih =>
    obtain ⟨s, ss, rest⟩ := List.exists_cons_of_ne_nil (List.append_ne_nil_of_right_ne_nil rs some)
    rw [List.cons_append, List.map_cons, List.cons_append, ← ih, rest]
    rfl

theorem rowsWithEnds_eq (t : Text) : rowsWithEnds t = withEnds t.rows := by
  unfold rowsWithEnds
  rcases List.eq_nil_or_concat t.rows with none | ⟨front, last, split⟩
  · rw [none]
    rfl
  · rw [split, List.concat_eq_append, withEnds_append front (by simp), List.reverse_append]
    simp [withEnds]

/-- Lexemes that end in their row and leave no string open. -/
inductive Whole : Lexeme → Prop
  | name (n : Nat) : Whole (.name n)
  | number (n : Nat) : Whole (.number n)
  | string (n : Nat) : Whole (.string n)
  | newline (n : Nat) : Whole (.newline n)
  | operator (n : Nat) : Whole (.operator n)

def stateAfter (l : Lexeme) (t : Text) (s : ScanState) : ScanState :=
  match l with
  | .operator n => s.afterOperator (t.take n)
  | _ => s

theorem scanRow_lexeme {row column : Nat} (gap : Nat) {c : CodePoint} {u : Text} {l : Lexeme}
    (s : ScanState) (unblank : isBlankInRow c = false) (found : at? (c :: u) = some l) (whole : Whole l)
    (positive : 0 < l.size) {r : List Token × ScanState}
    (later : scanRow row (column + gap + l.size) ((c :: u).drop l.size) (stateAfter l (c :: u) s) = r) :
    scanRow row column (Text.blanks gap ++ c :: u) s =
      (⟨(c :: u).take l.size, row, column + gap, row, column + gap + l.size, false⟩ :: r.1, r.2) := by
  have length : (Text.blanks gap).length = gap := List.length_replicate
  have blanks : (Text.blanks gap ++ c :: u).takeWhile isBlankInRow = Text.blanks gap := by
    have all : ∀ d ∈ Text.blanks gap, isBlankInRow d = true := fun d member => by
      rw [List.eq_of_mem_replicate member]
      rfl
    rw [List.takeWhile_append_of_pos all, List.takeWhile_cons_of_neg (by simp [unblank]), List.append_nil]
  have behind : (Text.blanks gap ++ c :: u).drop gap = c :: u := List.drop_left' length
  obtain ⟨d, v, front⟩ := List.exists_cons_of_ne_nil (show Text.blanks gap ++ c :: u ≠ [] by simp)
  have rest : v.drop (gap + l.size - 1) = (c :: u).drop l.size := by
    rw [← behind, List.drop_drop, front]
    obtain ⟨n, same⟩ : ∃ n, gap + l.size = n + 1 := ⟨gap + l.size - 1, by omega⟩
    rw [same]
    rfl
  subst later
  rw [front] at blanks behind ⊢
  rw [scanRow]
  simp only [blanks, length, behind, found]
  cases whole <;> simp only [Lexeme.size, stateAfter] at rest ⊢ <;> rw [rest]

/-- Rows in front of others, none of which leaves anything open, change nothing for those that follow. -/
theorem scan_quiet {rows : List Text} {row : Nat}
    (quiet : ∀ p ∈ rows.zipIdx row, (scanStatement p.2 p.1 {}).2 = some {}) (rest : List Text) :
    ∃ ts, scan row (rows ++ rest) {} = ts ++ scan (row + rows.length) rest {} ∧
      ∀ k ∈ ts, k.endRow = k.startRow := by
  induction rows generalizing row with
  | nil => exact ⟨[], rfl, List.forall_mem_nil _⟩
  | cons t rows ih =>
    rw [List.zipIdx_cons] at quiet
    obtain ⟨first, later⟩ := List.forall_mem_cons.mp quiet
    obtain ⟨ts, scanned, flat⟩ := ih later
    have inRow := (scanStatement_inRow row t {}).1
    refine ⟨(scanStatement row t {}).1 ++ ts, ?_, fun k member => ?_⟩
    · have step : scan row (t :: (rows ++ rest)) {} =
          (scanStatement row t {}).1 ++ scan (row + 1) (rows ++ rest) {} := by
        rw [scan]
        dsimp only
        rw [if_pos (by decide), first]
        rfl
      rw [List.cons_append, step, scanned, List.append_assoc, List.length_cons,
        Nat.add_right_comm, Nat.add_assoc]
    · rcases List.mem_append.mp member with here | after
      · rw [(inRow k here).1, (inRow k here).2]
      · exact flat k after

end Token

def laterRows (k : Token) : List Nat :=
  (List.range (k.endRow - k.startRow)).map fun i => k.startRow + 1 + i

theorem laterRows_flat {ts : List Token} (flat : ∀ k ∈ ts, k.endRow = k.startRow) :
    ts.flatMap laterRows = [] := by
  rw [List.flatMap_eq_nil_iff]
  intro k member
  simp [laterRows, flat k member]

theorem insideRows_eq (t : Text) :
    insideRows t = (Token.scan 1 (Token.withEnds t.rows) {}).flatMap laterRows := by
  rw [← Token.rowsWithEnds_eq]
  rfl

end RenderSource
