import RenderSource.Proofs.Code.MovedRows
import RenderSource.Proofs.Code.RowFronts
/-!
Where a quoted literal ends. A token that begins at a literal is the literal, whatever is quoted in it, and what
follows is read from the same state; so the rows that begin inside strings do not depend on what is quoted.
-/
namespace RenderSource

namespace Text

def endPlace (t : Text) : Nat × Nat := (t.rows.length, (t.rows.getLastD []).length)

/-- Rows of two texts: the last row of the first one and the first row of the second one are one row. -/
theorem rows_joined {t u first last : Text} {front more : List Text} (rows : t.rows = front ++ [last])
    (rows' : u.rows = first :: more) : (t ++ u).rows = front ++ (last ++ first) :: more := by
  induction t generalizing front last with
  | nil =>
    cases front with
    | nil =>
      cases rows
      exact rows'
    | cons r front =>
      have := congrArg List.length rows
      simp [Text.rows] at this
  | cons c t ih =>
    rw [Text.rows] at rows
    rw [List.cons_append, Text.rows]
    split at rows
    · rename_i ends
      cases front with
      | nil => exact absurd (List.cons.inj rows).2 (rows_ne_nil t)
      | cons r front =>
        obtain ⟨rfl, later⟩ := List.cons.inj rows
        rw [if_pos ends, ih later]
        rfl
    · rename_i inRow
      rw [if_neg inRow]
      obtain ⟨r, rs, split⟩ := List.exists_cons_of_ne_nil (rows_ne_nil t)
      rw [split] at rows
      cases front with
      | nil =>
        obtain ⟨rfl, rfl⟩ := List.cons.inj rows
        rw [@ih _ [] split]
        rfl
      | cons r' front =>
        obtain ⟨rfl, rfl⟩ := List.cons.inj rows
        rw [@ih _ (r :: front) split]
        rfl

theorem quote_inRow (t : Text) : newline ∉ t.quote := by
  intro member
  have fit := quote_fit t newline member
  rw [CodePoint.newline_unfit] at fit
  cases fit

theorem head_row {t first : Text} {more : List Text} {c : CodePoint} (rows : t.rows = first :: more)
    (head : first.head? = some c) : t.head? = some c := by
  cases t with
  | nil =>
    cases rows
    cases head
  | cons d t =>
    rw [Text.rows] at rows
    split at rows
    · cases rows
      cases head
    · split at rows
      · cases rows
        exact head
      · cases rows
        exact head

end Text

namespace Token

theorem moved_zero {s s' : ScanState} (moved : ScanState.Moved 0 s s') (fresh : s.opened = none) : s' = s := by
  have closed := moved.closed fresh
  have indents := moved.indents
  simp only [Nat.add_zero, List.map_id', if_pos, List.append_nil] at indents
  cases s
  cases s'
  cases closed
  cases fresh
  cases moved.continued
  cases moved.brackets
  cases moved.joined
  cases indents
  rfl

theorem scanOne_level {row : Nat} {t : Text} {s s' : ScanState} (moved : ScanState.Moved 0 s s') :
    Alongside 0 (scanOne row t s) (scanOne row t s') := by
  cases opened : s.opened with
  | some o => exact scanOne_inside moved opened
  | none =>
    rw [moved_zero moved opened]
    refine ⟨rfl, ?_⟩
    have sane : Sane (fun _ _ => True) s := ⟨fun o member => (by rw [opened] at member; cases member), moved.blocks⟩
    have later := (@scanOne_sane _ row t s (fun _ => trivial) sane).2
    cases next : (scanOne row t s).2 with
    | none => exact .none
    | some s₁ => exact .some (moved_refl (later s₁ next).blocks)

theorem scan_level {row : Nat} {rs : List Text} {s s' : ScanState} (moved : ScanState.Moved 0 s s') :
    seen (scan row rs s') = seen (scan row rs s) := by
  induction rs generalizing row s s' with
  | nil => rfl
  | cons t rest ih =>
    obtain ⟨tokens, states⟩ := @scanOne_level row t s s' moved
    rw [scan_eq, scan_eq, seen_append, seen_append, tokens]
    congr 1
    generalize (scanOne row t s).2 = next at *
    generalize (scanOne row t s').2 = next' at *
    cases states with
    | none => rfl
    | some moved' => exact ih moved'

/-- A scan of rows in front of others: its tokens and its state do not depend on those that follow. -/
theorem scan_fronts (rs : List Text) {row : Nat} {s : ScanState} (sane : Sane (fun n _ => n < row) s) :
    ∃ (ts : List Token) (s' : Option ScanState),
      (∀ rest, scan row (rs ++ rest) s = ts ++ s'.elim [] (scan (row + rs.length) rest)) ∧
      (∀ k ∈ ts, k.startRow < row + rs.length) ∧ ∀ s₁ ∈ s', Sane (fun n _ => n < row + rs.length) s₁ := by
  induction rs generalizing row s with
  | nil => exact ⟨[], some s, fun _ => rfl, List.forall_mem_nil _, fun s₁ same => by cases same; exact sane⟩
  | cons t rs ih =>
    have inner : Sane (fun n _ => n < row + 1) s := sane.mono fun n _ before => Nat.lt_succ_of_lt before
    obtain ⟨tokens, states⟩ := scanOne_sane (t := t) (fun _ => Nat.lt_succ_self row) inner
    have after : row + (t :: rs).length = row + 1 + rs.length := by
      rw [List.length_cons]
      omega
    rw [after]
    have early : ∀ k ∈ (scanOne row t s).1, k.startRow < row + 1 + rs.length :=
      fun k member => Nat.lt_add_right _ (tokens k member)
    cases next : (scanOne row t s).2 with
    | none =>
      refine ⟨(scanOne row t s).1, none, fun rest => ?_, early, fun s₁ none => by cases none⟩
      rw [List.cons_append, scan_eq, next]
      rfl
    | some s₁ =>
      obtain ⟨ts, s', whole, tokens', states'⟩ := ih (states s₁ next)
      refine ⟨(scanOne row t s).1 ++ ts, s', fun rest => ?_, List.forall_mem_append.mpr ⟨early, tokens'⟩, states'⟩
      rw [List.cons_append, scan_eq, next, List.append_assoc, ← whole]
      rfl

/-- What is so for all places further on and for the places of open strings is so for all places where tokens begin. -/
theorem scan_places {P : Nat → Nat → Prop} {row : Nat} {rs : List Text} {s : ScanState}
    (here : ∀ n c, row ≤ n → P n c) (sane : Sane P s) : ∀ k ∈ scan row rs s, P k.startRow k.startColumn := by
  induction rs generalizing row s with
  | nil => exact List.forall_mem_nil _
  | cons t rs ih =>
    obtain ⟨tokens, states⟩ := scanOne_sane (t := t) (fun c => here row c (Nat.le_refl row)) sane
    rw [scan_eq]
    refine List.forall_mem_append.mpr ⟨tokens, ?_⟩
    cases next : (scanOne row t s).2 with
    | none => exact List.forall_mem_nil _
    | some s₁ => exact ih (fun n c behind => here n c (Nat.le_of_succ_le behind)) (states s₁ next)

section

variable {row : Nat} {s : ScanState}

theorem scan_elsewhere {column : Nat} {more : List Text} (sane : Sane (fun _ _ => True) s)
    (strings : ∀ o ∈ s.opened, ¬(o.row = row ∧ o.column = column)) :
    ∀ k ∈ scan (row + 1) more s, ¬k.StartsAt (row, column) :=
  scan_places (P := fun n c => ¬(n = row ∧ c = column)) (fun _ _ behind here => by omega)
    ⟨fun o member => ⟨strings o member, (sane.strings o member).2⟩, sane.blocks⟩

theorem scan_avoids {column : Nat} {t : Text} {more : List Text} (sane : Sane (fun n _ => n < row) s)
    (avoids : Avoids (row, column) (scanOne row t s).1 ((scanOne row t s).2.bind (·.opened))) :
    ∀ k ∈ scan row (t :: more) s, ¬k.StartsAt (row, column) := by
  have always : Sane (fun _ _ => True) s := sane.mono fun _ _ _ => trivial
  have states := (@scanOne_sane _ row t s (fun _ => trivial) always).2
  have strings := avoids.strings
  rw [scan_eq]
  refine List.forall_mem_append.mpr ⟨avoids.tokens, ?_⟩
  cases next : (scanOne row t s).2 with
  | none => exact List.forall_mem_nil _
  | some s₁ =>
    rw [next] at strings
    exact scan_elsewhere (states s₁ next) strings

def ofLiteral (place : Nat × Nat) (t : Text) : Token :=
  ⟨t.quote, place.1, place.2, place.1, place.2 + t.quote.length, false⟩

/-- The tokens of what is left of a row from a column on, and of the rows that follow. -/
def scanBehind (row column : Nat) (t : Text) (more : List Text) (s : ScanState) : List Token :=
  (scanRow row column t s).1 ++ scan (row + 1) more (scanRow row column t s).2

variable {p f : Text} {front : List Token × ScanState} {more : List Text}

theorem scanRow_literal (single : f.head? ≠ some (.scalar '"')) (column : Nat) (t : Text) :
    scanRow row column (t.quote ++ f) s =
      (ofLiteral (row, column) t :: (scanRow row (column + t.quote.length) f s).1,
        (scanRow row (column + t.quote.length) f s).2) := by
  have found := Lexeme.at_quote t single
  have taken : (t.quote ++ f).take t.quote.length = t.quote := List.take_left
  have later : scanRow row (column + 0 + t.quote.length) ((t.quote ++ f).drop t.quote.length) s =
      scanRow row (column + t.quote.length) f s := by
    rw [List.drop_left]
    rfl
  have positive : 0 < t.quote.length := by simp [Text.quote]
  rw [Text.quote_cons] at found taken later ⊢
  have read := scanRow_lexeme 0 s rfl found (.string _) positive later
  rw [show Lexeme.size (.string t.quote.length) = t.quote.length from rfl, taken] at read
  exact read

theorem scan_literal (single : f.head? ≠ some (.scalar '"')) (sane : Sane (fun n _ => n < row) s)
    (comes : FrontOf row s p front) (t : Text)
    (starts : ∃ k ∈ scan row ((p ++ (t.quote ++ f)) :: more) s, k.StartsAt (row, p.length)) :
    front.2.opened = none ∧
      scan row ((p ++ (t.quote ++ f)) :: more) s =
        front.1 ++ ofLiteral (row, p.length) t :: scanBehind row (p.length + t.quote.length) f more front.2 := by
  have found := Lexeme.at_quote t single
  have literal := @scanRow_literal row front.2 f single p.length t
  rw [Text.quote_cons] at found literal starts ⊢
  rcases comes.comes _ _ found with avoids | ⟨closed, read⟩
  · -- the row passes the place, in a comment or in a string
    obtain ⟨k, member, here⟩ := starts
    exact absurd here (scan_avoids sane avoids k member)
  · refine ⟨closed, ?_⟩
    rw [scan_eq, read, followed, literal, List.append_assoc]
    rfl

theorem scan_literal_only (comes : FrontOf row s p front) (closed : front.2.opened = none) (t : Text) :
    ∀ k ∈ front.1 ++ ofLiteral (row, p.length) t :: scanBehind row (p.length + t.quote.length) f more front.2,
      k.StartsAt (row, p.length) → k = ofLiteral (row, p.length) t := by
  have positive : 0 < t.quote.length := by simp [Text.quote]
  have avoids := (scanRow_lies row (p.length + t.quote.length) f front.2).avoids closed
    (Nat.lt_add_of_pos_right positive)
  have always : Sane (fun _ _ => True) front.2 := ⟨fun o open_ => (by rw [closed] at open_; cases open_), comes.blocks⟩
  have state := (@scanRow_sane _ row (p.length + t.quote.length) f front.2 (fun _ => trivial) always).2
  intro k member here
  rcases List.mem_append.mp member with before | member
  · exact absurd here (comes.tokens k before)
  rcases List.mem_cons.mp member with literal | member
  · exact literal
  rcases List.mem_append.mp member with behind | later
  · exact absurd here (avoids.tokens k behind)
  · exact absurd here (scan_elsewhere state avoids.strings k later)

/-- Behind a literal the same is seen, wherever in its row the literal ends. -/
theorem scanBehind_seen (blocks : s.indents ≠ []) (column column' : Nat) :
    seen (scanBehind row column' f more s) = seen (scanBehind row column f more s) := by
  obtain ⟨tokens, moved⟩ := @scanRow_moved 0 row column column' f s s (moved_refl blocks)
  rw [scanBehind, scanBehind, seen_append, seen_append, tokens, scan_level moved]

end

section

variable (pre : Text) {post : Text} (single : post.head? ≠ some (.scalar '"'))

include single

theorem rows_around : ∃ (front : List Text) (p f : Text) (more : List Text),
    pre.endPlace = (1 + front.length, p.length) ∧ f.head? ≠ some (.scalar '"') ∧
      ∀ t : Text, rowsWithEnds (pre ++ t.quote ++ post) = front ++ (p ++ (t.quote ++ f)) :: more := by
  obtain none | ⟨front, p, rows⟩ := List.eq_nil_or_concat pre.rows
  · exact absurd none (Text.rows_ne_nil pre)
  obtain ⟨f, more, rows'⟩ := List.exists_cons_of_ne_nil (Text.rows_ne_nil post)
  rw [List.concat_eq_append] at rows
  have joined : ∀ t : Text, (pre ++ t.quote ++ post).rows = front ++ (p ++ (t.quote ++ f)) :: more := by
    intro t
    have quoted : t.quote.rows = [] ++ [t.quote] := Text.rows_of_no_newline _ (Text.quote_inRow t)
    rw [List.append_assoc]
    exact Text.rows_joined rows (Text.rows_joined quoted rows')
  have place : pre.endPlace = (1 + (front.map (· ++ [RenderSource.newline])).length, p.length) := by
    simp [Text.endPlace, rows, Nat.add_comm]
  have head : f.head? ≠ some (.scalar '"') := fun here => single (Text.head_row rows' here)
  refine ⟨front.map (· ++ [RenderSource.newline]), p, ?_⟩
  cases more with
  | nil =>
    refine ⟨f, [], place, head, fun t => ?_⟩
    have some : (p ++ (t.quote ++ f)).isEmpty = false := by simp [Text.quote]
    rw [rowsWithEnds_eq, joined, withEnds_append _ (List.cons_ne_nil _ _), withEnds, some]
    rfl
  | cons next more =>
    refine ⟨f ++ [RenderSource.newline], withEnds (next :: more), place, ?_, fun t => ?_⟩
    · rw [List.head?_append]
      cases f with
      | nil => decide
      | cons c f => exact head
    · rw [rowsWithEnds_eq, joined, withEnds_append _ (List.cons_ne_nil _ _), withEnds_cons _ (List.cons_ne_nil _ _),
        List.append_assoc, List.append_assoc]

theorem ofText_around : ∃ (before : List Token) (behind : Nat → List Token),
    (∀ n m, seen (behind n) = seen (behind m)) ∧
      ∀ t : Text, (∃ k ∈ ofText (pre ++ t.quote ++ post), k.StartsAt pre.endPlace) →
        ofText (pre ++ t.quote ++ post) = before ++ ofLiteral pre.endPlace t :: behind t.quote.length ∧
          ∀ k ∈ ofText (pre ++ t.quote ++ post), k.StartsAt pre.endPlace → k = ofLiteral pre.endPlace t := by
  obtain ⟨front, p, f, more, place, head, rows⟩ := rows_around pre single
  have start : Sane (fun n _ => n < 1) {} := ⟨fun o none => (by cases none), List.cons_ne_nil _ _⟩
  obtain ⟨ts, s', whole, early, sane⟩ := scan_fronts front start
  have apart : ∀ k ∈ ts, ¬k.StartsAt pre.endPlace := by
    intro k member here
    have := early k member
    rw [place] at here
    exact absurd here.1 (Nat.ne_of_lt this)
  have scanned : ∀ t : Text, ofText (pre ++ t.quote ++ post) =
      ts ++ s'.elim [] (scan (1 + front.length) ((p ++ (t.quote ++ f)) :: more)) :=
    fun t => by rw [ofText, rows, whole]
  cases s' with
  | none =>
    -- the scan ends in a row in front
    refine ⟨[], fun _ => [], fun _ _ => rfl, fun t starts => ?_⟩
    obtain ⟨k, member, here⟩ := starts
    rw [scanned] at member
    exact absurd here (apart k (by simpa using member))
  | some s =>
    obtain ⟨front', comes⟩ := scanOne_front (sane s rfl) p
    refine ⟨ts ++ front'.1, fun n => scanBehind (1 + front.length) (p.length + n) f more front'.2,
      fun n m => scanBehind_seen comes.blocks _ _, fun t starts => ?_⟩
    have later : ∃ k ∈ scan (1 + front.length) ((p ++ (t.quote ++ f)) :: more) s, k.StartsAt pre.endPlace := by
      obtain ⟨k, member, here⟩ := starts
      rw [scanned] at member
      exact ⟨k, (List.mem_append.mp member).resolve_left fun member => apart k member here, here⟩
    rw [place] at later
    obtain ⟨closed, read⟩ := scan_literal head (sane s rfl) comes t later
    have only := @scan_literal_only _ s p f front' more comes closed t
    have all := scanned t
    rw [Option.elim_some, read] at all
    rw [all, place]
    refine ⟨by rw [List.append_assoc], List.forall_mem_append.mpr ⟨fun k member here => ?_, only⟩⟩
    rw [place] at apart
    exact absurd here (apart k member)

end

theorem insideRows_around {place : Nat × Nat} {t u : Text} {before behind : List Token}
    (read : ofText u = before ++ ofLiteral place t :: behind) :
    insideRows u = before.flatMap laterRows ++ (seen behind).flatMap laterRows := by
  have collected : insideRows u = (ofText u).flatMap laterRows := rfl
  have flat : laterRows (ofLiteral place t) = [] := by simp [laterRows, ofLiteral]
  rw [collected, read, List.flatMap_append, List.flatMap_cons, flat, List.nil_append, laterRows_seen]

/-- A literal ends where it is read to, whatever is quoted in it: a token that begins where the literal does is the
literal, in one row, and what is quoted decides for no row whether it begins inside a string. -/
theorem literal_ends (s t pre post : Text) (single : post.head? ≠ some (.scalar '"'))
    (starts : ∃ k ∈ ofText (pre ++ s.quote ++ post), k.StartsAt pre.endPlace)
    (starts' : ∃ k ∈ ofText (pre ++ t.quote ++ post), k.StartsAt pre.endPlace) :
    (∀ k ∈ ofText (pre ++ s.quote ++ post), k.StartsAt pre.endPlace → k = ofLiteral pre.endPlace s) ∧
      (∀ k ∈ ofText (pre ++ t.quote ++ post), k.StartsAt pre.endPlace → k = ofLiteral pre.endPlace t) ∧
      insideRows (pre ++ t.quote ++ post) = insideRows (pre ++ s.quote ++ post) := by
  obtain ⟨before, behind, alike, read⟩ := ofText_around pre single
  obtain ⟨whole, only⟩ := read s starts
  obtain ⟨whole', only'⟩ := read t starts'
  refine ⟨only, only', ?_⟩
  rw [insideRows_around whole', insideRows_around whole, alike]

/-- A front and a back of a text. The back begins a string of two rows, further right in its row the longer the
literal is that stands in front of it. -/
def callFront : Text := wording "f = (\n  g("

def callBack : Text := wording ", \"\"\"k\nl\"\"\"))\n"

def callMark : Text := wording "#\"\n\\"

theorem literal_ends_call : callBack.head? ≠ some (.scalar '"') ∧
    (∃ k ∈ ofText (callFront ++ callMark.quote ++ callBack), k.StartsAt callFront.endPlace) ∧
    (∃ k ∈ ofText (callFront ++ Text.quote [] ++ callBack), k.StartsAt callFront.endPlace) ∧
    (∀ k ∈ ofText (callFront ++ callMark.quote ++ callBack), k.StartsAt callFront.endPlace →
      k = ofLiteral callFront.endPlace callMark) ∧
    (∀ k ∈ ofText (callFront ++ Text.quote [] ++ callBack), k.StartsAt callFront.endPlace →
      k = ofLiteral callFront.endPlace []) ∧
    insideRows (callFront ++ Text.quote [] ++ callBack) = insideRows (callFront ++ callMark.quote ++ callBack) := by
  have single : callBack.head? ≠ some (.scalar '"') := by decide
  have starts : ∃ k ∈ ofText (callFront ++ callMark.quote ++ callBack), k.StartsAt callFront.endPlace := by
    decide +kernel
  have starts' : ∃ k ∈ ofText (callFront ++ Text.quote [] ++ callBack), k.StartsAt callFront.endPlace := by
    decide +kernel
  exact ⟨single, starts, starts', literal_ends callMark [] callFront callBack single starts starts'⟩

example : insideRows (callFront ++ callMark.quote ++ callBack) = [3] := by decide +kernel

end Token

end RenderSource
