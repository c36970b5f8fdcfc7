import RenderSource.Proofs.Code.BeforeQuotes
/-!
Scans of rows up to a double quote. Either the scan comes to the quote, and then the tokens in front of it and the
state there do not depend on what follows, or no token begins at its place.
-/
namespace RenderSource.Token

open Lexeme

def StartsAt (k : Token) (place : Nat × Nat) : Prop := k.startRow = place.1 ∧ k.startColumn = place.2

instance (k : Token) (place : Nat × Nat) : Decidable (k.StartsAt place) :=
  inferInstanceAs (Decidable (_ ∧ _))

structure Avoids (place : Nat × Nat) (ts : List Token) (opened : Option OpenString) : Prop where
  tokens : ∀ k ∈ ts, ¬k.StartsAt place
  strings : ∀ o ∈ opened, ¬(o.row = place.1 ∧ o.column = place.2)

theorem not_startsAt {k : Token} {place : Nat × Nat} (other : k.startColumn ≠ place.2) : ¬k.StartsAt place :=
  fun here => other here.2

theorem Avoids.cons {place : Nat × Nat} {k : Token} {ts : List Token} {opened : Option OpenString}
    (later : Avoids place ts opened) (first : ¬k.StartsAt place) : Avoids place (k :: ts) opened :=
  ⟨List.forall_mem_cons.mpr ⟨first, later.tokens⟩, later.strings⟩

/-- Where tokens and open strings of a stretch of a row begin. -/
structure Lies (row first behind : Nat) (opened : Option OpenString) (r : List Token × ScanState) : Prop where
  tokens : ∀ k ∈ r.1, k.startRow = row ∧ first ≤ k.startColumn ∧ k.startColumn < behind
  strings : ∀ o ∈ r.2.opened, o ∈ opened ∨ o.row = row ∧ first ≤ o.column ∧ o.mark.IsQuote

theorem lies_nil {row first behind : Nat} (s : ScanState) : Lies row first behind s.opened ([], s) :=
  ⟨List.forall_mem_nil _, fun _ member => .inl member⟩

theorem Lies.cons {row first first' behind behind' : Nat} {opened : Option OpenString} {k : Token}
    {r : List Token × ScanState} (later : Lies row first' behind' opened r) (here : k.startRow = row)
    (from_ : first ≤ k.startColumn) (upTo : k.startColumn < behind) (inner : first ≤ first')
    (outer : first' < behind' → behind' ≤ behind) :
    Lies row first behind opened (k :: r.1, r.2) := by
  constructor
  · refine List.forall_mem_cons.mpr ⟨⟨here, from_, upTo⟩, fun k member => ?_⟩
    obtain ⟨inRow, left, right⟩ := later.tokens k member
    have := outer (by omega)
    exact ⟨inRow, by omega, by omega⟩
  · intro o member
    rcases later.strings o member with before | ⟨inRow, left, quote⟩
    · exact .inl before
    · exact .inr ⟨inRow, by omega, quote⟩

theorem stride_opened {row start : Nat} {t : Text} {s : ScanState} {l : Lexeme} (found : at? t = some l) :
    (stride row start t s l).2.opened = s.opened ∨
      (stride row start t s l).1 = none ∧
        ∃ o ∈ (stride row start t s l).2.opened, o.row = row ∧ o.column = start ∧ o.mark.IsQuote := by
  cases at_begins found with
  | @opening n q quoted double =>
    obtain ⟨c, quote, _⟩ := quoted.front
    rw [stride]
    cases closing? ⟨q, true⟩ (t.drop (n + 3)) with
    | some k => exact .inl rfl
    | none => exact .inr ⟨rfl, _, rfl, rfl, rfl, (isQuote_some quote).2⟩
  | brokenString quoted single broken =>
    obtain ⟨c, quote, _⟩ := quoted.front
    exact .inr ⟨rfl, _, rfl, rfl, rfl, (isQuote_some quote).2⟩
  | operator => exact .inl (s.afterOperator_opened _)
  | _ => exact .inl rfl

theorem stride_nonempty {row start n : Nat} {t : Text} {s : ScanState} {l : Lexeme} (found : at? t = some l)
    (far : (stride row start t s l).1 = some n) : t ≠ [] := by
  rintro rfl
  cases found
  cases far

theorem scanRow_lies (row column : Nat) (t : Text) (s : ScanState) :
    Lies row column (column + t.length) s.opened (scanRow row column t s) := by
  -- A lexeme takes several code points at once, so the induction is on the length of what is left.
  induction length : t.length using Nat.strongRecOn generalizing column t s with
  | ind n ih =>
    subst length
    cases t with
    | nil =>
      rw [scanRow]
      exact lies_nil s
    | cons c u =>
      rw [List.length_cons] at ih ⊢
      cases found : at? ((c :: u).drop ((c :: u).takeWhile isBlankInRow).length) with
      | none =>
        rw [scanRow_stray rfl found]
        exact (ih _ (Nat.lt_succ_self _) (column + 1) u s rfl).cons rfl (Nat.le_refl _)
          (by dsimp only; omega) (by omega) (by omega)
      | some l =>
        rw [scanRow_lead rfl found]
        have short := List.length_drop (i := ((c :: u).takeWhile isBlankInRow).length) (l := c :: u)
        rw [List.length_cons] at short
        generalize ((c :: u).takeWhile isBlankInRow).length = gap at *
        generalize (c :: u).drop gap = rest at *
        have opened := @stride_opened row (column + gap) rest s l found
        have positive := fun m => @stride_positive row (column + gap) m rest s l found
        have nonempty := fun m => @stride_nonempty row (column + gap) m rest s l found
        generalize stride row (column + gap) rest s l = behind at *
        obtain ⟨far, s'⟩ := behind
        cases far with
        | none =>
          refine ⟨List.forall_mem_nil _, fun o member => ?_⟩
          rcases opened with same | ⟨_, o', opens, inRow, start, quote⟩
          · exact .inl (same ▸ member)
          · obtain rfl := Option.mem_unique member opens
            exact .inr ⟨inRow, by omega, quote⟩
        | some m =>
          have := positive m rfl
          have := List.length_pos_iff.mpr (nonempty m rfl)
          have same : s'.opened = s.opened := opened.resolve_right fun none => by cases none.1
          have less : (rest.drop m).length < u.length + 1 := by
            rw [List.length_drop]
            omega
          have later := ih _ less (column + gap + m) (rest.drop m) s' rfl
          rw [same] at later
          refine later.cons rfl (by dsimp only; omega) (by dsimp only; omega) (by omega) ?_
          rw [List.length_drop]
          omega

def followed (r : List Token × ScanState) (f : ScanState → List Token × ScanState) : List Token × ScanState :=
  (r.1 ++ (f r.2).1, (f r.2).2)

theorem blanks_front (p v : Text) :
    ((p ++ .scalar '"' :: v).takeWhile isBlankInRow).length = (p.takeWhile isBlankInRow).length := by
  rw [List.takeWhile_append]
  split
  · rename_i all
    rw [List.takeWhile_cons_of_neg (by decide), List.append_nil, all]
  · rfl

theorem scanRow_passed {row column : Nat} {c : CodePoint} {u : Text} {s : ScanState}
    (blank : ((c :: u).takeWhile isBlankInRow).length = (c :: u).length) : scanRow row column (c :: u) s = ([], s) := by
  have nothing : at? ((c :: u).drop (c :: u).length) = some .rowEnd := by
    rw [List.drop_length]
    rfl
  rw [scanRow_lead blank nothing]
  rfl

theorem Lies.avoids {row first behind place : Nat} {opened : Option OpenString} {r : List Token × ScanState}
    (lies : Lies row first behind opened r) (fresh : opened = none) (front : place < first) :
    Avoids (row, place) r.1 r.2.opened := by
  refine ⟨fun k member => not_startsAt ?_, fun o member here => ?_⟩
  · have := (lies.tokens k member).2.1
    dsimp only
    omega
  · rcases lies.strings o member with before | ⟨_, column, _⟩
    · rw [fresh] at before
      cases before
    · have := here.2
      dsimp only at this
      omega

/-- Behind a lexeme that passes a place nothing begins there, and the lexeme begins in front of it. -/
theorem proceed_beyond {row start place : Nat} {t : Text} {s : ScanState} {l : Lexeme} (found : at? t = some l)
    (passes : GoesBeyond place t l) (fresh : s.opened = none) (front : 0 < place) :
    Avoids (row, start + place) (proceed row start t (stride row start t s l)).1
      (proceed row start t (stride row start t s l)).2.opened := by
  have opened := @stride_opened row start t s l found
  have far := passes row start s
  generalize stride row start t s l = behind at *
  obtain ⟨far?, s'⟩ := behind
  cases far? with
  | none =>
    refine ⟨List.forall_mem_nil _, fun o member here => ?_⟩
    rcases opened with same | ⟨_, o', opens, _, column, _⟩
    · have member : o ∈ s'.opened := member
      rw [same, fresh] at member
      cases member
    · obtain rfl := Option.mem_unique member opens
      have := here.2
      dsimp only at this
      omega
  | some n =>
    have beyond := far n rfl
    have closed : s'.opened = none := (opened.resolve_right fun none => by cases none.1).trans fresh
    have later := scanRow_lies row (start + n) (t.drop n) s'
    exact (later.avoids closed (by omega)).cons (not_startsAt (by dsimp only; omega))

section

variable {row column : Nat} {s : ScanState} {l : Lexeme} {v : Text} (found : at? (.scalar '"' :: v) = some l)

include found

theorem scanRow_gap {c : CodePoint} {u : Text} (blank : ((c :: u).takeWhile isBlankInRow).length = (c :: u).length) :
    scanRow row column (c :: u ++ .scalar '"' :: v) s = scanRow row (column + (c :: u).length) (.scalar '"' :: v) s := by
  have blanks := (blanks_front (c :: u) v).trans blank
  have behind : (c :: u ++ .scalar '"' :: v).drop (c :: u).length = .scalar '"' :: v := List.drop_left
  have unblank : ((CodePoint.scalar '"' :: v).takeWhile isBlankInRow).length = 0 := by
    rw [List.takeWhile_cons_of_neg (by decide)]
    rfl
  rw [List.cons_append] at blanks behind ⊢
  rw [scanRow_lead blanks (by rw [behind]; exact found), behind, scanRow_lead unblank found]
  rfl

/-- A row comes to the quote as it comes to its end without the text from there, or it passes the place. -/
theorem scanRow_front (p : Text) (fresh : s.opened = none) :
    Avoids (row, column + p.length) (scanRow row column (p ++ .scalar '"' :: v) s).1
        (scanRow row column (p ++ .scalar '"' :: v) s).2.opened ∨
      (scanRow row column p s).2.opened = none ∧
        scanRow row column (p ++ .scalar '"' :: v) s =
          followed (scanRow row column p s) (scanRow row (column + p.length) (.scalar '"' :: v)) := by
  induction length : p.length using Nat.strongRecOn generalizing column p s with
  | ind n ih =>
    subst length
    cases p with
    | nil =>
      rw [scanRow, List.nil_append]
      exact .inr ⟨fresh, rfl⟩
    | cons c u =>
      by_cases blank : ((c :: u).takeWhile isBlankInRow).length = (c :: u).length
      · rw [scanRow_passed blank, scanRow_gap found blank]
        exact .inr ⟨fresh, rfl⟩
      have short := (List.takeWhile_prefix (l := c :: u) isBlankInRow).length_le
      have blanks := blanks_front (c :: u) v
      have behind := @List.drop_append_of_le_length _ _ (.scalar '"' :: v) _ short
      have left := List.length_drop (i := ((c :: u).takeWhile isBlankInRow).length) (l := c :: u)
      have some : (c :: u).drop ((c :: u).takeWhile isBlankInRow).length ≠ [] :=
        List.ne_nil_of_length_pos (by omega)
      have whole := @List.length_cons _ c u
      rw [List.cons_append] at blanks behind ⊢
      generalize passed : ((c :: u).takeWhile isBlankInRow).length = gap at *
      cases fronted some v with
      | beyond found passes =>
        have place : column + (c :: u).length = column + gap + ((c :: u).drop gap).length := by omega
        rw [scanRow_lead blanks (by rw [behind]; exact found), behind, place]
        exact .inl (proceed_beyond found passes fresh (by omega))
      | stray missing missing' =>
        have place : column + (c :: u).length = column + 1 + u.length := by omega
        rw [scanRow_stray blanks (by rw [behind]; exact missing), scanRow_stray passed missing', place]
        rcases @ih u.length (by omega) (column + 1) s u fresh rfl with avoids | ⟨closed, same⟩
        · exact .inl (avoids.cons (not_startsAt (by dsimp only; omega)))
        · exact .inr ⟨closed, by rw [same]; rfl⟩
      | @within l found found' same =>
        rw [scanRow_lead blanks (by rw [behind]; exact found), scanRow_lead passed found', behind]
        obtain ⟨n, s', inside, here, there⟩ := same row (column + gap) s
        have positive := stride_positive found' (by rw [here])
        have closed : s'.opened = none := by
          rcases @stride_opened row (column + gap) _ s l found' with opened | ⟨none, _⟩
          · rw [here] at opened
            exact opened.trans fresh
          · rw [here] at none
            cases none
        rw [here, there, proceed, proceed, List.drop_append_of_le_length inside, List.take_append_of_le_length inside]
        have place : column + (c :: u).length = column + gap + n + (((c :: u).drop gap).drop n).length := by
          rw [List.length_drop]
          omega
        have less : (((c :: u).drop gap).drop n).length < (c :: u).length := by
          rw [List.length_drop]
          omega
        rw [place]
        rcases @ih _ less (column + gap + n) s' (((c :: u).drop gap).drop n) closed rfl with avoids | ⟨closed', same⟩
        · exact .inl (avoids.cons (not_startsAt (by dsimp only; omega)))
        · exact .inr ⟨closed', by rw [same]; rfl⟩

end

theorem moved_refl {s : ScanState} (blocks : s.indents ≠ []) : ScanState.Moved 0 s s :=
  ⟨rfl, rfl, rfl, rfl, blocks, by simp⟩

theorem scanRow_blocks {row column : Nat} {t : Text} {s : ScanState} (blocks : s.indents ≠ []) :
    (scanRow row column t s).2.indents ≠ [] :=
  (@scanRow_moved 0 row column column t s s (moved_refl blocks)).2.blocks

theorem enter_blocks {s s' : ScanState} {column : Nat} (blocks : s.indents ≠ []) (entered : s.enter? column = some s') :
    s'.indents ≠ [] := by
  obtain ⟨_, _, moved⟩ := (moved_refl blocks).enter entered
  exact moved.blocks

/-- A state that a scan can come to, with strings that are open from places of a kind. -/
structure Sane (P : Nat → Nat → Prop) (s : ScanState) : Prop where
  strings : ∀ o ∈ s.opened, P o.row o.column ∧ o.mark.IsQuote
  blocks : s.indents ≠ []

theorem Sane.mono {P Q : Nat → Nat → Prop} {s : ScanState} (sane : Sane P s) (weaker : ∀ n c, P n c → Q n c) :
    Sane Q s :=
  ⟨fun o member => ⟨weaker _ _ (sane.strings o member).1, (sane.strings o member).2⟩, sane.blocks⟩

theorem scanRow_sane {P : Nat → Nat → Prop} {row column : Nat} {t : Text} {s : ScanState} (here : ∀ c, P row c)
    (sane : Sane P s) : (∀ k ∈ (scanRow row column t s).1, P k.startRow k.startColumn) ∧
      Sane P (scanRow row column t s).2 := by
  have lies := scanRow_lies row column t s
  refine ⟨fun k member => (lies.tokens k member).1 ▸ here _, fun o member => ?_, scanRow_blocks sane.blocks⟩
  rcases lies.strings o member with before | ⟨inRow, _, quote⟩
  · exact sane.strings o before
  · exact ⟨inRow ▸ here _, quote⟩

theorem scanStatement_read {row column count : Nat} {t u : Text} {c : CodePoint} {s : ScanState}
    (indented : indentation 0 0 t = (column, count)) (behind : t.drop count = c :: u) :
    scanStatement row t s =
      if c = .scalar '#' then
        ([⟨(c :: u).take ((comment? (c :: u)).elim 0 Lexeme.size), row, count, row,
          count + (comment? (c :: u)).elim 0 Lexeme.size, false⟩], some s)
      else if c = .scalar '\r' ∨ c = .scalar '\n' then ([], some s)
      else (s.enter? column).elim ([], none) fun s =>
        ((scanRow row count (c :: u) s).1, some (scanRow row count (c :: u) s).2) := by
  rw [scanStatement, indented]
  dsimp only
  rw [behind]
  cases s.enter? column <;> rfl

theorem scanOne_sane {P : Nat → Nat → Prop} {row : Nat} {t : Text} {s : ScanState} (here : ∀ c, P row c)
    (sane : Sane P s) : (∀ k ∈ (scanOne row t s).1, P k.startRow k.startColumn) ∧
      ∀ s' ∈ (scanOne row t s).2, Sane P s' := by
  cases opened : s.opened with
  | some o =>
    obtain ⟨start, quote⟩ := sane.strings o opened
    rw [scanOne_string opened, scanString]
    dsimp only
    cases closing? o.mark t with
    | some n =>
      have closed : Sane P { s with opened := none, continued := false } := ⟨fun o none => (by cases none), sane.blocks⟩
      obtain ⟨tokens, later⟩ := @scanRow_sane P row n (t.drop n) _ here closed
      exact ⟨List.forall_mem_cons.mpr ⟨start, tokens⟩, fun s' same => by cases same; exact later⟩
    | none =>
      dsimp only
      split
      · refine ⟨List.forall_mem_singleton.mpr start, fun s' same => ?_⟩
        cases same
        exact ⟨fun o none => (by cases none), sane.blocks⟩
      · refine ⟨List.forall_mem_nil _, fun s' same => ?_⟩
        cases same
        exact ⟨fun o' same => by cases same; exact ⟨start, quote⟩, sane.blocks⟩
  | none =>
    by_cases begins : s.brackets = 0 ∧ s.joined = false
    · rw [scanOne_statement opened begins.1 begins.2]
      have unread : ∀ s' ∈ some s, Sane P s' := fun s' same => by cases same; exact sane
      cases rest : t.drop (indentation 0 0 t).2 with
      | nil =>
        rw [scanStatement]
        dsimp only
        rw [rest]
        exact ⟨List.forall_mem_nil _, fun s' none => by cases none⟩
      | cons c u =>
        rw [scanStatement_read rfl rest]
        split
        · exact ⟨List.forall_mem_singleton.mpr (here _), unread⟩
        · split
          · exact ⟨List.forall_mem_nil _, unread⟩
          · cases entered : s.enter? (indentation 0 0 t).1 with
            | none => exact ⟨List.forall_mem_nil _, fun s' none => by cases none⟩
            | some s₁ =>
              have inner : Sane P s₁ := by
                refine ⟨fun o member => ?_, enter_blocks sane.blocks entered⟩
                rw [ScanState.enter_opened entered] at member
                exact sane.strings o member
              obtain ⟨tokens, later⟩ := @scanRow_sane P row (indentation 0 0 t).2 (c :: u) s₁ here inner
              exact ⟨tokens, fun s' same => by cases same; exact later⟩
    · rw [scanOne_onward opened begins]
      have inner : Sane P { s with joined := false } := ⟨sane.strings, sane.blocks⟩
      obtain ⟨tokens, later⟩ := @scanRow_sane P row 0 t _ here inner
      exact ⟨tokens, fun s' same => by cases same; exact later⟩

/-- What a row does that has a double quote behind its front: it comes to the quote from the front's tokens and
state, or it passes the place. -/
structure FrontOf (row : Nat) (s : ScanState) (p : Text) (front : List Token × ScanState) : Prop where
  blocks : front.2.indents ≠ []
  tokens : ∀ k ∈ front.1, ¬k.StartsAt (row, p.length)
  comes : ∀ v l, at? (.scalar '"' :: v) = some l →
    Avoids (row, p.length) (scanOne row (p ++ .scalar '"' :: v) s).1
        ((scanOne row (p ++ .scalar '"' :: v) s).2.bind (·.opened)) ∨
      front.2.opened = none ∧ scanOne row (p ++ .scalar '"' :: v) s =
        ((followed front (scanRow row p.length (.scalar '"' :: v))).1,
          some (followed front (scanRow row p.length (.scalar '"' :: v))).2)

theorem indentation_front (column count : Nat) (p v : Text) :
    indentation column count (p ++ .scalar '"' :: v) = indentation column count p ∧
      (indentation column count p).2 ≤ count + p.length := by
  induction p generalizing column count with
  | nil => exact ⟨rfl, Nat.le_refl _⟩
  | cons c p ih =>
    rw [List.cons_append, indentation, indentation, List.length_cons]
    split
    · obtain ⟨same, short⟩ := ih (column + 1) (count + 1)
      exact ⟨same, by omega⟩
    · split
      · obtain ⟨same, short⟩ := ih ((column / 8 + 1) * 8) (count + 1)
        exact ⟨same, by omega⟩
      · split
        · obtain ⟨same, short⟩ := ih 0 (count + 1)
          exact ⟨same, by omega⟩
        · exact ⟨rfl, Nat.le_add_right _ _⟩

section

variable {row : Nat} {s : ScanState}

theorem scanRow_inFront {column : Nat} {p t : Text} {s : ScanState} (short : column + t.length ≤ p.length) :
    ∀ k ∈ (scanRow row column t s).1, ¬k.StartsAt (row, p.length) := by
  intro k member
  have := ((scanRow_lies row column t s).tokens k member).2.2
  exact not_startsAt (by dsimp only; omega)

theorem front_onward (sane : Sane (fun n _ => n < row) s) (fresh : s.opened = none)
    (begins : ¬(s.brackets = 0 ∧ s.joined = false)) (p : Text) :
    FrontOf row s p (scanRow row 0 p { s with joined := false }) := by
  refine ⟨scanRow_blocks sane.blocks, scanRow_inFront (by omega), fun v l found => ?_⟩
  rw [scanOne_onward fresh begins]
  have front := @scanRow_front row 0 { s with joined := false } l v found p fresh
  rw [Nat.zero_add] at front
  rcases front with avoids | ⟨closed, same⟩
  · exact .inl avoids
  · exact .inr ⟨closed, by rw [same]⟩

theorem front_nothing (sane : Sane (fun n _ => n < row) s) {p : Text}
    (avoids : ∀ v, Avoids (row, p.length) (scanOne row (p ++ .scalar '"' :: v) s).1
      ((scanOne row (p ++ .scalar '"' :: v) s).2.bind (·.opened))) : ∃ front, FrontOf row s p front :=
  ⟨([], s), sane.blocks, List.forall_mem_nil _, fun v _ _ => .inl (avoids v)⟩

theorem front_statement (sane : Sane (fun n _ => n < row) s) (fresh : s.opened = none) (straight : s.brackets = 0)
    (apart : s.joined = false) (p : Text) : ∃ front, FrontOf row s p front := by
  have indented := fun v => (indentation_front 0 0 p v).1
  have short := (indentation_front 0 0 p []).2
  have left := List.length_drop (i := (indentation 0 0 p).2) (l := p)
  have behind := fun v => @List.drop_append_of_le_length _ p (.scalar '"' :: v)
    (indentation 0 0 p).2 (by omega)
  have unread : Avoids (row, p.length) [] s.opened := by
    rw [fresh]
    exact ⟨List.forall_mem_nil _, fun o none => by cases none⟩
  generalize indentation 0 0 p = blanks at *
  obtain ⟨column, count⟩ := blanks
  dsimp only at short left behind
  cases rest : p.drop count with
  | nil =>
    rw [rest] at left behind
    obtain rfl : count = p.length := by
      rw [List.length_nil] at left
      omega
    have read := fun v => (@scanOne_statement row (p ++ .scalar '"' :: v) s fresh straight apart).trans
      (scanStatement_read (indented v) (behind v))
    cases entered : s.enter? column with
    | none =>
      refine front_nothing sane fun v => ?_
      rw [read, if_neg (by decide), if_neg (by decide), entered]
      exact ⟨List.forall_mem_nil _, fun o none => by cases none⟩
    | some s₁ =>
      have closed : s₁.opened = none := (ScanState.enter_opened entered).trans fresh
      refine ⟨([], s₁), enter_blocks sane.blocks entered, List.forall_mem_nil _, fun v l found => .inr ⟨closed, ?_⟩⟩
      rw [read, if_neg (by decide), if_neg (by decide), entered]
      rfl
  | cons c u =>
    rw [rest] at left behind
    have place : p.length = count + (c :: u).length := by
      rw [List.length_cons] at left ⊢
      omega
    have read := fun v => (@scanOne_statement row (p ++ .scalar '"' :: v) s fresh straight apart).trans
      (scanStatement_read (indented v) (behind v))
    by_cases remark : c = .scalar '#'
    · refine front_nothing sane fun v => ?_
      rw [read, if_pos remark]
      exact unread.cons (not_startsAt (by rw [List.length_cons] at place; dsimp only; omega))
    by_cases ends : c = .scalar '\r' ∨ c = .scalar '\n'
    · refine front_nothing sane fun v => ?_
      rw [read, if_neg remark, if_pos ends]
      exact unread
    cases entered : s.enter? column with
    | none =>
      refine front_nothing sane fun v => ?_
      rw [read, if_neg remark, if_neg ends, entered]
      exact ⟨List.forall_mem_nil _, fun o none => by cases none⟩
    | some s₁ =>
      have closed : s₁.opened = none := (ScanState.enter_opened entered).trans fresh
      refine ⟨scanRow row count (c :: u) s₁, scanRow_blocks (enter_blocks sane.blocks entered),
        scanRow_inFront (by omega), fun v l found => ?_⟩
      have front := @scanRow_front row count s₁ l v found (c :: u) closed
      rw [read, if_neg remark, if_neg ends, entered, place]
      rcases front with avoids | ⟨closed', same⟩
      · exact .inl avoids
      · refine .inr ⟨closed', ?_⟩
        rw [← same]
        rfl

theorem front_string (sane : Sane (fun n _ => n < row) s) {o : OpenString} (opened : s.opened = some o) (p : Text) :
    ∃ front, FrontOf row s p front := by
  obtain ⟨before, quote⟩ := sane.strings o opened
  have early : ¬(o.row = row) := by omega
  cases closed : closing? o.mark p with
  | none =>
    refine ⟨([], s), sane.blocks, List.forall_mem_nil _, fun v l found => .inl ?_⟩
    rw [scanOne_string opened, scanString]
    dsimp only
    rcases closing_front quote p v with ⟨n, _, ends, _⟩ | ⟨_, long⟩
    · rw [closed] at ends
      cases ends
    · cases later : closing? o.mark (p ++ .scalar '"' :: v) with
      | some n =>
        have lies := scanRow_lies row n ((p ++ .scalar '"' :: v).drop n) { s with opened := none, continued := false }
        exact (lies.avoids rfl (long n later)).cons fun here => early here.1
      | none =>
        dsimp only
        split
        · exact ⟨List.forall_mem_singleton.mpr fun here => early here.1, fun o none => by cases none⟩
        · refine ⟨List.forall_mem_nil _, fun o' same here => ?_⟩
          cases same
          exact early here.1
  | some n =>
    have settled : ∀ v, n ≤ p.length ∧ closing? o.mark (p ++ .scalar '"' :: v) = some n := by
      intro v
      rcases closing_front quote p v with ⟨m, inside, ends, ends'⟩ | ⟨missing, _⟩
      · rw [closed] at ends
        cases ends
        exact ⟨inside, ends'⟩
      · rw [closed] at missing
        cases missing
    have inside := (settled []).1
    have place : n + (p.drop n).length = p.length := by
      rw [List.length_drop]
      exact Nat.add_sub_cancel' inside
    refine ⟨(⟨o.text ++ p.take n, o.row, o.column, row, n, false⟩ ::
        (scanRow row n (p.drop n) { s with opened := none, continued := false }).1,
      (scanRow row n (p.drop n) { s with opened := none, continued := false }).2),
      scanRow_blocks sane.blocks, ?_, fun v l found => ?_⟩
    · exact List.forall_mem_cons.mpr ⟨fun here => early here.1, scanRow_inFront (Nat.le_of_eq place)⟩
    · have front := @scanRow_front row n { s with opened := none, continued := false } l v found (p.drop n) rfl
      rw [place, ← List.drop_append_of_le_length inside] at front
      rw [scanOne_string opened, scanString, (settled v).2]
      dsimp only
      rw [List.take_append_of_le_length inside]
      rcases front with avoids | ⟨closed', same⟩
      · exact .inl (avoids.cons fun here => early here.1)
      · exact .inr ⟨closed', by rw [same]; rfl⟩

theorem scanOne_front (sane : Sane (fun n _ => n < row) s) (p : Text) : ∃ front, FrontOf row s p front := by
  cases opened : s.opened with
  | some o => exact front_string sane opened p
  | none =>
    by_cases begins : s.brackets = 0 ∧ s.joined = false
    · exact front_statement sane opened begins.1 begins.2 p
    · exact ⟨_, front_onward sane opened begins p⟩

end

end RenderSource.Token
