import RenderSource.Code.Lexeme
import Mathlib.Data.List.Basic
/-!
Where the code points of a text stand: in code, in a comment, or in a string. The scan goes from left to
right and knows quotes, backslashes in strings and the sign of a comment, and nothing else of the
language.
-/
namespace RenderSource

inductive Region
  | code
  | comment
  | string (mark : QuoteMark)
  deriving DecidableEq, Repr

namespace Region

/-- How much a backslash hides: one code point, or a carriage return with its newline. -/
def hidden : Text → Nat
  | .scalar '\r' :: .scalar '\n' :: _ => 2
  | _ => 1

def twice (q : Char) (t : Text) : Bool := Text.beginsWith [.scalar q, .scalar q] t

/-- The region behind a text that begins in region `r`. There is none where a row ends in a
single-quoted string. -/
def after (r : Region) (t : Text) : Option Region :=
  match r, t with
  | r, [] => some r
  | code, c :: t =>
    if c = .scalar '#' then after comment t
    else match Lexeme.isQuote c with
      | none => after code t
      | some q =>
        if twice q t then after (string ⟨q, true⟩) (t.drop 2) else after (string ⟨q, false⟩) t
  | comment, c :: t => if c = newline then after code t else after comment t
  | string m, c :: t =>
    if c = .scalar '\\' then after (string m) (t.drop (hidden t))
    else if c = .scalar m.char then
      if !m.triple then after code t
      else if twice m.char t then after code (t.drop 2)
      else after (string m) t
    else if c = newline && !m.triple then none
    else after (string m) t
termination_by t.length
decreasing_by all_goals (simp only [List.length_cons, List.length_drop]; omega)

def open? : Region → Option QuoteMark
  | string m => some m
  | _ => none

end Region

def Text.ClosesStrings (t : Text) : Prop := (Region.after .code t).map Region.open? = some none

instance (t : Text) : Decidable t.ClosesStrings := inferInstanceAs (Decidable (_ = _))

theorem Lexeme.isQuote_some {c : CodePoint} {q : Char} (quote : isQuote c = some q) :
    c = .scalar q ∧ (q = '\'' ∨ q = '"') := by
  unfold isQuote at quote
  split at quote
  · rename_i same
    cases quote
    exact ⟨same, .inl rfl⟩
  · split at quote
    · rename_i same
      cases quote
      exact ⟨same, .inr rfl⟩
    · cases quote

def QuoteMark.IsQuote (m : QuoteMark) : Prop := m.char = '\'' ∨ m.char = '"'

theorem QuoteMark.IsQuote.ne {m : QuoteMark} (quote : m.IsQuote) {d : Char} (single : d ≠ '\'')
    (double : d ≠ '"') : CodePoint.scalar d ≠ .scalar m.char := by
  intro same
  cases same
  exact quote.elim single double

theorem QuoteMark.IsQuote.newline_ne {m : QuoteMark} (quote : m.IsQuote) : newline ≠ .scalar m.char :=
  quote.ne (by decide) (by decide)

theorem Text.beginsWith_iff {p t : Text} : beginsWith p t = true ↔ ∃ u, t = p ++ u := by
  rw [beginsWith, Option.isSome_iff_exists]
  induction p generalizing t with
  | nil => simp [dropFront?]
  | cons a p ih =>
    cases t with
    | nil => simp [dropFront?]
    | cons b t =>
      rw [dropFront?]
      by_cases same : a = b
      · simp [same, ih]
      · simp [same, Ne.symm same]

namespace Region

theorem twice_iff {q : Char} {t : Text} :
    twice q t = true ↔ ∃ u, t = .scalar q :: .scalar q :: u := Text.beginsWith_iff

/-- A row ends before a quote that could make two out of one. -/
theorem twice_append {q : Char} (inRow : newline ≠ .scalar q) (t x : Text) :
    twice q (t ++ newline :: x) = twice q t := by
  rw [Bool.eq_iff_iff, twice_iff, twice_iff]
  match t with
  | [] => simp [inRow]
  | [c] => simp [inRow]
  | c :: d :: u => simp

theorem drop_of_twice {q : Char} {t : Text} (double : twice q t = true) (x : Text) :
    (t ++ x).drop 2 = t.drop 2 ++ x := by
  obtain ⟨u, rfl⟩ := twice_iff.mp double
  rfl

def Real : Region → Prop
  | string m => m.IsQuote
  | _ => True

theorem drop_hidden (t x : Text) (some : t ≠ []) (unpaired : t ≠ [.scalar '\r']) :
    (t ++ x).drop (hidden (t ++ x)) = t.drop (hidden t) ++ x := by
  match t with
  | [] => exact absurd rfl some
  | [c] =>
    have other : c ≠ .scalar '\r' := fun same => unpaired (congrArg (fun c => [c]) same)
    have one : ∀ u, hidden (c :: u) = 1 := by
      intro u
      unfold hidden
      split
      · rename_i same
        exact absurd (List.cons.inj same).1 other
      · rfl
    rw [List.singleton_append, one, one]
    rfl
  | c :: d :: u =>
    have same : hidden (c :: d :: u ++ x) = hidden (c :: d :: u) := by
      unfold hidden
      split <;> split <;> simp_all
    have short : hidden (c :: d :: u) ≤ 2 := by
      unfold hidden
      split <;> simp
    rw [same, List.drop_append_of_le_length (by simp; omega)]

@[simp] theorem after_nil (r : Region) : after r [] = some r := by
  cases r <;> rw [after]

section Code

variable {c : CodePoint} {q : Char} {t : Text}

theorem after_sign (t : Text) : after code (.scalar '#' :: t) = after comment t := by
  rw [after, if_pos rfl]

theorem after_quiet (unsigned : c ≠ .scalar '#') (unquoted : Lexeme.isQuote c = none) :
    after code (c :: t) = after code t := by
  rw [after, if_neg unsigned, unquoted]

theorem unsigned_of_quote (quote : Lexeme.isQuote c = some q) : c ≠ .scalar '#' := by
  rintro rfl
  cases quote

theorem after_opening (quote : Lexeme.isQuote c = some q) (double : twice q t = true) :
    after code (c :: t) = after (string ⟨q, true⟩) (t.drop 2) := by
  rw [after, if_neg (unsigned_of_quote quote), quote]
  exact if_pos double

theorem after_quote (quote : Lexeme.isQuote c = some q) (single : twice q t = false) :
    after code (c :: t) = after (string ⟨q, false⟩) t := by
  rw [after, if_neg (unsigned_of_quote quote), quote]
  exact if_neg (Bool.eq_false_iff.mp single)

theorem after_remark (inRow : c ≠ newline) : after comment (c :: t) = after comment t := by
  rw [after, if_neg inRow]

end Code

section String

variable {m : QuoteMark} {c : CodePoint} {t : Text}

theorem after_backslash (m : QuoteMark) (t : Text) :
    after (string m) (.scalar '\\' :: t) = after (string m) (t.drop (hidden t)) := by
  rw [after, if_pos rfl]

theorem after_closing (quote : m.IsQuote) (single : m.triple = false) (t : Text) :
    after (string m) (.scalar m.char :: t) = after code t := by
  rw [after, if_neg (quote.ne (by decide) (by decide)).symm, if_pos rfl, single]
  rfl

theorem after_triple (quote : m.IsQuote) (triple : m.triple = true) (double : twice m.char t = true) :
    after (string m) (.scalar m.char :: t) = after code (t.drop 2) := by
  rw [after, if_neg (quote.ne (by decide) (by decide)).symm, if_pos rfl, triple, double]
  rfl

theorem after_lone (quote : m.IsQuote) (triple : m.triple = true) (lone : twice m.char t ≠ true) :
    after (string m) (.scalar m.char :: t) = after (string m) t := by
  rw [after, if_neg (quote.ne (by decide) (by decide)).symm, if_pos rfl, triple, if_neg lone]
  rfl

theorem after_inside (shown : c ≠ .scalar '\\') (other : c ≠ .scalar m.char)
    (inRow : (decide (c = newline) && !m.triple) = false) :
    after (string m) (c :: t) = after (string m) t := by
  rw [after, if_neg shown, if_neg other, if_neg (Bool.eq_false_iff.mp inRow)]

theorem after_broken (quote : m.IsQuote) (single : m.triple = false) (t : Text) :
    after (string m) (newline :: t) = none := by
  rw [after, if_neg (by decide), if_neg quote.newline_ne, single]
  rfl

end String

theorem isQuote_newline : Lexeme.isQuote newline = none := by decide

theorem after_code_newline (t : Text) : after code (newline :: t) = after code t :=
  after_quiet (by decide) isQuote_newline

theorem after_comment_newline (t : Text) : after comment (newline :: t) = after code t := by
  rw [after, if_pos rfl]

/-- What is read behind the end of a row does not depend on the row but for its region. -/
theorem after_row {r : Region} (real : r.Real) (t x : Text) :
    after r (t ++ newline :: x) = (after r (t ++ [newline])).bind fun r => after r x := by
  fun_induction after r t with
  | case1 r =>
    rw [List.nil_append, List.nil_append]
    cases r with
    | code => simp [after_code_newline]
    | comment => simp [after_comment_newline]
    | string m =>
      cases triple : m.triple with
      | true => simp [after_inside (by decide : newline ≠ _) real.newline_ne (by simp [triple])]
      | false => simp [after_broken real triple]
  | case2 t ih =>
    rw [List.cons_append, List.cons_append, after_sign, after_sign]
    exact ih real
  | case3 c t unsigned unquoted ih =>
    rw [List.cons_append, List.cons_append, after_quiet unsigned unquoted, after_quiet unsigned unquoted]
    exact ih real
  | case4 c t _ q quote double ih =>
    have mark : QuoteMark.IsQuote ⟨q, true⟩ := (Lexeme.isQuote_some quote).2
    rw [List.cons_append, List.cons_append, after_opening quote (by rw [twice_append mark.newline_ne, double]),
      after_opening quote (by rw [twice_append mark.newline_ne, double]), drop_of_twice double,
      drop_of_twice double]
    exact ih mark
  | case5 c t _ q quote single ih =>
    have mark : QuoteMark.IsQuote ⟨q, false⟩ := (Lexeme.isQuote_some quote).2
    have single : twice q t = false := Bool.eq_false_iff.mpr single
    rw [List.cons_append, List.cons_append, after_quote quote (by rw [twice_append mark.newline_ne, single]),
      after_quote quote (by rw [twice_append mark.newline_ne, single])]
    exact ih mark
  | case6 t ih =>
    rw [List.cons_append, List.cons_append, after_comment_newline, after_comment_newline]
    exact ih trivial
  | case7 c t inRow ih =>
    rw [List.cons_append, List.cons_append, after_remark inRow, after_remark inRow]
    exact ih real
  | case8 m t ih =>
    rw [List.cons_append, List.cons_append, after_backslash, after_backslash]
    by_cases cut : t = [] ∨ t = [.scalar '\r']
    · -- the backslash hides the end of the row
      rcases cut with rfl | rfl <;> simp [hidden, newline]
    · obtain ⟨some, unpaired⟩ := not_or.mp cut
      rw [drop_hidden t _ some unpaired, drop_hidden t _ some unpaired]
      exact ih real
  | case9 m t single _ ih =>
    have single : m.triple = false := by simpa using single
    rw [List.cons_append, List.cons_append, after_closing real single, after_closing real single]
    exact ih trivial
  | case10 m t triple double _ ih =>
    have triple : m.triple = true := by simpa using triple
    rw [List.cons_append, List.cons_append,
      after_triple real triple (by rw [twice_append real.newline_ne, double]),
      after_triple real triple (by rw [twice_append real.newline_ne, double]),
      drop_of_twice double, drop_of_twice double]
    exact ih trivial
  | case11 m t triple lone _ ih =>
    have triple : m.triple = true := by simpa using triple
    rw [List.cons_append, List.cons_append,
      after_lone real triple (by rwa [twice_append real.newline_ne]),
      after_lone real triple (by rwa [twice_append real.newline_ne])]
    exact ih real
  | case12 m c t _ _ broken =>
    obtain ⟨rfl, single⟩ : c = newline ∧ m.triple = false := by simpa using broken
    rw [List.cons_append, List.cons_append, after_broken real single, after_broken real single]
    rfl
  | case13 m c t shown other inRow ih =>
    have inRow := Bool.eq_false_iff.mpr inRow
    rw [List.cons_append, List.cons_append, after_inside shown other inRow, after_inside shown other inRow]
    exact ih real

theorem ends_tail {c : CodePoint} {t : Text} (ends : (c :: t).getLast? = some newline)
    (inRow : c ≠ newline) : t.getLast? = some newline := by
  cases t with
  | nil => exact absurd (Option.some.inj ends) inRow
  | cons d u => rwa [List.getLast?_cons_cons] at ends

/-- A row that a scan enters in region `r`: it ends in a newline, or all of it has been read. -/
def EndsRow (r : Region) (t : Text) : Prop := t.getLast? = some newline ∨ t = [] ∧ r ≠ comment

theorem EndsRow.cons {r : Region} {c : CodePoint} {t : Text} (ends : EndsRow r (c :: t)) :
    (c :: t).getLast? = some newline := ends.resolve_right fun none => by cases none.1

theorem EndsRow.drop {r r' : Region} {c : CodePoint} {t : Text} (ends : EndsRow r (c :: t)) (n : Nat)
    (other : r' ≠ comment) : EndsRow r' (t.drop n) := by
  have last := ends.cons
  rw [List.getLast?_cons] at last
  rcases List.eq_nil_or_concat' (t.drop n) with none | ⟨front, d, split⟩
  · exact .inr ⟨none, other⟩
  · have whole : t = t.take n ++ (front ++ [d]) := by rw [← split, List.take_append_drop]
    rw [whole, ← List.append_assoc, List.getLast?_append] at last
    rw [split, EndsRow, List.getLast?_append]
    exact .inl (by simpa using last)

theorem after_ends {r r' : Region} (real : r.Real) {t : Text} (ends : EndsRow r t)
    (found : after r t = some r') : r'.Real ∧ r' ≠ comment := by
  fun_induction after r t with
  | case1 r =>
    cases found
    rcases ends with none | ⟨_, other⟩
    · cases none
    · exact ⟨real, other⟩
  | case2 t ih => exact ih trivial (.inl (ends_tail ends.cons (by decide))) found
  | case3 c t _ _ ih => exact ih trivial (ends.drop 0 (by decide)) found
  | case4 c t _ q quote _ ih =>
    exact ih (Lexeme.isQuote_some quote).2 (ends.drop 2 (by simp)) found
  | case5 c t _ q quote _ ih =>
    exact ih (Lexeme.isQuote_some quote).2 (ends.drop 0 (by simp)) found
  | case6 t ih => exact ih trivial (ends.drop 0 (by decide)) found
  | case7 c t inRow ih => exact ih trivial (.inl (ends_tail ends.cons inRow)) found
  | case8 m t ih => exact ih real (ends.drop _ (by simp)) found
  | case9 m t _ _ ih => exact ih trivial (ends.drop 0 (by decide)) found
  | case10 m t _ _ _ ih => exact ih trivial (ends.drop 2 (by decide)) found
  | case11 m t _ _ _ ih => exact ih real (ends.drop 0 (by simp)) found
  | case12 => cases found
  | case13 m c t _ _ _ ih => exact ih real (ends.drop 0 (by simp)) found

theorem after_closed_row {r : Region} (real : r.Real) (t : Text)
    (closed : (after r t).map open? = some none) : after r (t ++ [newline]) = some code := by
  fun_induction after r t with
  | case1 r =>
    cases r with
    | code => simp [after_code_newline]
    | comment => simp [after_comment_newline]
    | string m => cases closed
  | case2 t ih =>
    rw [List.cons_append, after_sign]
    exact ih real closed
  | case3 c t unsigned unquoted ih =>
    rw [List.cons_append, after_quiet unsigned unquoted]
    exact ih real closed
  | case4 c t _ q quote double ih =>
    have mark : QuoteMark.IsQuote ⟨q, true⟩ := (Lexeme.isQuote_some quote).2
    rw [List.cons_append, after_opening quote (by rw [twice_append mark.newline_ne, double]),
      drop_of_twice double]
    exact ih mark closed
  | case5 c t _ q quote single ih =>
    have mark : QuoteMark.IsQuote ⟨q, false⟩ := (Lexeme.isQuote_some quote).2
    rw [List.cons_append, after_quote quote (by rw [twice_append mark.newline_ne, Bool.eq_false_iff.mpr single])]
    exact ih mark closed
  | case6 t ih =>
    rw [List.cons_append, after_comment_newline]
    exact ih trivial closed
  | case7 c t inRow ih =>
    rw [List.cons_append, after_remark inRow]
    exact ih real closed
  | case8 m t ih =>
    rw [List.cons_append, after_backslash]
    by_cases cut : t = [] ∨ t = [.scalar '\r']
    · rcases cut with rfl | rfl <;> simp [hidden, open?] at closed
    · obtain ⟨some, unpaired⟩ := not_or.mp cut
      rw [drop_hidden t _ some unpaired]
      exact ih real closed
  | case9 m t single _ ih =>
    rw [List.cons_append, after_closing real (by simpa using single)]
    exact ih trivial closed
  | case10 m t triple double _ ih =>
    rw [List.cons_append,
      after_triple real (by simpa using triple) (by rw [twice_append real.newline_ne, double]),
      drop_of_twice double]
    exact ih trivial closed
  | case11 m t triple lone _ ih =>
    rw [List.cons_append,
      after_lone real (by simpa using triple) (by rwa [twice_append real.newline_ne])]
    exact ih real closed
  | case12 => cases closed
  | case13 m c t shown other inRow ih =>
    rw [List.cons_append, after_inside shown other (Bool.eq_false_iff.mpr inRow)]
    exact ih real closed

theorem after_closed {r : Region} (real : r.Real) (t x : Text)
    (closed : (after r t).map open? = some none) : after r (t ++ newline :: x) = after code x := by
  rw [after_row real, after_closed_row real t closed]
  rfl

end Region

end RenderSource
