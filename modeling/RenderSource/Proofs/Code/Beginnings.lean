import RenderSource.Proofs.Code.Quiet
/-!
What each lexeme says about the text that it begins, as far as strings and comments are concerned.
-/
namespace RenderSource.Lexeme

structure Quoted (t : Text) (n : Nat) (q : Char) (u : Text) : Prop where
  quiet : QuietTo n t
  front : ∃ c, isQuote c = some q ∧ t.drop n = c :: u

theorem openingQuote_quoted {t : Text} {n : Nat} {q : Char} (found : openingQuote? t = some (n, q)) :
    Quoted t n q (t.drop (n + 1)) := by
  obtain ⟨quiet, c, u, rest, quote⟩ := openingQuote_quiet found
  refine ⟨quiet, c, quote, ?_⟩
  rw [← List.drop_drop, rest]
  rfl

theorem tripled {t u : Text} {n : Nat} {q : Char} (quoted : Quoted t n q u) :
    Text.beginsWith [.scalar q, .scalar q, .scalar q] (t.drop n) = Region.twice q u := by
  obtain ⟨c, quote, rest⟩ := quoted.front
  rw [rest, (isQuote_some quote).1, Bool.eq_iff_iff, Region.twice_iff, Text.beginsWith_iff]
  simp

theorem Quoted.after_triple {t u : Text} {n : Nat} {q : Char} (quoted : Quoted t n q u)
    (double : Region.twice q u = true) :
    Region.after .code t = Region.after (.string ⟨q, true⟩) (u.drop 2) := by
  obtain ⟨c, quote, rest⟩ := quoted.front
  rw [quoted.quiet.after, rest, Region.after_opening quote double]

theorem Quoted.after_single {t u : Text} {n : Nat} {q : Char} (quoted : Quoted t n q u)
    (single : Region.twice q u = false) :
    Region.after .code t = Region.after (.string ⟨q, false⟩) u := by
  obtain ⟨c, quote, rest⟩ := quoted.front
  rw [quoted.quiet.after, rest, Region.after_quote quote single]

inductive Begins (t : Text) : Lexeme → Prop
  | rowJoin {n m : Nat} {u : Text} (front : t = .scalar '\\' :: u) (found : newlineSize? u = some m) :
      Begins t (.rowJoin n)
  | rowEnd (none : t = []) : Begins t .rowEnd
  | comment {u : Text} (front : t = .scalar '#' :: u) :
      Begins t (.comment (1 + (u.takeWhile fun c => c != .scalar '\r' && c != .scalar '\n').length))
  | opening {n : Nat} {q : Char} (quoted : Quoted t n q (t.drop (n + 1)))
      (double : Region.twice q (t.drop (n + 1)) = true) : Begins t (.opening (n + 3) ⟨q, true⟩)
  | string {n k : Nat} {q : Char} (quoted : Quoted t n q (t.drop (n + 1)))
      (single : Region.twice q (t.drop (n + 1)) = false)
      (closed : stringEnd? q (t.drop (n + 1)) = some (k, false)) : Begins t (.string (n + 1 + k))
  | brokenString {n k : Nat} {q : Char} (quoted : Quoted t n q (t.drop (n + 1)))
      (single : Region.twice q (t.drop (n + 1)) = false)
      (broken : stringEnd? q (t.drop (n + 1)) = some (k, true)) :
      Begins t (.brokenString (n + 1 + k) ⟨q, false⟩)
  | number {n : Nat} (quiet : QuietTo n t) (some : 0 < n) : Begins t (.number n)
  | newline {n : Nat} (quiet : QuietTo n t) (some : 0 < n) : Begins t (.newline n)
  | operator {n : Nat} (quiet : QuietTo n t) (some : 0 < n) : Begins t (.operator n)
  | name {n : Nat} (quiet : QuietTo n t) (some : 0 < n) : Begins t (.name n)

theorem rowJoin_begins {t : Text} {l : Lexeme} (found : rowJoin? t = some l) : Begins t l := by
  unfold rowJoin? at found
  split at found
  · obtain ⟨m, ends, rfl⟩ := Option.map_eq_some_iff.mp found
    exact .rowJoin rfl ends
  · cases found

theorem comment_begins {t : Text} {l : Lexeme} (found : comment? t = some l) : Begins t l := by
  unfold comment? at found
  split at found
  · cases found
    exact .comment rfl
  · cases found

theorem opening_begins {t : Text} {l : Lexeme} (found : tripleOpening? t = some l) : Begins t l := by
  obtain ⟨⟨n, q⟩, quote, found⟩ := Option.bind_eq_some_iff.mp found
  have quoted := openingQuote_quoted quote
  dsimp only at found
  rw [tripled quoted] at found
  split at found
  · rename_i double
    cases found
    exact .opening quoted double
  · cases found

theorem single_of_unopened {t : Text} {n : Nat} {q : Char} (quote : openingQuote? t = some (n, q))
    (unopened : tripleOpening? t = none) : Region.twice q (t.drop (n + 1)) = false := by
  rw [tripleOpening?, quote] at unopened
  dsimp only [Option.bind_some] at unopened
  rw [tripled (openingQuote_quoted quote)] at unopened
  split at unopened
  · cases unopened
  · rename_i single
    exact Bool.eq_false_iff.mpr single

theorem string_begins {t : Text} {l : Lexeme} (found : string? t = some l)
    (unopened : tripleOpening? t = none) : Begins t l := by
  obtain ⟨⟨n, q⟩, quote, found⟩ := Option.bind_eq_some_iff.mp found
  obtain ⟨⟨k, broken⟩, ends, found⟩ := Option.map_eq_some_iff.mp found
  have quoted := openingQuote_quoted quote
  have single := single_of_unopened quote unopened
  cases broken with
  | false =>
    cases found
    exact .string quoted single ends
  | true =>
    cases found
    exact .brokenString quoted single ends

/-- Each kind of lexeme begins its text, given that no kind before it does. -/
theorem at_begins {t : Text} {l : Lexeme} (found : at? t = some l) : Begins t l := by
  unfold at? at found
  split at found
  · rename_i none
    cases found
    exact .rowEnd (List.isEmpty_iff.mp none)
  · simp only [Option.or_eq_some_iff] at found
    rcases found with join | ⟨_, remark | ⟨_, opens | ⟨unopened, number | ⟨_, ends | ⟨_, operator |
      ⟨_, string | ⟨_, name⟩⟩⟩⟩⟩⟩⟩
    · exact rowJoin_begins join
    · exact comment_begins remark
    · exact opening_begins opens
    · split at number
      · cases number
      · rename_i some
        cases number
        exact .number (numberSize_quiet t) (Nat.pos_of_ne_zero some)
    · obtain ⟨n, size, rfl⟩ := Option.map_eq_some_iff.mp ends
      exact .newline (newlineSize_quiet size).1 (newlineSize_quiet size).2
    · obtain ⟨n, size, rfl⟩ := Option.map_eq_some_iff.mp operator
      exact .operator (operatorSize_quiet size).1 (operatorSize_quiet size).2
    · exact string_begins string unopened
    · obtain ⟨n, rfl, quiet, some⟩ := name_quiet name
      exact .name quiet some

/-- What stands where no lexeme begins: no sign of a comment, and no string that ends in its row. -/
theorem at_none {c : CodePoint} {u : Text} (missing : at? (c :: u) = none) :
    c ≠ .scalar '#' ∧
      ∀ q, isQuote c = some q → Region.twice q u = false ∧ stringEnd? q u = none := by
  unfold at? at missing
  simp only [List.isEmpty_cons, Bool.false_eq_true, ↓reduceIte, Option.or_eq_none_iff] at missing
  obtain ⟨_, remark, unopened, _, _, _, string, _⟩ := missing
  refine ⟨?_, fun q quote => ?_⟩
  · rintro rfl
    cases remark
  · have opening : openingQuote? (c :: u) = some (0, q) := by
      unfold openingQuote?
      simp only [quote]
    refine ⟨single_of_unopened opening unopened, ?_⟩
    rw [string?, opening] at string
    exact Option.map_eq_none_iff.mp string

end RenderSource.Lexeme
