import RenderSource.Proofs.Code.Beginnings
import RenderSource.Proofs.Code.Scanning
import RenderSource.Proofs.Code.StringEnds
/-!
Scanning one row leaves a string open exactly if the row ends in a string, by the scan that knows
regions alone.
-/
namespace RenderSource

namespace Region

def openAfter (r : Region) (t : Text) : Option (Option QuoteMark) := (after r t).map open?

theorem openAfter_congr {r r' : Region} {t u : Text} (same : after r t = after r' u) :
    openAfter r t = openAfter r' u := congrArg (Option.map open?) same

theorem openAfter_nil (r : Region) : openAfter r [] = some r.open? := by
  rw [openAfter, after_nil]
  rfl

theorem openAfter_comment {t : Text} (like : RowLike t) :
    openAfter comment t = openAfter code
      (t.drop (t.takeWhile fun c => c != .scalar '\r' && c != .scalar '\n').length) := by
  induction t with
  | nil => rw [List.drop_nil, openAfter_nil, openAfter_nil]; rfl
  | cons c t ih =>
    by_cases ends : c = .scalar '\n'
    · rw [ends]
      exact openAfter_congr ((after_comment_newline t).trans (after_code_newline t).symm)
    · by_cases returns : c = .scalar '\r'
      · rw [returns] at like ⊢
        rw [like.return_last]
        refine openAfter_congr ?_
        rw [after_remark (by decide), after_comment_newline]
        exact ((after_quiet (by decide) (by decide)).trans (after_code_newline [])).symm
      · have inRow : c ≠ newline := ends
        have later := ih like.tail
        rw [openAfter_congr (after_remark inRow), later]
        simp [ends, returns]

theorem ends_left {t : Text} {m? : Option QuoteMark} (ends : t.getLast? = some newline ∨ m? = none)
    {n : Nat} (found : openAfter code (t.drop n) = some m?) :
    (t.drop n).getLast? = some newline ∨ m? = none := by
  rcases ends with last | none
  · by_cases long : t.length ≤ n
    · rw [List.drop_eq_nil_of_le long, openAfter_nil] at found
      exact .inr (Option.some.inj found).symm
    · left
      rw [List.getLast?_drop, if_neg long, last]
  · exact .inr none

end Region

namespace Lexeme

open Region (after openAfter openAfter_congr)

theorem rowEnd_open {t : Text} (like : RowLike t) {n : Nat} (ends : newlineSize? t = some n) :
    after .code t = some .code := by
  have quiet := (newlineSize_quiet ends).1.after
  have nothing : t.drop n = [] := by
    unfold newlineSize? at ends
    split at ends
    · cases ends
      rw [like.newline_last]
      rfl
    · cases ends
      rw [like.tail.newline_last]
      rfl
    · cases ends
  rw [quiet, nothing, Region.after_nil]

/-- How the regions of a row go on from a lexeme at its front. -/
def Leaves (t : Text) : Lexeme → Prop
  | .rowEnd => t = []
  | .rowJoin _ => after .code t = some .code
  | .opening n mark => 0 < n ∧ mark.IsQuote ∧ mark.triple = true ∧ after .code t = after (.string mark) (t.drop n)
  | .brokenString _ mark => mark.triple = false ∧ after .code t = some (.string mark)
  | l => 0 < l.size ∧ openAfter .code t = openAfter .code (t.drop l.size)

theorem Begins.leaves {t : Text} {l : Lexeme} (begins : Begins t l) (like : RowLike t) : Leaves t l := by
  cases begins with
  | rowEnd none => exact none
  | rowJoin front found =>
    subst front
    exact (Region.after_quiet (by decide) (by decide)).trans (rowEnd_open like.tail found)
  | comment front =>
    subst front
    refine ⟨by rw [size]; omega, ?_⟩
    rw [openAfter_congr (Region.after_sign _), Region.openAfter_comment like.tail, size, Nat.add_comm 1]
    rfl
  | @opening n q quoted double =>
    obtain ⟨c, quote, _⟩ := quoted.front
    refine ⟨by omega, (isQuote_some quote).2, rfl, ?_⟩
    rw [quoted.after_triple double, List.drop_drop]
  | @string n k q quoted single closed =>
    obtain ⟨c, quote, _⟩ := quoted.front
    refine ⟨by rw [size]; omega, openAfter_congr ?_⟩
    rw [quoted.after_single single, stringEnd_some (isQuote_some quote).2 (like.drop _) closed,
      if_neg Bool.false_ne_true, List.drop_drop, size]
  | @brokenString n k q quoted single broken =>
    obtain ⟨c, quote, _⟩ := quoted.front
    refine ⟨rfl, ?_⟩
    rw [quoted.after_single single, stringEnd_some (isQuote_some quote).2 (like.drop _) broken, if_pos rfl]
  | number quiet some => exact ⟨some, openAfter_congr quiet.after⟩
  | newline quiet some => exact ⟨some, openAfter_congr quiet.after⟩
  | operator quiet some => exact ⟨some, openAfter_congr quiet.after⟩
  | name quiet some => exact ⟨some, openAfter_congr quiet.after⟩

theorem passed_of_none {c : CodePoint} {u : Text} (like : RowLike (c :: u)) (missing : at? (c :: u) = none)
    {m? : Option QuoteMark} (found : openAfter .code (c :: u) = some m?)
    (ends : (c :: u).getLast? = some RenderSource.newline ∨ m? = none) : c.isQuiet = true := by
  obtain ⟨unsigned, quotes⟩ := at_none missing
  cases quote : isQuote c with
  | none => simp [CodePoint.isQuiet, unsigned, quote]
  | some q =>
    obtain ⟨single, unended⟩ := quotes q quote
    obtain ⟨r, region, rfl⟩ := Option.map_eq_some_iff.mp found
    rw [Region.after_quote quote single] at region
    obtain ⟨rfl, unfinished⟩ := stringEnd_none (isQuote_some quote).2 like.tail unended region
    rcases ends with last | none
    · refine absurd (Region.ends_tail last ?_) unfinished
      rintro rfl
      cases quote
    · cases none

end Lexeme

namespace ScanState

theorem afterOperator_continued (s : ScanState) (t : Text) :
    (s.afterOperator t).continued = s.continued := by
  unfold afterOperator
  split
  · rfl
  · split <;> rfl

theorem enter_continued {s s' : ScanState} {column : Nat} (entered : s.enter? column = some s') :
    s'.continued = s.continued := by
  unfold enter? at entered
  dsimp only at entered
  split at entered
  · cases entered
    rfl
  · split at entered
    · cases entered
      rfl
    · cases entered

end ScanState

namespace Token

open Lexeme Region

/-- A state in which the string `m?` is open, or none. -/
def Agrees (s : ScanState) : Option QuoteMark → Prop
  | none => s.opened = none ∧ s.continued = false
  | some m => ∃ o, s.opened = some o ∧ o.mark = m ∧ s.continued = !m.triple

theorem blank_quiet {c : CodePoint} (blank : isBlankInRow c = true) : c.isQuiet = true := by
  rw [CodePoint.isQuiet_iff]
  refine ⟨?_, ?_, ?_⟩ <;> (rintro rfl; revert blank; decide)

theorem blanks_quiet (t : Text) : QuietTo (t.takeWhile isBlankInRow).length t := by
  intro c member
  have front := List.prefix_iff_eq_take.mp (List.takeWhile_prefix (l := t) isBlankInRow)
  rw [← front] at member
  exact blank_quiet (List.mem_takeWhile_imp member)

theorem drop_behind (c : CodePoint) (u : Text) {gap n : Nat} (some : 0 < n) :
    u.drop (gap + n - 1) = ((c :: u).drop gap).drop n := by
  rw [List.drop_drop]
  obtain ⟨k, same⟩ : ∃ k, gap + n = k + 1 := ⟨gap + n - 1, by omega⟩
  rw [same]
  rfl

theorem left_behind {c : CodePoint} {u : Text} {gap n : Nat} {m? : Option QuoteMark}
    (like : RowLike (c :: u)) (ends : (c :: u).getLast? = some RenderSource.newline ∨ m? = none)
    (some : 0 < n) (found : openAfter .code (((c :: u).drop gap).drop n) = .some m?) :
    RowLike (u.drop (gap + n - 1)) ∧ openAfter .code (u.drop (gap + n - 1)) = .some m? ∧
      ((u.drop (gap + n - 1)).getLast? = .some RenderSource.newline ∨ m? = none) := by
  rw [drop_behind c u some]
  refine ⟨(like.drop gap).drop n, found, ?_⟩
  rw [List.drop_drop] at found ⊢
  exact ends_left ends found

/-- The scan of a row goes from lexeme to lexeme, and each leaves the region that is found behind it. -/
theorem scanRow_agrees {row column : Nat} {t : Text} {s : ScanState} {m? : Option QuoteMark}
    (like : RowLike t) (found : openAfter .code t = some m?)
    (ends : t.getLast? = some RenderSource.newline ∨ m? = none) (fresh : Agrees s none) :
    Agrees (scanRow row column t s).2 m? := by
  fun_induction scanRow row column t s with
  | case1 =>
    rw [openAfter_nil] at found
    cases found
    exact fresh
  | case2 column s c u gap rest start missing ts s' later _ ih =>
    have quiet : c.isQuiet = true := by
      by_cases blank : isBlankInRow c = true
      · exact blanks_quiet (c :: u) c (by simp [List.takeWhile_cons_of_pos blank])
      · have front : rest = c :: u := by
          show (c :: u).drop ((c :: u).takeWhile isBlankInRow).length = c :: u
          rw [List.takeWhile_cons_of_neg blank]
          rfl
        rw [front] at missing
        exact passed_of_none like missing found ends
    have behind := openAfter_congr (quietTo_one quiet u).after
    rw [behind] at found
    rw [later] at ih
    exact ih like.tail found (ends_left (n := 1) ends found) fresh
  | case3 column s c u gap rest start front =>
    have nothing : rest = [] := (at_begins front).leaves (like.drop gap)
    rw [openAfter_congr (blanks_quiet (c :: u)).after, show (c :: u).drop gap = [] from nothing,
      openAfter_nil] at found
    cases found
    exact fresh
  | case4 column s c u gap rest start n front =>
    have closed : after .code rest = some .code := (at_begins front).leaves (like.drop gap)
    rw [openAfter_congr ((blanks_quiet (c :: u)).after.trans (closed.trans (after_nil _).symm)),
      openAfter_nil] at found
    cases found
    exact fresh
  | case5 column s c u gap rest start token onward n mark front k closed ih =>
    obtain ⟨some, quote, triple, opens⟩ := (at_begins front).leaves (like.drop gap)
    have behind : after .code rest = after .code (rest.drop (n + k)) := by
      rw [opens, closing_some quote ((like.drop gap).drop n) closed, List.drop_drop]
    rw [openAfter_congr ((blanks_quiet (c :: u)).after.trans behind)] at found
    obtain ⟨like', found', ends'⟩ := left_behind like ends (by omega) found
    exact ih _ s like' found' ends' fresh
  | case6 column s c u gap rest start openHere n mark front unclosed =>
    obtain ⟨_, quote, triple, opens⟩ := (at_begins front).leaves (like.drop gap)
    obtain ⟨r, region, rfl⟩ := Option.map_eq_some_iff.mp found
    rw [(blanks_quiet (c :: u)).after] at region
    rw [closing_none quote ((like.drop gap).drop n) unclosed (opens.symm.trans region)]
    exact ⟨openHere mark, rfl, rfl, by rw [triple]; exact fresh.2⟩
  | case7 column s c u gap rest start openHere n mark front =>
    obtain ⟨single, opens⟩ := (at_begins front).leaves (like.drop gap)
    rw [openAfter_congr ((blanks_quiet (c :: u)).after.trans (opens.trans (after_nil _).symm)),
      openAfter_nil] at found
    cases found
    exact ⟨openHere mark, rfl, rfl, by rw [single]; rfl⟩
  | case8 column s c u gap rest start token onward n front ih =>
    obtain ⟨some, behind⟩ := (at_begins front).leaves (like.drop gap)
    rw [openAfter_congr (blanks_quiet (c :: u)).after] at found
    obtain ⟨like', found', ends'⟩ := left_behind like ends some (behind.symm.trans found)
    refine ih _ _ like' found' ends' ⟨?_, ?_⟩
    · rw [s.afterOperator_opened]
      exact fresh.1
    · rw [s.afterOperator_continued]
      exact fresh.2
  | case9 column s c u gap rest start token onward l _ _ _ _ _ front ih =>
    have leaves := (at_begins front).leaves (like.drop gap)
    obtain ⟨some, behind⟩ : 0 < l.size ∧ openAfter .code rest = openAfter .code (rest.drop l.size) := by
      cases l <;> first | exact leaves | simp_all
    rw [openAfter_congr (blanks_quiet (c :: u)).after] at found
    obtain ⟨like', found', ends'⟩ := left_behind like ends some (behind.symm.trans found)
    exact ih _ s like' found' ends' fresh

end Token

end RenderSource
