import RenderSource.Code.Token
import RenderSource.Proofs.Code.Regions
/-!
Where a string ends in its row. The search for its end and the scan by regions hide the same code points
behind a backslash, as long as the row holds no newline but at its end.
-/
namespace RenderSource

/-- A row or the rest of one: a newline stands at its end only, and a carriage return only before it. -/
structure RowLike (t : Text) : Prop where
  ends : ∀ a b, t = a ++ newline :: b → b = []
  paired : ∀ a b, t = a ++ .scalar '\r' :: b → b.head? = some newline

namespace RowLike

variable {c : CodePoint} {t : Text}

theorem of_append {a : Text} (like : RowLike (a ++ t)) : RowLike t :=
  ⟨fun b d split => like.ends (a ++ b) d (by rw [split, List.append_assoc]),
    fun b d split => like.paired (a ++ b) d (by rw [split, List.append_assoc])⟩

theorem drop (like : RowLike t) (n : Nat) : RowLike (t.drop n) := by
  rw [← List.take_append_drop n t] at like
  exact like.of_append

theorem tail (like : RowLike (c :: t)) : RowLike t := like.drop 1

theorem newline_last (like : RowLike (newline :: t)) : t = [] := like.ends [] t rfl

theorem not_newline {d : CodePoint} (like : RowLike (c :: d :: t)) : c ≠ newline := by
  rintro rfl
  cases like.newline_last

theorem return_last (like : RowLike (.scalar '\r' :: t)) : t = [newline] := by
  have next := like.paired [] t rfl
  cases t with
  | nil => cases next
  | cons d u =>
    cases next
    rw [like.tail.newline_last]

end RowLike

namespace Region

/-- In a row a backslash hides one code point, but for a carriage return with the newline. -/
theorem drop_hidden_row {d : CodePoint} {t : Text} (like : RowLike (d :: t)) :
    (d :: t).drop (hidden (d :: t)) = t ∨
      d = .scalar '\r' ∧ t = [newline] ∧ (d :: t).drop (hidden (d :: t)) = [] := by
  by_cases returns : d = .scalar '\r'
  · subst returns
    have last := like.return_last
    exact .inr ⟨rfl, last, by rw [last]; rfl⟩
  · left
    have one : hidden (d :: t) = 1 := by
      unfold hidden
      split
      · rename_i same
        exact absurd (List.cons.inj same).1 returns
      · rfl
    rw [one]
    rfl

theorem after_last {m : QuoteMark} (quote : m.IsQuote) {c : CodePoint}
    (unclosed : c = .scalar m.char → m.triple = true) {r : Region}
    (found : after (string m) [c] = some r) : r = string m := by
  have stays : after (string m) [] = some r → r = string m := fun found => by
    rw [after_nil] at found
    exact (Option.some.inj found).symm
  by_cases escape : c = .scalar '\\'
  · rw [escape, after_backslash] at found
    exact stays found
  · by_cases closes : c = .scalar m.char
    · rw [closes, after_lone quote (unclosed closes) (by simp [twice_iff])] at found
      exact stays found
    · cases breaks : decide (c = newline) && !m.triple with
      | true =>
        have breaks : c = newline ∧ m.triple = false := by simpa using breaks
        rw [breaks.1, after_broken quote breaks.2] at found
        cases found
      | false =>
        rw [after_inside escape closes breaks] at found
        exact stays found

end Region

namespace Lexeme

open Region (after)

variable {m : QuoteMark}

theorem closing_some (quote : m.IsQuote) {t : Text} (like : RowLike t) {n : Nat}
    (closed : closing? m t = some n) : after (.string m) t = after .code (t.drop n) := by
  fun_induction closing? m t generalizing n with
  | case1 => cases closed
  | case2 c closes =>
    cases closed
    have closes : c = .scalar m.char ∧ m.triple = false := by simpa using closes
    rw [closes.1, Region.after_closing quote closes.2]
    rfl
  | case3 => cases closed
  | case4 => cases closed
  | case5 d t _ ih =>
    obtain ⟨k, later, rfl⟩ := Option.map_eq_some_iff.mp closed
    rw [Region.after_backslash]
    rcases Region.drop_hidden_row like.tail with one | ⟨_, last, _⟩
    · rw [one]
      exact ih like.tail.tail later
    · rw [last, closing?, if_neg (by simp [quote.newline_ne])] at later
      cases later
  | case6 d t single _ =>
    cases closed
    rw [Region.after_closing quote (by simpa using single)]
    rfl
  | case7 d t triple double _ =>
    cases closed
    rw [Region.after_triple quote (by simpa using triple) double]
    rfl
  | case8 d t triple lone _ ih =>
    obtain ⟨k, later, rfl⟩ := Option.map_eq_some_iff.mp closed
    rw [Region.after_lone quote (by simpa using triple) lone]
    exact ih like.tail later
  | case9 c d t shown other ih =>
    obtain ⟨k, later, rfl⟩ := Option.map_eq_some_iff.mp closed
    rw [Region.after_inside shown other (by simp [like.not_newline])]
    exact ih like.tail later

theorem closing_none (quote : m.IsQuote) {t : Text} (like : RowLike t) (unclosed : closing? m t = none)
    {r : Region} (found : after (.string m) t = some r) : r = .string m := by
  fun_induction closing? m t with
  | case1 =>
    rw [Region.after_nil] at found
    exact (Option.some.inj found).symm
  | case2 => cases unclosed
  | case3 c open' => exact Region.after_last quote (by simpa using open') found
  | case4 t =>
    rw [like.tail.newline_last, Region.after_backslash] at found
    exact (Option.some.inj ((Region.after_nil _).symm.trans found)).symm
  | case5 d t _ ih =>
    rw [Region.after_backslash] at found
    rcases Region.drop_hidden_row like.tail with one | ⟨_, _, none⟩
    · rw [one] at found
      exact ih like.tail.tail (Option.map_eq_none_iff.mp unclosed) found
    · rw [none, Region.after_nil] at found
      exact (Option.some.inj found).symm
  | case6 => cases unclosed
  | case7 => cases unclosed
  | case8 d t triple lone _ ih =>
    rw [Region.after_lone quote (by simpa using triple) lone] at found
    exact ih like.tail (Option.map_eq_none_iff.mp unclosed) found
  | case9 c d t shown other ih =>
    rw [Region.after_inside shown other (by simp [like.not_newline])] at found
    exact ih like.tail (Option.map_eq_none_iff.mp unclosed) found

theorem endsJoined_cons {t : Text} (joined : Token.endsJoined t = true) (c : CodePoint) :
    Token.endsJoined (c :: t) = true := by
  unfold Token.endsJoined at joined ⊢
  rw [List.reverse_cons]
  revert joined
  split <;> simp_all

/-- A single-quoted string goes on behind a row only if a backslash hides the end of the row. -/
theorem closing_joined (quote : m.IsQuote) (single : m.triple = false) {t : Text} (like : RowLike t)
    (ends : t.getLast? = some RenderSource.newline) (unclosed : closing? m t = none)
    (found : (after (.string m) t).isSome = true) : Token.endsJoined t = true := by
  fun_induction closing? m t with
  | case1 => cases ends
  | case2 => cases unclosed
  | case3 c _ =>
    have same : c = RenderSource.newline := Option.some.inj ends
    rw [same, Region.after_broken quote single] at found
    cases found
  | case4 t =>
    rw [like.tail.newline_last]
    rfl
  | case5 d t inRow ih =>
    rw [Region.after_backslash] at found
    rcases Region.drop_hidden_row like.tail with one | ⟨returns, last, _⟩
    · rw [one] at found
      have later := Region.ends_tail (Region.ends_tail ends (by decide)) inRow
      have joined := ih like.tail.tail later (Option.map_eq_none_iff.mp unclosed) found
      exact endsJoined_cons (endsJoined_cons joined d) _
    · rw [returns, last]
      rfl
  | case6 => cases unclosed
  | case7 d t triple => exact absurd (by simp [single]) triple
  | case8 d t triple => exact absurd (by simp [single]) triple
  | case9 c d t shown other ih =>
    rw [Region.after_inside shown other (by simp [like.not_newline])] at found
    rw [List.getLast?_cons_cons] at ends
    exact endsJoined_cons (ih like.tail ends (Option.map_eq_none_iff.mp unclosed) found) c

section StringEnd

variable {q : Char} (quote : q = '\'' ∨ q = '"')

include quote

theorem stringEnd_some {t : Text} (like : RowLike t) {n : Nat} {broken : Bool}
    (found : stringEnd? q t = some (n, broken)) : after (.string ⟨q, false⟩) t =
      if broken then some (.string ⟨q, false⟩) else after .code (t.drop n) := by
  have mark : QuoteMark.IsQuote ⟨q, false⟩ := quote
  fun_induction stringEnd? q t generalizing n with
  | case1 => cases found
  | case2 =>
    cases found
    exact Region.after_closing mark rfl []
  | case3 => cases found
  | case4 t =>
    cases found
    rw [like.tail.newline_last, Region.after_backslash]
    exact Region.after_nil _
  | case5 d t _ paired =>
    cases found
    rw [paired.1] at like ⊢
    rw [like.tail.return_last, Region.after_backslash]
    exact Region.after_nil _
  | case6 d t _ unpaired ih =>
    obtain ⟨⟨k, broken⟩, later, same⟩ := Option.map_eq_some_iff.mp found
    cases same
    rw [Region.after_backslash]
    rcases Region.drop_hidden_row like.tail with one | ⟨returns, last, _⟩
    · rw [one]
      exact ih like.tail.tail later
    · exact absurd ⟨returns, by rw [last]; rfl⟩ unpaired
  | case7 => cases found
  | case8 d t =>
    cases found
    exact Region.after_closing mark rfl (d :: t)
  | case9 c d t shown inRow other ih =>
    obtain ⟨⟨k, broken⟩, later, same⟩ := Option.map_eq_some_iff.mp found
    cases same
    rw [Region.after_inside shown other (by simp [inRow])]
    exact ih like.tail later

theorem stringEnd_none {t : Text} (like : RowLike t) (missing : stringEnd? q t = none) {r : Region}
    (found : after (.string ⟨q, false⟩) t = some r) :
    r = .string ⟨q, false⟩ ∧ t.getLast? ≠ some RenderSource.newline := by
  have mark : QuoteMark.IsQuote ⟨q, false⟩ := quote
  fun_induction stringEnd? q t with
  | case1 =>
    rw [Region.after_nil] at found
    exact ⟨(Option.some.inj found).symm, by simp⟩
  | case2 => cases missing
  | case3 c other =>
    refine ⟨Region.after_last mark (fun closes => absurd closes other) found, fun ends => ?_⟩
    have same : c = RenderSource.newline := Option.some.inj ends
    rw [same, Region.after_broken mark rfl] at found
    cases found
  | case4 => cases missing
  | case5 => cases missing
  | case6 d t inRow unpaired ih =>
    rw [Region.after_backslash] at found
    rcases Region.drop_hidden_row like.tail with one | ⟨returns, last, _⟩
    · rw [one] at found
      obtain ⟨same, open'⟩ := ih like.tail.tail (Option.map_eq_none_iff.mp missing) found
      exact ⟨same, fun ends => open' (Region.ends_tail (Region.ends_tail ends (by decide)) inRow)⟩
    · exact absurd ⟨returns, by rw [last]; rfl⟩ unpaired
  | case7 =>
    rw [Region.after_broken mark rfl] at found
    cases found
  | case8 => cases missing
  | case9 c d t shown inRow other ih =>
    rw [Region.after_inside shown other (by simp [inRow])] at found
    rw [List.getLast?_cons_cons]
    exact ih like.tail (Option.map_eq_none_iff.mp missing) found

end StringEnd

end Lexeme

end RenderSource
