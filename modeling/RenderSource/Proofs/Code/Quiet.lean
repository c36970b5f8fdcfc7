import RenderSource.Proofs.Code.Regions
import Mathlib.Data.List.TakeWhile
/-!
Lexemes in which no string and no comment begins: numbers, operators, names and the ends of rows. Code
goes on behind them.
-/
namespace RenderSource

/-- Neither a quote nor the sign of a comment. -/
def CodePoint.isQuiet (c : CodePoint) : Bool := c ≠ .scalar '#' && Lexeme.isQuote c = none

theorem CodePoint.isQuiet_iff {c : CodePoint} :
    c.isQuiet = true ↔ c ≠ .scalar '#' ∧ c ≠ .scalar '\'' ∧ c ≠ .scalar '"' := by
  unfold isQuiet Lexeme.isQuote
  by_cases single : c = .scalar '\''
  · simp [single]
  · by_cases double : c = .scalar '"' <;> simp [single, double]

namespace Lexeme

def QuietTo (n : Nat) (t : Text) : Prop := ∀ c ∈ t.take n, c.isQuiet = true

theorem quietTo_zero (t : Text) : QuietTo 0 t := by
  intro c member
  rw [List.take_zero] at member
  cases member

theorem QuietTo.add {n m : Nat} {t : Text} (first : QuietTo n t) (later : QuietTo m (t.drop n)) :
    QuietTo (n + m) t := by
  intro c member
  rw [List.take_add, List.mem_append] at member
  exact member.elim (first c) (later c)

theorem quietTo_one {c : CodePoint} (quiet : c.isQuiet = true) (t : Text) : QuietTo 1 (c :: t) := by
  intro d member
  rw [List.take_succ_cons, List.take_zero, List.mem_singleton] at member
  rw [member]
  exact quiet

theorem QuietTo.cons {c : CodePoint} {t : Text} {n : Nat} (quiet : c.isQuiet = true)
    (later : QuietTo n t) : QuietTo (1 + n) (c :: t) := (quietTo_one quiet t).add later

theorem QuietTo.after {n : Nat} {t : Text} (quiet : QuietTo n t) :
    Region.after .code t = Region.after .code (t.drop n) := by
  induction n generalizing t with
  | zero => rw [List.drop_zero]
  | succ n ih =>
    cases t with
    | nil => rw [List.drop_nil]
    | cons c t =>
      have first : c.isQuiet = true := quiet c (by simp)
      have later : QuietTo n t := fun d member => quiet d (by simp [member])
      have split : c ≠ .scalar '#' ∧ isQuote c = none := by simpa [CodePoint.isQuiet] using first
      rw [Region.after_quiet split.1 split.2, List.drop_succ_cons, ih later]

theorem isDigit_quiet {c : CodePoint} (digit : c.isDigit = true) : c.isQuiet = true := by
  rw [CodePoint.isQuiet_iff]
  refine ⟨?_, ?_, ?_⟩ <;> (rintro rfl; revert digit; decide)

theorem isHexDigit_quiet {c : CodePoint} (digit : isHexDigit c = true) : c.isQuiet = true := by
  rw [CodePoint.isQuiet_iff]
  refine ⟨?_, ?_, ?_⟩ <;> (rintro rfl; revert digit; decide)

theorem isWord_quiet {c : CodePoint} (word : c.isWord = true) : c.isQuiet = true := by
  rw [CodePoint.isQuiet_iff]
  refine ⟨?_, ?_, ?_⟩ <;> (rintro rfl; revert word; decide)

theorem lower_quiet {c : CodePoint} (quiet : (lower c).isQuiet = true) : c.isQuiet = true := by
  rw [CodePoint.isQuiet_iff]
  refine ⟨?_, ?_, ?_⟩ <;> (rintro rfl; revert quiet; decide)

theorem isLetter_quiet {c : CodePoint} {l : Char} (quiet : (CodePoint.scalar l).isQuiet = true)
    (letter : isLetter c l = true) : c.isQuiet = true := by
  have same : lower c = .scalar l := of_decide_eq_true letter
  exact lower_quiet (by rw [same]; exact quiet)

section Figures

variable {ok : CodePoint → Bool} (quiet : ∀ c, ok c = true → c.isQuiet = true)

include quiet

theorem more_quiet (t : Text) : QuietTo (figures.more ok t) t := by
  fun_induction figures.more ok t with
  | case1 => exact quietTo_zero _
  | case2 c holds => exact quietTo_one (quiet c holds) []
  | case3 c _ => exact quietTo_zero _
  | case4 c d t holds ih => exact .cons (quiet c holds) ih
  | case5 c d t _ low ih =>
    have low : c = .scalar '_' ∧ ok d = true := by simpa using low
    rw [low.1]
    have two : QuietTo 2 (.scalar '_' :: d :: t) :=
      .cons (by decide) (quietTo_one (quiet d low.2) t)
    exact two.add ih
  | case6 => exact quietTo_zero _

theorem figures_quiet (t : Text) : QuietTo (figures ok t) t := by
  cases t with
  | nil => exact quietTo_zero _
  | cons c t =>
    rw [figures]
    split
    · rename_i holds
      exact .cons (quiet c holds) (more_quiet quiet t)
    · exact quietTo_zero _

end Figures

theorem digitRun_quiet (t : Text) : QuietTo (digitRun t) t := figures_quiet (fun _ => isDigit_quiet) t

theorem exponent_quiet (t : Text) : QuietTo (exponent t) t := by
  cases t with
  | nil => exact quietTo_zero _
  | cons c t =>
    unfold exponent
    dsimp only
    split
    · exact quietTo_zero _
    rename_i letter
    have quiet : c.isQuiet = true := isLetter_quiet (l := 'e') (by decide) (by simpa using letter)
    have behind : ∀ p : Nat × Text, QuietTo (p.1 + digitRun p.2) t →
        QuietTo (if digitRun p.2 = 0 then 0 else 1 + p.1 + digitRun p.2) (c :: t) := by
      intro p signed
      split
      · exact quietTo_zero _
      · rw [Nat.add_assoc]
        exact .cons quiet signed
    refine behind _ ?_
    cases t with
    | nil => exact quietTo_zero _
    | cons d u =>
      dsimp only
      split
      · rename_i sign
        have sign : d = .scalar '-' ∨ d = .scalar '+' := by simpa using sign
        exact .cons (by rcases sign with rfl | rfl <;> decide) (digitRun_quiet u)
      · rw [Nat.zero_add]
        exact digitRun_quiet (d :: u)

theorem floating_quiet (t : Text) : QuietTo (floating t) t := by
  unfold floating
  dsimp only
  split
  · rename_i c u rest
    split
    · rename_i point
      split
      · exact quietTo_zero _
      · rw [Nat.add_assoc, Nat.add_assoc]
        refine (digitRun_quiet t).add ?_
        rw [rest, point]
        exact .cons (by decide) ((digitRun_quiet u).add (exponent_quiet _))
    · split
      · exact quietTo_zero _
      · split
        · exact quietTo_zero _
        · refine (digitRun_quiet t).add ?_
          rw [rest]
          exact exponent_quiet _
  · exact quietTo_zero _

theorem based_quiet {letter : Char} (quiet : (CodePoint.scalar letter).isQuiet = true)
    {ok : CodePoint → Bool} (each : ∀ c, ok c = true → c.isQuiet = true) (t : Text) :
    QuietTo (based letter ok t) t := by
  unfold based
  split
  · rename_i a b t
    split
    · rename_i front
      have front : a = .scalar '0' ∧ isLetter b letter = true := by simpa using front
      have zero : a.isQuiet = true := by rw [front.1]; decide
      have marked := isLetter_quiet quiet front.2
      have behind : ∀ n, QuietTo n t → QuietTo (if n = 0 then 0 else 2 + n) (a :: b :: t) := by
        intro n later
        split
        · exact quietTo_zero _
        · exact QuietTo.add (n := 2) (.cons zero (quietTo_one marked t)) later
      refine behind _ ?_
      cases t with
      | nil => exact quietTo_zero _
      | cons c u =>
        dsimp only
        split
        · rename_i low
          split
          · exact quietTo_zero _
          · rw [low]
            exact .cons (by decide) (figures_quiet each u)
        · exact figures_quiet each (c :: u)
    · exact quietTo_zero _
  · exact quietTo_zero _

theorem decimal_quiet (t : Text) : QuietTo (decimal t) t := by
  unfold decimal
  split
  · split
    · refine figures_quiet (fun d zero => ?_) _
      rw [of_decide_eq_true zero]
      decide
    · exact digitRun_quiet _
  · exact quietTo_zero _

theorem imaginary_quiet {t : Text} {n : Nat} (first : QuietTo n t)
    (real : isImaginaryMark (t.drop n) = true) : QuietTo (n + 1) t := by
  refine first.add ?_
  cases rest : t.drop n with
  | nil => rw [rest] at real; cases real
  | cons c u =>
    rw [rest] at real
    exact quietTo_one (isLetter_quiet (l := 'j') (by decide) real) u

theorem numberSize_quiet (t : Text) : QuietTo (numberSize t) t := by
  unfold numberSize
  dsimp only
  split
  · rename_i real
    rw [Bool.and_eq_true] at real
    exact imaginary_quiet (digitRun_quiet t) real.2
  · split
    · split
      · rename_i real
        exact imaginary_quiet (floating_quiet t) real
      · exact floating_quiet t
    · split
      · exact based_quiet (by decide) (fun _ => isHexDigit_quiet) t
      · split
        · refine based_quiet (by decide) (fun c figure => ?_) t
          have figure : c = .scalar '0' ∨ c = .scalar '1' := by simpa using figure
          rcases figure with rfl | rfl <;> decide
        · split
          · refine based_quiet (by decide) (fun c figure => isDigit_quiet ?_) t
            have figure : 0x30 ≤ c.val ∧ c.val ≤ 0x37 := of_decide_eq_true figure
            exact decide_eq_true ⟨figure.1, by omega⟩
          · exact decimal_quiet t

theorem operators_quiet : ∀ o ∈ operators, ∀ c ∈ wording o, c.isQuiet = true := by decide

theorem operators_some : ∀ o ∈ operators, (wording o).length = o.length ∧ 0 < o.length := by decide

theorem operatorSize_quiet {t : Text} {n : Nat} (found : operatorSize? t = some n) :
    QuietTo n t ∧ 0 < n := by
  obtain ⟨o, first, rfl⟩ := Option.map_eq_some_iff.mp found
  have member := List.mem_of_find?_eq_some first
  have front : (wording o).beginsWith t = true := by simpa using List.find?_some first
  obtain ⟨u, rfl⟩ := Text.beginsWith_iff.mp front
  obtain ⟨length, positive⟩ := operators_some o member
  refine ⟨fun c inside => operators_quiet o member c ?_, positive⟩
  rw [← length, List.take_left] at inside
  exact inside

theorem newlineSize_quiet {t : Text} {n : Nat} (found : newlineSize? t = some n) :
    QuietTo n t ∧ 0 < n := by
  unfold newlineSize? at found
  split at found
  · cases found
    exact ⟨quietTo_one (by decide) _, by decide⟩
  · cases found
    exact ⟨.cons (by decide) (quietTo_one (by decide) _), by decide⟩
  · cases found

theorem name_quiet {t : Text} {l : Lexeme} (found : name? t = some l) :
    ∃ n, l = .name n ∧ QuietTo n t ∧ 0 < n := by
  unfold name? at found
  dsimp only at found
  split at found
  · cases found
  · rename_i some
    cases found
    refine ⟨_, rfl, fun c member => ?_, Nat.pos_of_ne_zero some⟩
    have front := List.prefix_iff_eq_take.mp (List.takeWhile_prefix (l := t) CodePoint.isWord)
    rw [← front] at member
    exact isWord_quiet (List.mem_takeWhile_imp member)

theorem prefixLetters_quiet : ∀ p ∈ prefixLetters, ∀ c ∈ wording p, c.isQuiet = true := by decide

theorem prefix_quiet {ds : Text} (known : (prefixLetters.any fun p => wording p = ds.map lower) = true) :
    ∀ d ∈ ds, d.isQuiet = true := by
  obtain ⟨p, member, same⟩ := List.any_eq_true.mp known
  intro d inside
  refine lower_quiet (prefixLetters_quiet p member _ ?_)
  rw [of_decide_eq_true same]
  exact List.mem_map_of_mem inside

theorem openingQuote_quiet {t : Text} {n : Nat} {q : Char} (found : openingQuote? t = some (n, q)) :
    QuietTo n t ∧ ∃ c u, t.drop n = c :: u ∧ isQuote c = some q := by
  unfold openingQuote? at found
  cases t with
  | nil => cases found
  | cons c t =>
    cases first : isQuote c with
    | some p =>
      simp only [first] at found
      cases found
      exact ⟨quietTo_zero _, c, t, rfl, first⟩
    | none =>
      simp only [first] at found
      cases t with
      | nil => cases found
      | cons d u =>
        cases second : isQuote d with
        | some p =>
          simp only [second] at found
          split at found
          · rename_i known
            cases found
            have quiet := @prefix_quiet [c] known
            exact ⟨quietTo_one (quiet c (by simp)) _, d, u, rfl, second⟩
          · cases found
        | none =>
          simp only [second] at found
          cases u with
          | nil => cases found
          | cons e v =>
            obtain ⟨p, third, found⟩ := Option.bind_eq_some_iff.mp found
            split at found
            · rename_i known
              cases found
              have quiet := @prefix_quiet [c, d] known
              exact ⟨.cons (quiet c (by simp)) (quietTo_one (quiet d (by simp)) _), e, v, rfl, third⟩
            · cases found

end Lexeme

end RenderSource
