import RenderSource.Code.Lexeme
import RenderSource.Proofs.Code.Fronts
import RenderSource.Proofs.Number.FloatForm
/-!
How far the smallest pieces of emitted source reach: numbers up to the mark behind them, quoted texts up
to their closing quote. The scanner of rows and the check of rows agree with the reader on this.
-/
namespace RenderSource

namespace Lexeme

open Decimal (digitText)

def EndsRun (rest : Text) : Prop := ∀ c ∈ rest.head?, c.isDigit = false ∧ c ≠ .scalar '_'

theorem isDigit_digitText : ∀ d, d < 10 → (digitText d).isDigit = true := by decide

theorem more_ends {rest : Text} (ends : EndsRun rest) : figures.more CodePoint.isDigit rest = 0 := by
  match rest with
  | [] => rfl
  | [c] => simp [figures.more, (ends c rfl).1]
  | c :: d :: t => simp [figures.more, (ends c rfl).1, (ends c rfl).2]

theorem more_append {ds : List Nat} (small : ∀ d ∈ ds, d < 10) {rest : Text} (ends : EndsRun rest) :
    figures.more CodePoint.isDigit (ds.map digitText ++ rest) = ds.length := by
  induction ds with
  | nil => exact more_ends ends
  | cons d ds ih =>
    have figure := isDigit_digitText d (small d (by simp))
    have later := ih fun e member => small e (List.mem_cons_of_mem d member)
    rw [List.map_cons, List.cons_append]
    cases more : ds.map digitText ++ rest with
    | nil =>
      rw [more] at later
      rw [List.length_cons, ← later]
      simp [figures.more, figure]
    | cons c u =>
      rw [more] at later
      rw [figures.more, figure, later, List.length_cons, if_pos rfl]
      omega

theorem digitRun_append {ds : List Nat} (small : ∀ d ∈ ds, d < 10) {rest : Text}
    (ends : EndsRun rest) : digitRun (ds.map digitText ++ rest) = ds.length := by
  cases ds with
  | nil =>
    cases rest with
    | nil => rfl
    | cons c t => simp [digitRun, figures, (ends c rfl).1]
  | cons d ds =>
    have figure := isDigit_digitText d (small d (by simp))
    have later := more_append (fun e member => small e (List.mem_cons_of_mem d member)) ends
    rw [List.map_cons, List.cons_append, digitRun, figures, if_pos figure, later, List.length_cons]
    omega

theorem endsRun_scalar {c : Char} (other : (CodePoint.scalar c).isDigit = false) (uneven : c ≠ '_')
    (t : Text) : EndsRun (.scalar c :: t) := by
  intro d head
  cases head
  exact ⟨other, by simpa using uneven⟩

/-- A rest at which a number ends, whatever its form: no figure, point, letter or low line. -/
def EndsSize (rest : Text) : Prop :=
  ∀ c ∈ rest.head?, c.isDigit = false ∧ c ≠ .scalar '_' ∧ c ≠ .scalar '.' ∧
    ∀ l ∈ ['e', 'j', 'x', 'b', 'o'], isLetter c l = false

theorem EndsSize.run {rest : Text} (ends : EndsSize rest) : EndsRun rest :=
  fun c head => ⟨(ends c head).1, (ends c head).2.1⟩

theorem EndsSize.letter {rest : Text} (ends : EndsSize rest) {c : CodePoint} {u : Text}
    (front : rest = c :: u) {l : Char} (member : l ∈ ['e', 'j', 'x', 'b', 'o']) :
    isLetter c l = false := by
  subst front
  exact (ends c rfl).2.2.2 l member

theorem EndsSize.real {rest : Text} (ends : EndsSize rest) : isImaginaryMark rest = false := by
  cases rest with
  | nil => rfl
  | cons c u => exact ends.letter rfl (by simp)

theorem EndsSize.exponent {rest : Text} (ends : EndsSize rest) : exponent rest = 0 := by
  cases rest with
  | nil => rfl
  | cons c u => simp [Lexeme.exponent, ends.letter rfl (show 'e' ∈ ['e', 'j', 'x', 'b', 'o'] by simp)]

theorem drop_figures (ds : List Nat) (rest : Text) :
    (ds.map digitText ++ rest).drop ds.length = rest := by
  rw [List.drop_left' (List.length_map _)]

theorem floating_whole {ds : List Nat} (small : ∀ d ∈ ds, d < 10) {rest : Text}
    (ends : EndsSize rest) : floating (ds.map digitText ++ rest) = 0 := by
  unfold floating
  simp only [digitRun_append small ends.run, drop_figures]
  cases rest with
  | nil => rfl
  | cons c u =>
    have unpointed := (ends c rfl).2.2.1
    simp [unpointed, ends.exponent]

theorem digits_head : ∀ {n : Nat}, 0 < n → ∃ f fs, Decimal.digits 10 n = f :: fs ∧ f ≠ 0 := by
  intro n
  induction n using Nat.strongRecOn with
  | ind n ih =>
    intro positive
    by_cases large : 10 ≤ n
    · obtain ⟨f, fs, parts, nonzero⟩ := ih (n / 10) (Nat.div_lt_self positive (by omega)) (by omega)
      exact ⟨f, fs ++ [n % 10], by rw [Decimal.digits_step (by omega) large, parts]; rfl, nonzero⟩
    · exact ⟨n, [], Decimal.digits_small (by omega), by omega⟩

theorem digitText_letter : ∀ d, d < 10 → ∀ l ∈ ['e', 'j', 'x', 'b', 'o'],
    isLetter (digitText d) l = false := by
  intro d small l member
  simp only [List.mem_cons, List.not_mem_nil, or_false] at member
  rcases member with rfl | rfl | rfl | rfl | rfl <;> (revert d; decide)

theorem based_figures {ds : List Nat} (small : ∀ d ∈ ds, d < 10) {rest : Text} (ends : EndsSize rest)
    {letter : Char} (member : letter ∈ ['e', 'j', 'x', 'b', 'o']) (ok : CodePoint → Bool) (f : Nat) :
    based letter ok (digitText f :: (ds.map digitText ++ rest)) = 0 := by
  have second : ∀ c ∈ (ds.map digitText ++ rest).head?, isLetter c letter = false := by
    intro c head
    cases ds with
    | nil => exact (ends c head).2.2.2 letter member
    | cons d ds =>
      cases head
      exact digitText_letter d (small d (by simp)) letter member
  cases more : ds.map digitText ++ rest with
  | nil => rfl
  | cons c u =>
    rw [more] at second
    simp [based, second c rfl]

theorem decimal_ofNat (n : Nat) {rest : Text} (ends : EndsSize rest) :
    decimal (Decimal.ofNat n ++ rest) = (Decimal.ofNat n).length := by
  rw [Decimal.ofNat, List.length_map]
  rcases Nat.eq_zero_or_pos n with rfl | positive
  · have zeros : figures.more (fun d => d = .scalar '0') rest = 0 := by
      cases rest with
      | nil => rfl
      | cons c t =>
        have other : c ≠ .scalar '0' := by rintro rfl; exact absurd (ends _ rfl).1 (by decide)
        cases t with
        | nil => simp [figures.more, other]
        | cons d t => simp [figures.more, other, (ends c rfl).2.1]
    rw [Decimal.digits_small (by omega)]
    simp [decimal, figures, zeros, digitText]
  · obtain ⟨f, fs, parts, nonzero⟩ := digits_head positive
    have small := Decimal.digits_lt (by omega : 2 ≤ 10) n
    have run := digitRun_append small ends.run
    rw [parts] at run small ⊢
    have other : ∀ d, d < 10 → d ≠ 0 → digitText d ≠ .scalar '0' := by decide
    rw [List.map_cons, List.cons_append, decimal, if_neg (other f (small f (by simp)) nonzero)]
    exact run

theorem numberSize_nat (n : Nat) {rest : Text} (ends : EndsSize rest) :
    numberSize (Decimal.ofNat n ++ rest) = (Decimal.ofNat n).length := by
  have whole := decimal_ofNat n ends
  have small := Decimal.digits_lt (by omega : 2 ≤ 10) n
  obtain ⟨f, fs, parts⟩ := List.exists_cons_of_ne_nil (Decimal.digits_ne_nil 10 n)
  have run : digitRun (Decimal.ofNat n ++ rest) = (Decimal.digits 10 n).length :=
    digitRun_append small ends.run
  have unpointed : floating (Decimal.ofNat n ++ rest) = 0 := floating_whole small ends
  have rest_left : (Decimal.ofNat n ++ rest).drop (Decimal.digits 10 n).length = rest :=
    drop_figures _ _
  have based : ∀ l ∈ ['e', 'j', 'x', 'b', 'o'], ∀ ok, based l ok (Decimal.ofNat n ++ rest) = 0 := by
    intro l member ok
    rw [Decimal.ofNat, parts]
    rw [parts] at small
    exact based_figures (fun d inside => small d (List.mem_cons_of_mem f inside)) ends member ok f
  unfold numberSize
  simp [run, rest_left, ends.real, unpointed, based 'x', based 'b', based 'o', whole]

theorem exponent_signed {hs : List Nat} (small : ∀ d ∈ hs, d < 10) (some : hs ≠ []) {sign : Char}
    (signed : sign = '-' ∨ sign = '+') {rest : Text} (ends : EndsSize rest) :
    exponent (.scalar 'e' :: .scalar sign :: (hs.map digitText ++ rest)) = 2 + hs.length := by
  have run := digitRun_append small ends.run
  have long : hs.length ≠ 0 := fun none => some (List.eq_nil_of_length_eq_zero none)
  have letter : isLetter (.scalar 'e') 'e' = true := by decide
  have mark : ((CodePoint.scalar sign = .scalar '-' : Bool) || (CodePoint.scalar sign = .scalar '+' : Bool)) =
      true := by
    rcases signed with rfl | rfl <;> decide
  simp only [Lexeme.exponent, letter, mark, run, long, Bool.not_true, Bool.false_eq_true, ↓reduceIte,
    Nat.reduceAdd]

theorem floating_pointed {ds gs : List Nat} (whole : ∀ d ∈ ds, d < 10) (part : ∀ d ∈ gs, d < 10)
    (some : ds ≠ []) {tail : Text} (ends : EndsRun tail) :
    floating (ds.map digitText ++ .scalar '.' :: (gs.map digitText ++ tail)) =
      ds.length + 1 + gs.length + exponent tail := by
  have front := digitRun_append whole
    (endsRun_scalar (show (CodePoint.scalar '.').isDigit = false by decide) (by decide)
      (gs.map digitText ++ tail))
  have long : ds.length ≠ 0 := fun none => some (List.eq_nil_of_length_eq_zero none)
  unfold floating
  simp only [front, drop_figures, digitRun_append part ends, long]
  simp

theorem numberSize_floating {t : Text} {n k : Nat} (run : digitRun t = n)
    (real : isImaginaryMark (t.drop n) = false) (form : floating t = k) (some : k ≠ 0)
    (ends : isImaginaryMark (t.drop k) = false) : numberSize t = k := by
  unfold numberSize
  simp [run, real, form, some, ends]

theorem numberSize_float {t : Text} (form : FloatForm t) {rest : Text} (ends : EndsSize rest) :
    numberSize (t ++ rest) = t.length := by
  have behind : isImaginaryMark ((t ++ rest).drop t.length) = false := by
    rw [List.drop_left]
    exact ends.real
  have point : ∀ u, EndsRun (.scalar '.' :: u) := endsRun_scalar (by decide) (by decide)
  have letter : ∀ u, EndsRun (.scalar 'e' :: u) := endsRun_scalar (by decide) (by decide)
  cases form with
  | @pointed ds gs whole part some =>
    rw [List.append_assoc, List.cons_append] at behind ⊢
    refine numberSize_floating (digitRun_append whole (point _)) ?_ ?_ (by simp) behind
    · rw [drop_figures]
      exact (by decide : isLetter (.scalar '.') 'j' = false)
    · rw [floating_pointed whole part some ends.run, ends.exponent]
      simp
      omega
  | @power f hs sign first figures some signed =>
    have parts : Decimal.digitText f :: .scalar 'e' :: .scalar sign :: hs.map digitText ++ rest =
        [f].map digitText ++ (.scalar 'e' :: .scalar sign :: (hs.map digitText ++ rest)) := rfl
    have single : ∀ d ∈ [f], d < 10 := by simpa using first
    have size := exponent_signed figures some signed ends
    rw [parts] at behind ⊢
    refine numberSize_floating (digitRun_append single (letter _)) ?_ ?_ (by simp) behind
    · exact (by decide : isLetter (.scalar 'e') 'j' = false)
    · unfold floating
      simp only [digitRun_append single (letter _), drop_figures]
      simp [size]
      omega
  | @pointedPower f gs hs sign first part figures some signed =>
    have parts : Decimal.digitText f :: .scalar '.' ::
        (gs.map digitText ++ .scalar 'e' :: .scalar sign :: hs.map digitText) ++ rest =
        [f].map digitText ++ .scalar '.' ::
          (gs.map digitText ++ (.scalar 'e' :: .scalar sign :: (hs.map digitText ++ rest))) := by
      simp
    have single : ∀ d ∈ [f], d < 10 := by simpa using first
    have size := exponent_signed figures some signed ends
    rw [parts] at behind ⊢
    refine numberSize_floating (digitRun_append single (point _)) ?_ ?_ (by simp) behind
    · exact (by decide : isLetter (.scalar '.') 'j' = false)
    · rw [floating_pointed single part (by simp) (letter _), size]
      simp
      omega

end Lexeme

end RenderSource
