import RenderSource.Proofs.Code.Lexemes
import RenderSource.Proofs.Text.Closing
import RenderSource.Proofs.Text.Fitness
/-!
The check of a row goes over emitted source piece by piece: each name, number, quoted text and mark is
passed as a whole, and only brackets leave anything behind.
-/
namespace RenderSource

namespace Lexeme

/-- The marks of emitted source that stand outside of names, numbers and quoted texts. -/
def marks : List Char := ['(', '[', '\x7b', ')', ']', '\x7d', ',', ':', '.', '-', '+', '=', ' ']

/-- A rest that begins with a mark, so that a name or a number ends in front of it. -/
def Breaks (rest : Text) : Prop := ∀ c ∈ rest.head?, ∃ m ∈ marks, c = .scalar m

theorem breaks_cons {m : Char} (member : m ∈ marks) (u : Text) : Breaks (.scalar m :: u) := by
  intro c head
  cases head
  exact ⟨m, member, rfl⟩

theorem breaks_nil : Breaks [] := by
  intro c head
  cases head

def isMark (c : CodePoint) : Bool :=
  isQuote c = none && !Broken.isWordPart c && !c.isDigit && decide (0x20 ≤ c.val ∧ c.val ≠ 0x7F) &&
    c != .scalar '#' && c != .scalar '\\' && c != .scalar '_' &&
    ['e', 'j', 'x', 'b', 'o'].all (fun l => !isLetter c l) &&
    ['r', 'b', 'f', 'u'].all (fun l => lower c != .scalar l)

theorem marks_all : marks.all (fun m => isMark (.scalar m)) = true := by decide

structure Mark (c : CodePoint) : Prop where
  unquoted : isQuote c = none
  wordless : Broken.isWordPart c = false
  figureless : c.isDigit = false
  visible : 0x20 ≤ c.val ∧ c.val ≠ 0x7F
  uncommented : c ≠ .scalar '#'
  unjoined : c ≠ .scalar '\\'
  uneven : c ≠ .scalar '_'
  letterless : ∀ l ∈ ['e', 'j', 'x', 'b', 'o'], isLetter c l = false
  unprefixed : ∀ l ∈ ['r', 'b', 'f', 'u'], lower c ≠ .scalar l

theorem mark_of_mem {m : Char} (member : m ∈ marks) : Mark (.scalar m) := by
  have all := List.all_eq_true.mp marks_all m member
  simp only [isMark, Bool.and_eq_true, decide_eq_true_eq, Bool.not_eq_true', List.all_eq_true,
    bne_iff_ne] at all
  obtain ⟨⟨⟨⟨⟨⟨⟨⟨unquoted, wordless⟩, figureless⟩, visible⟩, uncommented⟩, unjoined⟩, uneven⟩,
    letterless⟩, unprefixed⟩ := all
  exact ⟨unquoted, wordless, figureless, visible, uncommented, unjoined, uneven, letterless, unprefixed⟩

theorem Breaks.mark {rest : Text} (breaks : Breaks rest) {c : CodePoint} (head : rest.head? = some c) :
    Mark c := by
  obtain ⟨m, member, rfl⟩ := breaks c head
  exact mark_of_mem member

theorem Breaks.size {rest : Text} (breaks : Breaks rest) (unpointed : rest.head? ≠ some (.scalar '.')) :
    EndsSize rest := by
  intro c head
  have mark := breaks.mark head
  refine ⟨mark.figureless, mark.uneven, ?_, mark.letterless⟩
  rintro rfl
  exact unpointed head

theorem prefix_one {x : CodePoint} (known : (prefixLetters.any fun p => wording p = [x]) = true) :
    x = .scalar 'b' ∨ x = .scalar 'r' ∨ x = .scalar 'u' ∨ x = .scalar 'f' := by
  simp only [prefixLetters, List.any_cons, List.any_nil, Bool.or_false, Bool.or_eq_true,
    decide_eq_true_eq, wording, Text.ofString, String.reduceToList, List.map_cons, List.map_nil,
    List.cons.injEq, reduceCtorEq, and_false, and_true, or_false] at known
  rcases known with rfl | rfl | rfl | rfl <;> simp

theorem prefix_two {x y : CodePoint} (known : (prefixLetters.any fun p => wording p = [x, y]) = true) :
    (x = .scalar 'b' ∨ x = .scalar 'r' ∨ x = .scalar 'f') ∧
      (y = .scalar 'b' ∨ y = .scalar 'r' ∨ y = .scalar 'f') := by
  simp only [prefixLetters, List.any_cons, List.any_nil, Bool.or_false, Bool.or_eq_true,
    decide_eq_true_eq, wording, Text.ofString, String.reduceToList, List.map_cons, List.map_nil,
    List.cons.injEq, reduceCtorEq, and_false, and_true, false_or] at known
  rcases known with ⟨rfl, rfl⟩ | ⟨rfl, rfl⟩ | ⟨rfl, rfl⟩ | ⟨rfl, rfl⟩ <;> simp

def Unprefixed (c : CodePoint) : Prop := ∀ l ∈ ['r', 'b', 'f', 'u'], lower c ≠ .scalar l

theorem Unprefixed.single {c : CodePoint} (other : Unprefixed c) :
    (prefixLetters.any fun p => wording p = [lower c]) = false := by
  rw [Bool.eq_false_iff]
  intro known
  rcases prefix_one known with same | same | same | same
  · exact other 'b' (by simp) same
  · exact other 'r' (by simp) same
  · exact other 'u' (by simp) same
  · exact other 'f' (by simp) same

theorem Unprefixed.first {c : CodePoint} (other : Unprefixed c) (d : CodePoint) :
    (prefixLetters.any fun p => wording p = [lower c, lower d]) = false := by
  rw [Bool.eq_false_iff]
  intro known
  rcases (prefix_two known).1 with same | same | same
  · exact other 'b' (by simp) same
  · exact other 'r' (by simp) same
  · exact other 'f' (by simp) same

theorem Mark.second {d : CodePoint} (mark : Mark d) (c : CodePoint) :
    (prefixLetters.any fun p => wording p = [lower c, lower d]) = false := by
  rw [Bool.eq_false_iff]
  intro known
  rcases (prefix_two known).2 with same | same | same
  · exact mark.unprefixed 'b' (by simp) same
  · exact mark.unprefixed 'r' (by simp) same
  · exact mark.unprefixed 'f' (by simp) same

theorem openingQuote_none {c : CodePoint} {u : Text} (first : isQuote c = none)
    (second : ∀ d ∈ u.head?, isQuote d = none ∨
      (prefixLetters.any fun p => wording p = [lower c]) = false)
    (third : ∀ d e v, u = d :: e :: v → isQuote d = none → isQuote e = none ∨
      (prefixLetters.any fun p => wording p = [lower c, lower d]) = false) :
    openingQuote? (c :: u) = none := by
  rw [openingQuote?.eq_def]
  cases u with
  | nil => simp only [first]
  | cons d u =>
    cases u with
    | nil =>
      simp only [first]
      rcases second d rfl with plain | alone
      · simp only [plain]
      · cases quote : isQuote d with
        | none => rfl
        | some q => simp only [alone, Bool.false_eq_true, ↓reduceIte]
    | cons e v =>
      simp only [first]
      cases quote : isQuote d with
      | some q =>
        rcases second d rfl with plain | alone
        · rw [quote] at plain
          cases plain
        · simp only [alone, Bool.false_eq_true, ↓reduceIte]
      | none =>
        rcases third d e v rfl quote with plain | alone
        · simp only [plain, Option.bind_none]
        · simp only [alone, Bool.false_eq_true, ↓reduceIte]
          cases isQuote e <;> rfl

theorem openingQuote_unprefixed {c : CodePoint} (unquoted : isQuote c = none) (other : Unprefixed c)
    (u : Text) : openingQuote? (c :: u) = none :=
  openingQuote_none unquoted (fun _ _ => .inr other.single) fun d _ _ _ _ => .inr (other.first d)

theorem openingQuote_mark {c : CodePoint} (mark : Mark c) (u : Text) : openingQuote? (c :: u) = none :=
  openingQuote_unprefixed mark.unquoted mark.unprefixed u

theorem unquoted_of_name {c : CodePoint} (part : c.continuesName = true) : isQuote c = none := by
  unfold isQuote
  split
  · subst c
    exact absurd part (by decide)
  · split
    · subst c
      exact absurd part (by decide)
    · rfl

theorem openingQuote_word {n rest : Text} (identifier : n.isIdentifier = true) (breaks : Breaks rest) :
    openingQuote? (n ++ rest) = none := by
  have unquoted := fun c member => unquoted_of_name (Text.continuesName_of_isIdentifier identifier c member)
  obtain ⟨c, v, rfl, _⟩ := Text.exists_cons_of_isIdentifier identifier
  refine openingQuote_none (unquoted c (by simp)) ?_ ?_
  · intro d head
    cases v with
    | nil => exact .inl (breaks.mark head).unquoted
    | cons e w =>
      cases head
      exact .inl (unquoted d (by simp))
  · intro d e w split _
    match v with
    | [] =>
      exact .inr ((breaks.mark (show rest.head? = some d from congrArg List.head? split)).second c)
    | [x] =>
      cases split
      exact .inl (breaks.mark rfl).unquoted
    | x :: y :: z =>
      cases split
      exact .inl (unquoted e (by simp))

theorem numberSize_none {c : CodePoint} {u : Text} (figureless : c.isDigit = false)
    (pointless : c = .scalar '.' → ∀ d ∈ u.head?, d.isDigit = false) : numberSize (c :: u) = 0 := by
  have zero : c ≠ .scalar '0' := by
    rintro rfl
    exact absurd figureless (by decide)
  have run : digitRun (c :: u) = 0 := by simp [digitRun, figures, figureless]
  have unpointed : floating (c :: u) = 0 := by
    unfold floating
    simp only [run, List.drop_zero]
    split
    · rename_i point
      have fraction : digitRun u = 0 := by
        cases u with
        | nil => rfl
        | cons d v => simp [digitRun, figures, pointless point d rfl]
      simp [fraction]
    · rfl
  have based : ∀ l ok, based l ok (c :: u) = 0 := by
    intro l ok
    cases u with
    | nil => rfl
    | cons d v => simp [Lexeme.based, zero]
  simp [numberSize, run, unpointed, based, decimal, zero]

end Lexeme

namespace CodePoint

theorem nameRanges_basic : ∀ r ∈ identifierStartRanges ++ identifierOnlyContinueRanges,
    0x80 ≤ r.1 ∨ (0x30 ≤ r.1 ∧ r.2 ≤ 0x39) ∨ (0x41 ≤ r.1 ∧ r.2 ≤ 0x5A) ∨ (0x5F ≤ r.1 ∧ r.2 ≤ 0x5F) ∨
      (0x61 ≤ r.1 ∧ r.2 ≤ 0x7A) := by
  decide +kernel

theorem basic_letters : ∀ n < 0x80, (0x41 ≤ n ∧ n ≤ 0x5A) ∨ (0x61 ≤ n ∧ n ≤ 0x7A) →
    (Char.ofNat n).isAlpha = true := by decide

end CodePoint

namespace Broken

open Lexeme

theorem wordPart_of_name {c : CodePoint} (part : c.continuesName = true) : isWordPart c = true := by
  obtain ⟨r, member, low, high⟩ := CodePoint.name_range part
  simp only [isWordPart, CodePoint.isDigit, Bool.or_eq_true, decide_eq_true_eq]
  rcases CodePoint.nameRanges_basic r member with large | figure | capital | line | small
  · exact .inl (.inl (.inl (by omega)))
  · exact .inl (.inl (.inr (by omega)))
  · exact .inr (CodePoint.basic_letters c.val (by omega) (.inl (by omega)))
  · exact .inl (.inr (CodePoint.val_injective (show c.val = 0x5F by omega)))
  · exact .inr (CodePoint.basic_letters c.val (by omega) (.inr (by omega)))

variable {row column : Nat} {brackets : List Bracket}

theorem lookRow_mark {m : Char} (member : m ∈ marks) (opens : closingOf? (.scalar m) = none)
    (closes : isClosing (.scalar m) = false) {u : Text}
    (pointless : m = '.' → ∀ d ∈ u.head?, d.isDigit = false) :
    lookRow row column (.scalar m :: u) brackets = lookRow row (column + 1) u brackets := by
  have mark := mark_of_mem member
  have size : numberSize (.scalar m :: u) = 0 :=
    numberSize_none mark.figureless fun point => pointless (CodePoint.scalar.inj point)
  have low : ¬ (CodePoint.scalar m).val < 0x20 := Nat.not_lt.mpr mark.visible.1
  rw [lookRow]
  simp [openingQuote_mark mark, mark.uncommented, mark.unjoined, size, mark.wordless, opens, closes, low,
    mark.visible.2]

theorem lookRow_bracket {m : Char} (member : m ∈ ['(', '[', '{']) (u : Text) :
    lookRow row column (.scalar m :: u) brackets =
      match openBracket row column (.scalar m) brackets with
      | .ok inner => lookRow row (column + 1) u inner
      | .error f => .fault f := by
  have mark : Mark (.scalar m) := mark_of_mem (List.mem_append_left _ member)
  have size : numberSize (.scalar m :: u) = 0 := by
    refine numberSize_none mark.figureless ?_
    rintro same
    cases same
    simp at member
  have opens : (closingOf? (.scalar m)).isSome = true := by
    simp only [List.mem_cons, List.not_mem_nil, or_false] at member
    rcases member with rfl | rfl | rfl <;> decide
  rw [lookRow]
  cases openBracket row column (.scalar m) brackets <;>
    simp [openingQuote_mark mark, mark.uncommented, mark.unjoined, size, mark.wordless, opens]

theorem lookRow_open {m : Char} (member : m ∈ ['(', '[', '{']) (shallow : brackets.length < bracketLimit)
    (u : Text) : lookRow row column (.scalar m :: u) brackets =
      lookRow row (column + 1) u (⟨.scalar m, row, column⟩ :: brackets) := by
  rw [lookRow_bracket member, openBracket, if_pos shallow]

theorem lookRow_full {m : Char} (member : m ∈ ['(', '[', '{']) (full : bracketLimit ≤ brackets.length)
    (u : Text) : lookRow row column (.scalar m :: u) brackets = .fault ⟨.deepBrackets, row, column⟩ := by
  rw [lookRow_bracket member, openBracket, if_neg (Nat.not_lt.mpr full)]

theorem lookRow_close {m : Char} (member : m ∈ [')', ']', '}']) {b : Bracket}
    (closes : closingOf? b.mark = some (.scalar m)) (u : Text) :
    lookRow row column (.scalar m :: u) (b :: brackets) = lookRow row (column + 1) u brackets := by
  have mark : Mark (.scalar m) := mark_of_mem (List.mem_append_right ['(', '[', '{']
    (List.mem_append_left [',', ':', '.', '-', '+', '=', ' '] member))
  have size : numberSize (.scalar m :: u) = 0 := by
    refine numberSize_none mark.figureless ?_
    rintro same
    cases same
    simp at member
  have kind : (closingOf? (.scalar m)).isSome = false ∧ isClosing (.scalar m) = true := by
    simp only [List.mem_cons, List.not_mem_nil, or_false] at member
    rcases member with rfl | rfl | rfl <;> decide
  rw [lookRow]
  simp [openingQuote_mark mark, mark.uncommented, mark.unjoined, size, mark.wordless, kind, closeBracket,
    closes]

theorem takeWhile_wordPart {n rest : Text} (parts : ∀ c ∈ n, isWordPart c = true) (breaks : Breaks rest) :
    (n ++ rest).takeWhile isWordPart = n := by
  rw [List.takeWhile_append_of_pos parts]
  cases rest with
  | nil => exact List.append_nil n
  | cons c u =>
    rw [List.takeWhile_cons_of_neg (by simp [(breaks.mark rfl).wordless]), List.append_nil]

theorem lookRow_word {n rest : Text} (identifier : n.isIdentifier = true) (breaks : Breaks rest) :
    lookRow row column (n ++ rest) brackets = lookRow row (column + n.length) rest brackets := by
  have opening := openingQuote_word identifier breaks
  have word := takeWhile_wordPart
    (fun c member => wordPart_of_name (Text.continuesName_of_isIdentifier identifier c member)) breaks
  obtain ⟨c, v, rfl, starts, parts⟩ := Text.exists_cons_of_isIdentifier identifier
  have size : numberSize (c :: (v ++ rest)) = 0 :=
    numberSize_none (Term.isDigit_startsName starts)
      fun point => absurd point (Term.startsName_ne starts (by decide))
  have whole : (v ++ []).takeWhile CodePoint.continuesName = v ++ [] :=
    List.takeWhile_append_of_pos parts
  rw [List.append_nil] at whole
  rw [List.cons_append] at opening word ⊢
  rw [lookRow]
  simp only [opening, word, size, starts,
    Term.startsName_ne starts (by decide : (CodePoint.scalar '#').startsName = false),
    Term.startsName_ne starts (by decide : (CodePoint.scalar '\\').startsName = false)]
  simp [whole, Nat.add_comm 1, Nat.add_assoc]

theorem digitText_plain : ∀ d, d < 10 → isQuote (Decimal.digitText d) = none ∧
    Decimal.digitText d ≠ .scalar '#' ∧ Decimal.digitText d ≠ .scalar '\\' := by decide

theorem digitText_unprefixed (d : Nat) (small : d < 10) : Unprefixed (Decimal.digitText d) := by
  have each : ∀ d, d < 10 → (['r', 'b', 'f', 'u'].all fun l => lower (Decimal.digitText d) != .scalar l) := by
    decide
  intro l member
  simpa using List.all_eq_true.mp (each d small) l member

theorem lookRow_number {d : Nat} (small : d < 10) {v rest : Text}
    (size : numberSize (Decimal.digitText d :: v ++ rest) = (Decimal.digitText d :: v).length)
    (breaks : Breaks rest) : lookRow row column (Decimal.digitText d :: v ++ rest) brackets =
      lookRow row (column + (Decimal.digitText d :: v).length) rest brackets := by
  obtain ⟨unquoted, uncommented, unjoined⟩ := digitText_plain d small
  have opening := openingQuote_unprefixed unquoted (digitText_unprefixed d small) (v ++ rest)
  have behind : (Decimal.digitText d :: v ++ rest).drop (Decimal.digitText d :: v).length = rest :=
    List.drop_left
  have wordless : rest.takeWhile isWordPart = [] := takeWhile_wordPart (List.forall_mem_nil _) breaks
  rw [List.cons_append] at size behind ⊢
  rw [lookRow]
  simp only [opening, size, behind, wordless, uncommented, unjoined]
  simp [Nat.add_comm 1, Nat.add_assoc]

theorem lookRow_quote (t : Text) {rest : Text} (single : rest.head? ≠ some (.scalar '"')) :
    lookRow row column (t.quote ++ rest) brackets =
      lookRow row (column + t.quote.length) rest brackets := by
  have untripled := Text.quote_untripled t single
  rw [Text.quote_cons] at untripled ⊢
  have length : t.quote.length = (Text.quoteBody t).length + 2 := by simp [Text.quote]
  rw [lookRow, openingQuote_quote]
  simp only [List.drop_zero, untripled, Bool.false_eq_true, ↓reduceIte, Nat.zero_add, List.drop_one,
    List.tail_cons, closingInRow_quoteBody, length]
  have behind : (Text.quoteBody t ++ .scalar '"' :: rest).drop (1 + ((Text.quoteBody t).length + 1) - 1) = rest := by
    rw [show 1 + ((Text.quoteBody t).length + 1) - 1 = (Text.quoteBody t).length + 1 by omega]
    simp
  rw [behind]
  congr 1
  omega

end Broken

end RenderSource
