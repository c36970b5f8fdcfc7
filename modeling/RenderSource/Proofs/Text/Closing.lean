import RenderSource.Code.Broken
import RenderSource.Proofs.Text.Quoting
/-!
Where a quoted text ends for those that only look for its closing quote: a backslash hides what stands
behind it, and nothing else in the quoted text is a quote, a backslash or the end of a row.
-/
namespace RenderSource

namespace Text

def Inert (c : CodePoint) : Prop := c ≠ .scalar '"' ∧ c ≠ .scalar '\\' ∧ c ≠ newline

theorem hexPadded_inert (width n : Nat) : ∀ c ∈ Decimal.hexPadded width n, Inert c := by
  have figures : ∀ d, d < 16 → Decimal.digitText d ≠ .scalar '"' ∧
      Decimal.digitText d ≠ .scalar '\\' ∧ Decimal.digitText d ≠ newline := by decide
  intro c member
  simp only [Decimal.hexPadded, List.mem_append, List.mem_replicate, List.mem_map] at member
  rcases member with ⟨_, rfl⟩ | ⟨d, figure, rfl⟩
  · exact figures 0 (by omega)
  · exact figures d (Decimal.digits_lt (by omega) n d figure)

theorem escape_shape (c : CodePoint) : (escapeInLiteral c = [c] ∧ Inert c) ∨
    ∃ d hs, escapeInLiteral c = .scalar '\\' :: d :: hs ∧ d ≠ newline ∧ d ≠ .scalar '\r' ∧
      ∀ h ∈ hs, Inert h := by
  have short : ∀ d : Char, d ∈ ['\\', '"', 'n', 't', 'r'] →
      CodePoint.scalar d ≠ newline ∧ CodePoint.scalar d ≠ .scalar '\r' ∧
        ∀ h ∈ ([] : Text), Inert h := by
    intro d member
    simp only [List.mem_cons, List.not_mem_nil, or_false] at member
    rcases member with rfl | rfl | rfl | rfl | rfl <;>
      exact ⟨by decide, by decide, List.forall_mem_nil _⟩
  unfold escapeInLiteral
  split
  · exact .inr ⟨_, [], rfl, short '\\' (by simp)⟩
  split
  · exact .inr ⟨_, [], rfl, short '"' (by simp)⟩
  split
  · exact .inr ⟨_, [], rfl, short 'n' (by simp)⟩
  split
  · exact .inr ⟨_, [], rfl, short 't' (by simp)⟩
  split
  · exact .inr ⟨_, [], rfl, short 'r' (by simp)⟩
  split
  · exact .inr ⟨.scalar 'u', _, rfl, by decide, by decide, hexPadded_inert 4 c.val⟩
  split
  · exact .inr ⟨.scalar 'x', _, rfl, by decide, by decide, hexPadded_inert 2 c.val⟩
  · rename_i backslash quote row _ _ _ _
    exact .inl ⟨rfl, quote, backslash, row⟩

theorem quoteBody_cons (c : CodePoint) (t : Text) :
    quoteBody (c :: t) = escapeInLiteral c ++ quoteBody t := List.flatMap_cons

theorem quote_cons (t rest : Text) :
    t.quote ++ rest = .scalar '"' :: (quoteBody t ++ .scalar '"' :: rest) := by
  simp [quote]

/-- The quotes of a literal are no triple quotes, unless another quote follows. -/
theorem quote_untripled (t : Text) {rest : Text} (single : rest.head? ≠ some (.scalar '"')) :
    beginsWith [.scalar '"', .scalar '"', .scalar '"'] (t.quote ++ rest) = false := by
  rw [quote_cons]
  cases t with
  | nil =>
    cases rest with
    | nil => rfl
    | cons c u =>
      have other : CodePoint.scalar '"' ≠ c := fun same => single (congrArg some same.symm)
      simp [beginsWith, dropFront?, quoteBody, other]
  | cons c t =>
    rw [quoteBody_cons]
    rcases escape_shape c with ⟨plain, quote, _⟩ | ⟨d, hs, escaped, _⟩
    · simp [beginsWith, dropFront?, plain, Ne.symm quote]
    · simp [beginsWith, dropFront?, escaped]

end Text

namespace Broken

theorem closingInRow_inert {hs : Text} (inert : ∀ h ∈ hs, Text.Inert h) (rest : Text) :
    closingInRow? ⟨'"', false⟩ (hs ++ rest) =
      (closingInRow? ⟨'"', false⟩ rest).map (· + hs.length) := by
  induction hs with
  | nil =>
    rw [List.nil_append]
    cases closingInRow? ⟨'"', false⟩ rest <;> rfl
  | cons h hs ih =>
    obtain ⟨quote, backslash, _⟩ := inert h (by simp)
    have later := ih fun c member => inert c (List.mem_cons_of_mem h member)
    rw [List.cons_append, closingInRow?.eq_def]
    simp only [backslash, quote, ↓reduceIte, later, List.length_cons]
    cases closingInRow? ⟨'"', false⟩ rest with
    | none => rfl
    | some n => exact congrArg some (show n + hs.length + 1 = n + (hs.length + 1) by omega)

theorem closingInRow_escape (d : CodePoint) (t : Text) :
    closingInRow? ⟨'"', false⟩ (.scalar '\\' :: d :: t) =
      (closingInRow? ⟨'"', false⟩ t).map (· + 2) := by
  rw [closingInRow?.eq_def]
  rfl

theorem closingInRow_close (t : Text) : closingInRow? ⟨'"', false⟩ (.scalar '"' :: t) = some 1 := by
  rw [closingInRow?.eq_def]
  rfl

theorem closingInRow_quoteBody (t rest : Text) :
    closingInRow? ⟨'"', false⟩ (Text.quoteBody t ++ .scalar '"' :: rest) =
      some ((Text.quoteBody t).length + 1) := by
  induction t with
  | nil => exact closingInRow_close rest
  | cons c t ih =>
    rw [Text.quoteBody_cons, List.append_assoc]
    rcases Text.escape_shape c with ⟨plain, inert⟩ | ⟨d, hs, escaped, _, _, inert⟩
    · rw [plain, closingInRow_inert (by simpa using inert), ih]
      exact congrArg some (by simp only [List.length_append, List.length_singleton]; omega)
    · rw [escaped, List.cons_append, List.cons_append, closingInRow_escape, closingInRow_inert inert, ih]
      exact congrArg some (by simp only [List.length_append, List.length_cons]; omega)

end Broken

namespace Lexeme

theorem openingQuote_quote (u : Text) : openingQuote? (.scalar '"' :: u) = some (0, '"') := by
  rw [openingQuote?.eq_def]
  rfl

theorem stringEnd_inert {hs : Text} (inert : ∀ h ∈ hs, Text.Inert h) {rest : Text} (more : rest ≠ []) :
    stringEnd? '"' (hs ++ rest) = (stringEnd? '"' rest).map fun (n, b) => (n + hs.length, b) := by
  induction hs with
  | nil =>
    rw [List.nil_append]
    cases stringEnd? '"' rest <;> rfl
  | cons h hs ih =>
    obtain ⟨quote, backslash, row⟩ := inert h (by simp)
    have later := ih fun c member => inert c (List.mem_cons_of_mem h member)
    obtain ⟨d, u, next⟩ := List.exists_cons_of_ne_nil (List.append_ne_nil_of_right_ne_nil hs more)
    rw [next] at later
    rw [List.cons_append, next, stringEnd?, if_neg backslash, if_neg row, if_neg quote, later]
    cases stringEnd? '"' rest with
    | none => rfl
    | some n => exact congrArg some (Prod.ext (by simp only [List.length_cons]; omega) rfl)

theorem stringEnd_close (t : Text) : stringEnd? '"' (.scalar '"' :: t) = some (1, false) := by
  cases t <;> rfl

theorem stringEnd_quoteBody (t rest : Text) :
    stringEnd? '"' (Text.quoteBody t ++ .scalar '"' :: rest) =
      some ((Text.quoteBody t).length + 1, false) := by
  induction t with
  | nil => exact stringEnd_close rest
  | cons c t ih =>
    have more : Text.quoteBody t ++ .scalar '"' :: rest ≠ [] := by simp
    rw [Text.quoteBody_cons, List.append_assoc]
    rcases Text.escape_shape c with ⟨plain, inert⟩ | ⟨d, hs, escaped, row, unreturned, inert⟩
    · rw [plain, stringEnd_inert (by simpa using inert) more, ih]
      exact congrArg some (Prod.ext (by simp only [List.length_append, List.length_singleton]; omega) rfl)
    · rw [escaped, List.cons_append, List.cons_append, stringEnd?, if_pos rfl, if_neg row,
        if_neg (fun both => unreturned both.1), stringEnd_inert inert more, ih]
      exact congrArg some (Prod.ext (by simp only [List.length_append, List.length_cons]; omega) rfl)

end Lexeme

end RenderSource
