import RenderSource.Text.Quoted
import RenderSource.Text.Lines
import RenderSource.Proofs.Number.Figures
/-!
Quoted literals read back. Each code point is written as itself or as one escape, and the reader undoes
an escape and stops at the quote that closes the literal, whatever follows. No code point of a literal
can end a row or is unfit for source.
-/
namespace RenderSource

namespace CodePoint

theorem ofNat_val (c : CodePoint) : ofNat? c.val = some c := by
  cases c with
  | scalar c =>
    have valid : c.toNat.isValidChar := c.valid
    rw [ofNat?, val, dif_pos valid]
    rfl
  | surrogate u =>
    have bound := u.isLt
    have invalid : ¬ (0xD800 + u.val).isValidChar := by
      simp only [Nat.isValidChar]; omega
    have range : 0xD800 ≤ 0xD800 + u.val ∧ 0xD800 + u.val < 0xE000 := by omega
    simp [ofNat?, val, invalid, range]

theorem val_injective {c d : CodePoint} (same : c.val = d.val) : c = d := by
  have h := ofNat_val c
  rw [same, ofNat_val d] at h
  exact (Option.some.inj h).symm

/-- What no row of emitted source holds: control characters, the delete character, surrogates. -/
def isUnfit (c : CodePoint) : Bool := c.isSurrogate || c.val < 0x20 || c.val = 0x7F

theorem newline_unfit : newline.isUnfit = true := by decide

theorem val_surrogate {c : CodePoint} (h : c.isSurrogate = true) :
    0xD800 ≤ c.val ∧ c.val < 0xE000 := by
  cases c with
  | scalar c => simp [isSurrogate] at h
  | surrogate u => have bound := u.isLt; simp only [val]; omega

end CodePoint

namespace Text

theorem escape_unsafe_cases {c : CodePoint} (h : unsafeInLiteral c = true) :
    ∃ e, escapeInLiteral c = .scalar '\\' :: e ∧ ∀ rest, readEscape? (e ++ rest) = some (c, rest) := by
  unfold escapeInLiteral
  split
  · subst c; exact ⟨[.scalar '\\'], rfl, fun rest => rfl⟩
  split
  · subst c; exact ⟨[.scalar '"'], rfl, fun rest => rfl⟩
  split
  · subst c; exact ⟨[.scalar 'n'], rfl, fun rest => rfl⟩
  split
  · subst c; exact ⟨[.scalar 't'], rfl, fun rest => rfl⟩
  split
  · subst c; exact ⟨[.scalar 'r'], rfl, fun rest => rfl⟩
  split
  · rename_i surrogate
    have range := CodePoint.val_surrogate surrogate
    refine ⟨.scalar 'u' :: Decimal.hexPadded 4 c.val, rfl, fun rest => ?_⟩
    rw [Decimal.hexPadded_four (by omega) (by omega)]
    have back := CodePoint.ofNat_val c
    simp only [List.cons_append, List.nil_append, readEscape?]
    rw [Decimal.readHex_four (by omega) (by omega) (by omega) (by omega)]
    rw [show ((c.val / 4096 * 16 + c.val / 256 % 16) * 16 + c.val / 16 % 16) * 16 + c.val % 16 =
      c.val by omega]
    simp [back]
  · rename_i notBackslash notQuote notNewline notTab notReturn notSurrogate
    have bound : c.val < 256 := by
      simp [unsafeInLiteral, notBackslash, notQuote, notSurrogate] at h
      omega
    refine ⟨.scalar 'x' :: Decimal.hexPadded 2 c.val, rfl, fun rest => ?_⟩
    rw [Decimal.hexPadded_two bound]
    have back := CodePoint.ofNat_val c
    simp only [List.cons_append, List.nil_append, readEscape?]
    rw [Decimal.readHex_two (by omega) (by omega),
      show c.val / 16 * 16 + c.val % 16 = c.val by omega]
    simp [back]

theorem escape_safe {c : CodePoint} (h : unsafeInLiteral c = false) : escapeInLiteral c = [c] := by
  have newline : c ≠ .scalar '\n' := by rintro rfl; simp [unsafeInLiteral, CodePoint.val] at h
  have tab : c ≠ .scalar '\t' := by rintro rfl; simp [unsafeInLiteral, CodePoint.val] at h
  have ret : c ≠ .scalar '\r' := by rintro rfl; simp [unsafeInLiteral, CodePoint.val] at h
  simp only [unsafeInLiteral, Bool.or_eq_false_iff, decide_eq_false_iff_not] at h
  simp [escapeInLiteral, unsafeInLiteral, h, newline, tab, ret]

theorem unquoteBody_escape (c : CodePoint) (rest : Text) :
    unquoteBody? (escapeInLiteral c ++ rest) =
      (unquoteBody? rest).map fun (t, r) => (c :: t, r) := by
  cases h : unsafeInLiteral c with
  | true =>
    obtain ⟨e, written, reads⟩ := escape_unsafe_cases h
    rw [written, List.cons_append, unquoteBody?]
    simp only [CodePoint.scalar.injEq, Char.reduceEq, ↓reduceIte]
    split
    · rename_i none; rw [reads rest] at none; cases none
    · rename_i d r some
      rw [reads rest] at some
      obtain ⟨rfl, rfl⟩ := Prod.mk.inj (Option.some.inj some)
      rfl
  | false =>
    rw [escape_safe h, List.singleton_append, unquoteBody?]
    have newline : c ≠ .scalar '\n' := by rintro rfl; simp [unsafeInLiteral, CodePoint.val] at h
    simp only [unsafeInLiteral, Bool.or_eq_false_iff, decide_eq_false_iff_not] at h
    simp [h, newline]

theorem unquoteBody_quoteBody (t rest : Text) :
    unquoteBody? (quoteBody t ++ .scalar '"' :: rest) = some (t, rest) := by
  induction t with
  | nil => rw [quoteBody, List.flatMap_nil, List.nil_append, unquoteBody?]; simp
  | cons c t ih =>
    rw [quoteBody, List.flatMap_cons, List.append_assoc, unquoteBody_escape]
    rw [quoteBody] at ih
    rw [ih]
    rfl

theorem quote_eq (t : Text) : t.quote = .scalar '"' :: (quoteBody t ++ [.scalar '"']) := rfl

theorem unquote_quote (t rest : Text) : unquote? (t.quote ++ rest) = some (t, rest) := by
  rw [quote_eq, List.cons_append, List.append_assoc, unquote?]
  exact unquoteBody_quoteBody t rest

theorem digitText_fit : ∀ d, d < 16 → (Decimal.digitText d).isUnfit = false := by decide

theorem hexPadded_fit (width n : Nat) : ∀ c ∈ Decimal.hexPadded width n, c.isUnfit = false := by
  intro c member
  simp only [Decimal.hexPadded, List.mem_append, List.mem_replicate, List.mem_map] at member
  rcases member with ⟨_, rfl⟩ | ⟨d, figure, rfl⟩
  · decide
  · exact digitText_fit d (Decimal.digits_lt (by omega) n d figure)

theorem escape_fit (c : CodePoint) : ∀ d ∈ escapeInLiteral c, d.isUnfit = false := by
  cases h : unsafeInLiteral c with
  | false =>
    rw [escape_safe h]
    simp only [unsafeInLiteral, Bool.or_eq_false_iff, decide_eq_false_iff_not] at h
    have beyond := Nat.le_of_not_lt h.1.1.1.2
    simp [CodePoint.isUnfit, h, beyond]
  | true =>
    intro d member
    unfold escapeInLiteral at member
    repeat' split at member
    case isFalse.isFalse.isFalse.isFalse.isFalse.isTrue =>
      rcases List.mem_append.mp member with front | figures
      · exact (by decide : ∀ d ∈ wording "\\u", d.isUnfit = false) d front
      · exact hexPadded_fit 4 c.val d figures
    case isFalse.isFalse.isFalse.isFalse.isFalse.isFalse =>
      rcases List.mem_append.mp member with front | figures
      · exact (by decide : ∀ d ∈ wording "\\x", d.isUnfit = false) d front
      · exact hexPadded_fit 2 c.val d figures
    all_goals exact (by decide : ∀ d ∈ wording _, d.isUnfit = false) d member

theorem quote_fit (t : Text) : ∀ c ∈ t.quote, c.isUnfit = false := by
  intro c member
  rw [quote_eq, List.mem_cons, List.mem_append, List.mem_singleton] at member
  rcases member with rfl | body | rfl
  · decide
  · obtain ⟨d, _, inside⟩ := List.mem_flatMap.mp body
    exact escape_fit d c inside
  · decide

end Text

end RenderSource
